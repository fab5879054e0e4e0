import MiniPP.Proxy.Conversation
import MiniPP.Proxy.Selection

/-! A client that was rejected. Its connection stays on a kill list until the next tick, or for
some seconds, and its callbacks run on as before: what each of them still does for the
client, by its phase and by what comes in. -/
namespace MiniPP.Proxy

variable {cfg : Config}

/-! ## Error replies -/

def ErrorReply (cfg : Config) (data : Bytes) : Prop := ∃ p n, Protocol.Error cfg p n data

theorem errorReply_iff {data : Bytes} : ErrorReply cfg data ↔
    data = [0x05,0xFF] ∨ data = [0x01,0x01] ∨
    (data.length = 10 ∧ ∃ status rest, status ≠ 0 ∧ data = 0x05 :: status :: 0x00 :: rest) ∨
    data = http407Response ∨ data = http502Response cfg := by
  constructor
  · rintro ⟨p,n,error⟩
    match p, n with
    | .socks5, 0 => exact .inl error
    | .socks5, 1 => exact .inr (.inl error)
    | .socks5, 2 => exact .inr (.inr (.inl error))
    | .connect, 0 | .forward, 0 => exact .inr (.inr (.inr error))
    | .socks5, n + 3 | .connect, n + 1 | .forward, n + 1 => exact error.elim
  · rintro (error | error | error | error)
    · exact ⟨.socks5,0,error⟩
    · exact ⟨.socks5,1,error⟩
    · exact ⟨.socks5,2,error⟩
    · exact ⟨.connect,0,error⟩

/-- The replies of a protocol report no failure, in this protocol or in another. -/
theorem not_errorReply {p : Protocol} {data : Bytes} (reply : data ∈ p.replies) : ¬ ErrorReply cfg data := by
  have short {data : Bytes} (first : data[0]? ≠ some 72) (other : data ≠ [0x05,0xFF])
      (other' : data ≠ [0x01,0x01]) (established : data.length = 10 → data[1]? = some 0) :
      ¬ ErrorReply cfg data := by
    rw [errorReply_iff]
    rintro (same | same | ⟨length,status,rest,failed,rfl⟩ | same | same)
    · exact other same
    · exact other' same
    · exact failed (by simpa using established length)
    · exact first (by rw [same]; exact Protocol.http407_bytes.1)
    · exact first (by rw [same]; exact (Protocol.http502_bytes cfg).1)
  cases p with
  | socks5 =>
    simp only [Protocol.replies,List.mem_cons,List.not_mem_nil,or_false] at reply
    rcases reply with rfl | rfl | rfl
    all_goals exact short (by decide) (by decide) (by decide) (by decide)
  | connect =>
    obtain rfl : data = http200Response := by simpa [Protocol.replies] using reply
    have text := Protocol.http200_bytes.1
    rw [errorReply_iff]
    rintro (same | same | ⟨-,status,rest,-,same⟩ | same | same)
    · rw [same] at text
      cases text
    · rw [same] at text
      cases text
    · rw [same] at text
      cases text
    · exact Protocol.http407_ne_200 same.symm
    · exact Protocol.http502_ne_200 cfg same.symm
  | forward => simp [Protocol.replies] at reply

/-! ## What a rejected client must not cause -/

/-- An authentication, a device request, a packet to a relay, or a reply that reports a
failure; `pushed` tells payload from replies. -/
def Effect.Breach (cfg : Config) (pushed : Bool) : Effect → Prop
  | .requestAuth _ | .postDeviceRequest _ | .postMessage _ _ => True
  | .postData data => pushed = false ∧ ErrorReply cfg data
  | _ => False

def Breaches (cfg : Config) (pushed : Bool) (out : List Effect) : Prop :=
  ∃ x ∈ out, x.Breach cfg pushed

@[simp] theorem breaches_nil (pushed : Bool) : ¬ Breaches cfg pushed [] := by simp [Breaches]

@[simp] theorem breaches_cons {pushed : Bool} {x : Effect} {out : List Effect} :
    Breaches cfg pushed (x :: out) ↔ x.Breach cfg pushed ∨ Breaches cfg pushed out := by simp [Breaches]

@[simp] theorem breaches_append {pushed : Bool} {out more : List Effect} :
    Breaches cfg pushed (out ++ more) ↔ Breaches cfg pushed out ∨ Breaches cfg pushed more := by
  simp only [Breaches,List.mem_append,or_and_right,exists_or]

@[simp] theorem breach_killWhenWritten {pushed pendingWrites : Bool} :
    ¬ (killWhenWritten pendingWrites).Breach cfg pushed := by
  cases pendingWrites <;> simp [killWhenWritten,Effect.Breach]

/-- A complete SOCKS5 greeting without the one method that is served. -/
def Unmatched (data : Bytes) : Prop :=
  let nm := (data.getD 1 0).toNat
  3 ≤ data.length ∧ data.getD 0 0 = 0x05 ∧ nm ≠ 0 ∧ 2 + nm ≤ data.length ∧
    ((data.drop 2).take nm).contains 0x02 = false

/-- A complete SOCKS5 login. -/
def LoginComplete (data : Bytes) : Prop :=
  let nameLen := (data.getD 1 0).toNat
  let passLen := (data.getD (2 + nameLen) 0).toNat
  3 ≤ data.length ∧ (data.getD 0 0 = 0x00 ∨
    data.getD 0 0 = 0x01 ∧ 3 + nameLen + passLen ≤ data.length)

/-- Well-formed lines come to a blank one. -/
def EndsRaw : List Bytes → Prop
  | [] => False
  | line :: lines => line = [] ∨ isMalformed line = false ∧ EndsRaw lines

def EndsNormal (cfg : Config) : Http → List Bytes → Prop
  | _, [] => False
  | http, line :: lines =>
    if line = [] ∧ http.httpHeaderLine = [] then True
    else
      match processLine cfg { http with httpHeaderLine := http.httpHeaderLine ++ line } line.length with
      | .next http => EndsNormal cfg { http with httpHeaderLine := [] } lines
      | _ => False

/-- With these increments the transferred sizes are due to be reported. -/
def Reports (c : ClientConnection) (uploadSizeIncrement dumpedSizeIncrement : Nat) : Prop :=
  ¬ (sub64 ((c.totalUploadDataSize + uploadSizeIncrement) % 2^64) c.totalReportedUploadDataSize <
      readOverflowSize ∧
    sub64 ((c.totalDumpedDataSize + dumpedSizeIncrement) % 2^64) c.totalReportedDumpedDataSize <
      writeOverflowSize)

/-- An upload of this data has something to send to the relay. -/
def Uploads (cfg : Config) (c : ClientConnection) (data : Bytes) : Prop :=
  c.relayConnectionId ∈ cfg.relayServers ∧ (data ≠ [] ∨ Reports c data.length 0)

/-- The event makes the callback do what a rejected client must not cause. -/
def Provoked (cfg : Config) (c : ClientConnection) : ConnEvent → Prop
  | .data data =>
    match c.phase with
    | .unknown => Unmatched data
    | .s5WaitForAuthInfo => LoginComplete data
    | .s5WaitForConnectionRequest => Unsupported data ∨
        ∃ address domain, requestVerdict data = .opens address domain ∧
          c.relayConnectionId ∈ cfg.relayServers
    | .httpRawChallenge => ∃ lines tail, Lines.Split cr lf data lines tail ∧ EndsRaw lines
    | .httpNormalChallenge =>
      ∃ lines tail, Lines.Split cr lf data lines tail ∧ EndsNormal cfg c.http lines
    | .s5ConnectionReady | .httpRawReady | .httpNormalReady => Uploads cfg c data
    | _ => False
  | .authResult _ => c.phase.stage = .authenticating
  | .deviceSelected result =>
    match c.phase with
    | .s5WaitForDeviceSelection => result.deviceRelaySideId = 0
    | .httpRawWaitForDeviceSelection | .httpNormalWaitForDeviceSelection =>
      result.deviceRelayServerRuntimeId ∈ cfg.relayServers
    | _ => False
  | .relayState n _ => c.phase = .httpNormalWaitForConnectionEstablish ∧
      n.newState = stateEstablished ∧ Uploads cfg c c.http.rebuiltHttpHeader
  | .relayDestroy _ => c.phase.stage = .opening
  | .relayPush _ payloadSize => c.relayConnectionId ∈ cfg.relayServers ∧ Reports c 0 payloadSize
  | .peerClose => False

/-! ## Callback by callback -/

theorem breaches_tryUpdate (c : ClientConnection) (up down : Nat) (pushed : Bool) :
    Breaches cfg pushed (tryUpdateDataTransferSize cfg c up down).effects ↔
      c.relayConnectionId ∈ cfg.relayServers ∧ Reports c up down := by
  unfold tryUpdateDataTransferSize
  dsimp only
  split
  · rename_i small
    exact iff_of_false (breaches_nil pushed) (fun reports => reports.2 small)
  · rename_i large
    split
    · rename_i known
      exact iff_of_true (breaches_cons.mpr (.inl trivial)) ⟨known,large⟩
    · rename_i unknown
      exact iff_of_false (by simp [Effect.Breach]) (fun reports => unknown reports.1)

theorem payloads_eq_nil (fuel : Nat) (data : Bytes) (enough : data.length ≤ fuel) :
    payloads fuel data = [] ↔ data = [] := by
  constructor
  · intro none
    rw [← flatten_payloads fuel data enough,none]
    rfl
  · rintro rfl
    cases fuel <;> simp [payloads]

theorem breaches_uploadData (c : ClientConnection) (data : Bytes) :
    Breaches cfg false (onUploadData cfg c data).effects ↔ Uploads cfg c data := by
  unfold onUploadData Uploads
  split
  · rename_i known
    have pushes : Breaches cfg false ((payloads data.length data).map (fun payload =>
        Effect.postMessage c.relayConnectionId (.postData
          { proxySideConnectionId := c.connectionId
            relaySideConnectionId := c.relaySideConnectionId
            payload := payload }))) ↔ data ≠ [] := by
      rw [← not_iff_not,not_not,← payloads_eq_nil data.length data (Nat.le_refl _)]
      cases payloads data.length data with
      | nil => simp
      | cons payload rest => simp [Effect.Breach]
    simp only [breaches_append,breaches_tryUpdate,pushes,known,true_and,breaches_cons,breaches_nil,
      or_false]
    simp [Effect.Breach]
  · rename_i unknown
    simp [unknown]

theorem breaches_challenge (c : ClientConnection) (data : Bytes) :
    Breaches cfg false (onChallenge c data).effects ↔ Unmatched data := by
  have kills {out : List Effect} (only : ∀ x ∈ out, x = .kill) : ¬ Breaches cfg false out := by
    rintro ⟨x,member,breach⟩
    rw [only x member] at breach
    exact breach
  unfold onChallenge
  by_cases short : data.length < 3
  · rw [if_pos short]
    exact iff_of_false (breaches_nil _) (fun unmatched => absurd unmatched.1 (by omega))
  · rw [if_neg short]
    by_cases socks : data.getD 0 0 = 0x05
    · rw [if_pos socks]
      unfold onS5Challenge
      dsimp only
      split
      · rename_i none
        exact iff_of_false (kills (by simp)) (fun unmatched => unmatched.2.2.1 none)
      · rename_i some_
        split
        · rename_i waits
          exact iff_of_false (breaches_nil _)
            (fun unmatched => absurd unmatched.2.2.2.1 (Nat.not_le.mpr waits))
        · rename_i complete
          split
          · rename_i offered
            refine iff_of_false ?_ (fun unmatched => by rw [unmatched.2.2.2.2] at offered; cases offered)
            have reply : ¬ ErrorReply cfg [0x05,0x02] := not_errorReply (p := .socks5) (by decide)
            simp [Effect.Breach,reply]
          · rename_i missing
            refine iff_of_true ?_ ⟨by omega,socks,some_,by omega,by simpa using missing⟩
            exact breaches_cons.mpr (.inl ⟨rfl,.socks5,0,rfl⟩)
    · rw [if_neg socks]
      refine iff_of_false (kills ?_) (fun unmatched => socks unmatched.2.1)
      unfold onHttpChallenge
      dsimp only
      repeat' split
      all_goals simp

theorem breaches_s5ClientAuth (c : ClientConnection) (data : Bytes) :
    Breaches cfg false (onS5ClientAuth c data).effects ↔ LoginComplete data := by
  unfold onS5ClientAuth LoginComplete
  dsimp only
  split
  · rename_i short
    exact iff_of_false (breaches_nil _) (fun complete => absurd complete.1 (by omega))
  · rename_i long
    split
    · rename_i version
      have other : data.getD 0 0 ≠ 0x00 := by rw [version]; decide
      split
      · rename_i waits
        apply iff_of_false (breaches_nil _)
        rintro ⟨-,plain | ⟨-,complete⟩⟩
        · exact other plain
        · omega
      · split
        · rename_i waits
          apply iff_of_false (breaches_nil _)
          rintro ⟨-,plain | ⟨-,complete⟩⟩
          · exact other plain
          · omega
        · rename_i complete
          refine iff_of_true ?_ ⟨by omega,.inr ⟨version,by omega⟩⟩
          split <;> exact breaches_cons.mpr (.inl trivial)
    · rename_i version
      split
      · rename_i plain
        exact iff_of_true (breaches_cons.mpr (.inl trivial)) ⟨by omega,.inl plain⟩
      · rename_i unknown
        apply iff_of_false (breaches_nil _)
        rintro ⟨-,plain | ⟨same,-⟩⟩
        · exact unknown plain
        · exact version same

theorem breaches_openRemote (c : ClientConnection) (address : NetAddress) (hostname : Bytes) :
    Breaches cfg false (onOpenRemoteConnection cfg c address hostname).effects ↔
      c.relayConnectionId ∈ cfg.relayServers := by
  rcases openRemote_effects cfg c address hostname with ⟨known,m,effects⟩ | ⟨unknown,effects⟩
  · rw [effects]
    exact iff_of_true (breaches_cons.mpr (.inl trivial)) known
  · rw [effects]
    exact iff_of_false (breaches_nil _) unknown

theorem breaches_s5ConnectionRequest (c : ClientConnection) (data : Bytes) :
    Breaches cfg false (onS5ConnectionRequest cfg c data).effects ↔ Unsupported data ∨
      ∃ address domain, requestVerdict data = .opens address domain ∧
        c.relayConnectionId ∈ cfg.relayServers := by
  unfold onS5ConnectionRequest requestVerdict
  by_cases short : data.length < 10
  · simp only [if_pos short,breaches_nil,reduceCtorEq,false_and,exists_false,or_false,false_iff]
    exact fun unsupported => absurd unsupported.1 (by omega)
  by_cases long : data.length ≥ 6 + 256
  · simp only [if_neg short,if_pos long,reduceCtorEq,false_and,exists_false,or_false]
    exact iff_of_false (by simp [Effect.Breach]) (fun unsupported => absurd unsupported.2.1 (by omega))
  by_cases version : data.getD 0 0 ≠ 0x05 ∨ data.getD 2 0 ≠ 0x00
  · simp only [if_neg short,if_neg long,if_pos version,reduceCtorEq,false_and,exists_false,or_false]
    refine iff_of_false (by simp [Effect.Breach]) (fun unsupported => ?_)
    exact version.elim (fun other => other unsupported.2.2.1) (fun other => other unsupported.2.2.2.2.1)
  simp only [if_neg short,if_neg long,if_neg version]
  have ipv4 (unsupported : Unsupported data) := s5Target_ipv4 unsupported.2.2.2.2.2
  cases target : s5Target data with
  | incomplete =>
    apply iff_of_false (breaches_nil _)
    rintro (unsupported | ⟨_,_,opens,-⟩)
    · rw [ipv4 unsupported] at target
      cases target
    · cases opens
  | invalid =>
    apply iff_of_false (by simp [Effect.Breach])
    rintro (unsupported | ⟨_,_,opens,-⟩)
    · rw [ipv4 unsupported] at target
      cases target
    · cases opens
  | target address domain offset =>
    dsimp only
    by_cases operation : data.getD 1 0 ≠ 0x01 ∧ data.getD 3 0 ≠ 0x03 ∧ data.getD 3 0 ≠ 0x04
    · obtain ⟨type,rfl⟩ := s5Target_refused target operation.2
      simp only [if_pos operation]
      refine iff_of_true (breaches_cons.mpr (.inl ⟨rfl,.socks5,2,?_,0x01,(data.drop 3).take 7,by decide,rfl⟩))
        (.inl ⟨by omega,by omega,by simpa using (not_or.mp version).1,operation.1,
          by simpa using (not_or.mp version).2,type⟩)
      simp only [List.length_append,List.length_take,List.length_drop,List.length_cons,List.length_nil]
      omega
    · simp only [if_neg operation]
      rw [breaches_openRemote]
      have other : ¬ Unsupported data := by
        intro unsupported
        refine operation ⟨unsupported.2.2.2.1,?_,?_⟩ <;> rw [unsupported.2.2.2.2.2] <;> decide
      simp [other]

theorem breaches_rawLines (c : ClientConnection) (lines : List Bytes) (np : Bytes) (n : Nat) :
    Breaches cfg false (rawLines cfg c lines np n).effects ↔ EndsRaw lines := by
  induction lines generalizing np n with
  | nil => exact iff_of_false (breaches_nil _) id
  | cons line lines ih =>
    rw [rawLines,EndsRaw]
    split
    · rename_i blank
      refine iff_of_true ?_ (.inl blank)
      split
      · exact breaches_cons.mpr (.inl ⟨rfl,.connect,0,.inl rfl⟩)
      · exact breaches_cons.mpr (.inl trivial)
    · rename_i filled
      split
      · rename_i malformed
        apply iff_of_false (by simp [Effect.Breach])
        simp [filled,malformed]
      · rename_i formed
        rw [ih]
        simp [filled,formed]

theorem breaches_normalLines (size : Nat) (tail : Bytes) (c : ClientConnection) (lines : List Bytes)
    (n : Nat) : Breaches cfg false (normalLines cfg size tail c lines n).effects ↔
      EndsNormal cfg c.http lines := by
  induction lines generalizing c n with
  | nil => exact iff_of_false (breaches_nil _) id
  | cons line lines ih =>
    rw [normalLines,EndsNormal]
    split
    · refine iff_of_true ?_ trivial
      dsimp only
      split
      · exact breaches_cons.mpr (.inl ⟨rfl,.connect,0,.inl rfl⟩)
      · exact breaches_cons.mpr (.inl trivial)
    · dsimp only
      cases processLine cfg { c.http with httpHeaderLine := c.http.httpHeaderLine ++ line } line.length with
      | next http => exact ih _ _
      | invalid => exact iff_of_false (by simp [Effect.Breach]) id
      | outOfBounds => exact iff_of_false (by simp [Effect.Breach]) id

theorem breaches_data (c : ClientConnection) (data : Bytes) :
    Breaches cfg false (onData cfg c data).effects ↔ Provoked cfg c (.data data) := by
  unfold onData Provoked
  cases phase : c.phase with
  | unknown => exact breaches_challenge c data
  | s5WaitForAuthInfo => exact breaches_s5ClientAuth c data
  | s5WaitForConnectionRequest => exact breaches_s5ConnectionRequest c data
  | s5ConnectionReady | httpRawReady | httpNormalReady => exact breaches_uploadData c data
  | httpRawChallenge =>
    obtain ⟨lines,tail,split⟩ := Lines.exists_split (x := cr) (y := lf) data
    have handled : onHttpRawChallenge cfg c data = rawLines cfg c lines [] 0 :=
      rawLoop_lines cfg c split [] 0 (Nat.lt_succ_self _)
    dsimp only
    rw [handled,breaches_rawLines]
    exact (split.exists_iff cr_ne_lf).symm
  | httpNormalChallenge =>
    obtain ⟨lines,tail,split⟩ := Lines.exists_split (x := cr) (y := lf) data
    have handled : onHttpNormalChallenge cfg c data = normalLines cfg data.length tail c lines 0 :=
      normalLoop_lines cfg data.length c split 0 (Nat.lt_succ_self _)
    dsimp only
    rw [handled,breaches_normalLines]
    exact (split.exists_iff cr_ne_lf).symm
  | _ => simp [Effect.Breach]

theorem breaches_authResult (c : ClientConnection) (result : Option AuthResult) :
    Breaches cfg false (onAuthResult c result).effects ↔ c.phase.stage = .authenticating := by
  have error : ErrorReply cfg [0x01,0x01] := ⟨.socks5,1,rfl⟩
  have text : ErrorReply cfg http407Response := ⟨.connect,0,.inl rfl⟩
  unfold onAuthResult
  cases phase : c.phase <;> cases result <;>
    simp [Phase.stage,onS5ClientAuthFinished,onHttpRawAuthFinished,onHttpNormalAuthFinished,
      onAuthFinished,Effect.Breach,error,text]

theorem breaches_deviceSelected (c : ClientConnection) (result : AcquireDeviceResp) :
    Breaches cfg false (onDeviceSelected cfg c result).effects ↔ Provoked cfg c (.deviceSelected result) := by
  have error : ErrorReply cfg [0x01,0x01] := ⟨.socks5,1,rfl⟩
  have reply : ¬ ErrorReply cfg [0x01,0x00] := not_errorReply (p := .socks5) (by decide)
  unfold onDeviceSelected Provoked
  cases phase : c.phase with
  | s5WaitForDeviceSelection =>
    by_cases none : result.deviceRelaySideId = 0 <;> simp [none,Effect.Breach,error,reply]
  | httpRawWaitForDeviceSelection | httpNormalWaitForDeviceSelection =>
    exact breaches_openRemote (useDevice c result) _ _
  | _ => simp [Effect.Breach]

theorem breaches_relayState (c : ClientConnection) (n : PR.ConnectionStateNotify) (pendingWrites : Bool) :
    Breaches cfg false (onRelaySideConnectionStateChange cfg c n pendingWrites).effects ↔
      Provoked cfg c (.relayState n pendingWrites) := by
  have reply : ¬ ErrorReply cfg (s5Reply 0x00) := not_errorReply (p := .socks5) (by decide)
  have text : ¬ ErrorReply cfg http200Response :=
    not_errorReply (p := .connect) (List.mem_singleton.mpr rfl)
  unfold onRelaySideConnectionStateChange Provoked
  cases phase : c.phase with
  | httpNormalWaitForConnectionEstablish =>
    by_cases established : n.newState = stateEstablished
    · simp only [established,true_and]
      exact breaches_uploadData _ _
    · simp [established,Effect.Breach]
  | s5WaitForConnectionEstablish | httpRawWaitForConnectionEstablish =>
    by_cases established : n.newState = stateEstablished <;> simp [established,Effect.Breach,reply,text]
  | s5ConnectionReady => by_cases closed : n.newState = stateClosed <;> simp [closed]
  | _ => simp

theorem breaches_relayDestroy (c : ClientConnection) (pendingWrites : Bool) :
    Breaches cfg false (onDestroyConnection cfg c pendingWrites).effects ↔ c.phase.stage = .opening := by
  have error : ErrorReply cfg (s5Reply 0x03) := ⟨.socks5,2,rfl,0x03,[0x01,0,0,0,0,0,0],by decide,rfl⟩
  have text : ErrorReply cfg (http502Response cfg) := ⟨.connect,0,.inr rfl⟩
  unfold onDestroyConnection
  cases phase : c.phase <;> cases pendingWrites <;>
    simp [Phase.stage,killWhenWritten,Effect.Breach,error,text]

/-- Each callback does what a rejected client must not cause on exactly these events. -/
theorem breaches_iff (c : ClientConnection) (e : ConnEvent) :
    Breaches cfg e.isPush (handle cfg c e).effects ↔ Provoked cfg c e := by
  cases e with
  | data data => exact breaches_data c data
  | peerClose =>
    simp only [handle,onPeerClose,Provoked]
    split <;> simp [Effect.Breach]
  | authResult result => exact breaches_authResult c result
  | deviceSelected result => exact breaches_deviceSelected c result
  | relayState n pendingWrites => exact breaches_relayState c n pendingWrites
  | relayDestroy pendingWrites => exact breaches_relayDestroy c pendingWrites
  | relayPush payload payloadSize =>
    simp only [handle,onRelaySidePushData,ConnEvent.isPush,Provoked]
    rw [breaches_append,breaches_tryUpdate]
    simp [Effect.Breach]

/-! ## Runs -/

/-- What the client sends, its authentication and its device may fail it; a relay or the
client itself may end it otherwise. -/
def ConnEvent.mayFail : ConnEvent → Bool
  | .data _ | .authResult _ | .deviceSelected _ => true
  | .peerClose | .relayState .. | .relayDestroy _ | .relayPush .. => false

def Effect.kills : Effect → Bool
  | .kill | .lingerKill => true
  | _ => false

/-- The connection was killed for a failure of its own. -/
def rejected : Bool → List Entry → Bool
  | _, [] => false
  | _, .received e :: rest => rejected e.mayFail rest
  | failing, .did x :: rest => failing && x.kills || rejected failing rest

/-- Once the connection is rejected, its callbacks do nothing more for it. -/
def Silenced (cfg : Config) (c : ClientConnection) (h : List Entry) (e : ConnEvent) : Prop :=
  rejected false h = true → ¬ Breaches cfg e.isPush (handle cfg c e).effects

/-- Once the connection is rejected, no event comes in that its phase would answer. -/
def Unprovoked (cfg : Config) (c : ClientConnection) (h : List Entry) (e : ConnEvent) : Prop :=
  rejected false h = true → ¬ Provoked cfg c e

/-- In the part of a client in a run, its callbacks do nothing more for it after a rejection
just when no event comes in after it that they would answer. -/
theorem rejection_final {cfg : Config} {keys : KeySource} {s : Server keys} {log : List ServerAction}
    (reach : (serverMachine cfg keys).Reach Machine.anything s log) (c : Nat) :
    ∃ ip,
      let first : ClientConnection := { connectionId := c, remoteIp := ip }
      let es := received (history c log)
      ((connectionMachine cfg).run first es).2 = history c log ∧
      (∀ conn, s.connectionPool.find? c = some conn → ((connectionMachine cfg).run first es).1 = conn) ∧
      ((connectionMachine cfg).Allowed (Silenced cfg) first [] es ↔
        (connectionMachine cfg).Allowed (Unprovoked cfg) first [] es) := by
  obtain ⟨ip,logged,live⟩ := client_run reach c
  have start : (connectionMachine cfg).start { connectionId := c, remoteIp := ip } := ⟨c,ip,rfl⟩
  refine ⟨ip,logged,live,Machine.allowed_iff ?_ (.start start) (received (history c log))⟩
  intro conn h e _
  exact imp_congr Iff.rfl (not_congr (breaches_iff conn e))

/-- A client that offers no method that is served, and sends more before it is cleaned up. -/
def refusedSession (more : Bytes) : List ServerEvent :=
  [.newConnection (ascii "1"),.data 1 [0x05,1,0x00],.data 1 more]

def refusedRun (more : Bytes) : Server .sequential × List ServerAction :=
  (serverMachine referenceConfig .sequential).run (.init .sequential 1000000 8 8) (refusedSession more)

theorem refusedRun_reach (more : Bytes) : (serverMachine referenceConfig .sequential).Reach
    Machine.anything (refusedRun more).1 (refusedRun more).2 := by
  have start : (serverMachine referenceConfig .sequential).start (.init .sequential 1000000 8 8) :=
    ⟨_,_,_,rfl⟩
  exact Machine.reach_run start (refusedSession more)

/-- Half a login after the rejection is not answered. -/
theorem rejection_final_partial : ∃ ip,
    ((connectionMachine referenceConfig).run { connectionId := 1, remoteIp := ip }
      (received (history 1 (refusedRun [0x01]).2))).2 = history 1 (refusedRun [0x01]).2 ∧
    (connectionMachine referenceConfig).Allowed (Silenced referenceConfig)
      { connectionId := 1, remoteIp := ip } [] (received (history 1 (refusedRun [0x01]).2)) := by
  obtain ⟨ip,same,-,silenced⟩ := rejection_final (refusedRun_reach [0x01]) 1
  refine ⟨ip,same,silenced.mpr ?_⟩
  have events : received (history 1 (refusedRun [0x01]).2) = [.data [0x05,1,0x00],.data [0x01]] := by
    decide
  rw [events]
  refine ⟨fun early => absurd early (by decide),fun _ login => ?_,trivial⟩
  exact absurd login.1 (by decide)

/-- A whole login after the rejection is sent to the auth service. -/
theorem login_after_rejection : ¬ ∀ s log c ip,
    (serverMachine referenceConfig .sequential).Reach Machine.anything s log →
      let first : ClientConnection := { connectionId := c, remoteIp := ip }
      let es := received (history c log)
      ((connectionMachine referenceConfig).run first es).2 = history c log →
        (connectionMachine referenceConfig).Allowed (Silenced referenceConfig) first [] es := by
  intro always
  have silenced := always _ _ 1 (ascii "1") (refusedRun_reach [0x01,1,117,1,112]) (by decide)
  have events : received (history 1 (refusedRun [0x01,1,117,1,112]).2) =
      [.data [0x05,1,0x00],.data [0x01,1,117,1,112]] := by decide
  rw [events] at silenced
  obtain ⟨-,last,-⟩ := silenced
  exact last (by decide) ⟨.requestAuth (ascii "u:p"),by decide,trivial⟩

end MiniPP.Proxy
