import MiniPP.Lib.Script
import MiniPP.Proxy.Feed
import MiniPP.Proxy.Guarantees

/-! What a client is told. Each protocol has a script: its replies, and then the payload of
the relay. The phase of a connection says how far its script has come. -/
namespace MiniPP.Proxy

variable {cfg : Config}

/-! ## Scripts -/

inductive Protocol where
  | socks5
  | connect
  | forward
  deriving DecidableEq, Repr

namespace Protocol

def replies : Protocol → List Bytes
  | .socks5 => [[0x05,0x02],[0x01,0x00],s5Reply 0x00]
  | .connect => [http200Response]
  | .forward => []

/-- The replies that report a failure, by the reply whose place they take. -/
def Error (cfg : Config) : Protocol → Nat → Bytes → Prop
  | .socks5, 0, data => data = [0x05,0xFF]
  | .socks5, 1, data => data = [0x01,0x01]
  | .socks5, 2, data => data.length = 10 ∧ ∃ status rest, status ≠ 0 ∧ data = 0x05 :: status :: 0x00 :: rest
  | .connect, 0, data | .forward, 0, data => data = http407Response ∨ data = http502Response cfg
  | _, _, _ => False

/-! The first byte of each text is an `H`, and the tenth the first digit of its status. -/

theorem http200_bytes : http200Response[0]? = some 72 ∧ http200Response[9]? = some 50 := by
  rw [http200Response,ascii_ofList]
  exact ⟨rfl,rfl⟩

theorem http407_bytes : http407Response[0]? = some 72 ∧ http407Response[9]? = some 52 := by
  rw [http407Response,ascii_ofList]
  exact ⟨rfl,rfl⟩

theorem http502_bytes (cfg : Config) :
    (http502Response cfg)[0]? = some 72 ∧ (http502Response cfg)[9]? = some 53 := by
  rw [http502Response,ascii_ofList]
  exact ⟨rfl,rfl⟩

theorem http502_ne_200 (cfg : Config) : http502Response cfg ≠ http200Response := by
  intro same
  have bad := (http502_bytes cfg).2
  rw [same,http200_bytes.2] at bad
  cases bad

theorem http407_ne_200 : http407Response ≠ http200Response := by
  intro same
  have bad := http407_bytes.2
  rw [same,http200_bytes.2] at bad
  cases bad

def script (cfg : Config) (p : Protocol) : Script Bytes where
  replies := p.replies
  Error := p.Error cfg
  apart := by
    intro n data error reply
    match p, n with
    | .socks5, 0 =>
      obtain rfl : data = [0x05,0xFF] := error
      exact absurd reply (by decide)
    | .socks5, 1 =>
      obtain rfl : data = [0x01,0x01] := error
      exact absurd reply (by decide)
    | .socks5, 2 =>
      obtain ⟨-,status,rest,failed,rfl⟩ := error
      simp only [replies,s5Reply,List.getElem?_cons_succ,List.getElem?_cons_zero,Option.some.injEq,
        List.cons.injEq] at reply
      exact failed reply.2.1.symm
    | .connect, 0 =>
      obtain rfl : http200Response = data := by simpa [replies] using reply
      rcases error with same | same
      · exact http407_ne_200 same.symm
      · exact http502_ne_200 cfg same.symm
    | .forward, 0 => simp [replies] at reply
    | .socks5, n + 3 | .connect, n + 1 | .forward, n + 1 => exact error.elim

end Protocol

/-- The protocol of the client, once its first bytes have told it. -/
def Phase.protocol : Phase → Option Protocol
  | .unknown | .httpChallenge | .lingerKill | .error => none
  | .s5WaitForAuthInfo | .s5WaitForAccountExchange | .s5WaitForDeviceSelection
  | .s5WaitForConnectionRequest | .s5WaitForConnectionEstablish | .s5ConnectionReady
  | .s5WaitForConnectionClosed => some .socks5
  | .httpRawChallenge | .httpRawWaitForAccountExchange | .httpRawWaitForDeviceSelection
  | .httpRawWaitForConnectionEstablish | .httpRawReady | .httpRawClosed => some .connect
  | .httpNormalChallenge | .httpNormalWaitForAccountExchange | .httpNormalWaitForDeviceSelection
  | .httpNormalWaitForConnectionEstablish | .httpNormalReady | .httpNormalClosed => some .forward

/-- How many replies of its protocol a connection has got in this phase, if nothing failed. -/
def Phase.sent : Phase → Nat
  | .s5WaitForAuthInfo | .s5WaitForAccountExchange | .s5WaitForDeviceSelection => 1
  | .s5WaitForConnectionRequest | .s5WaitForConnectionEstablish => 2
  | .s5ConnectionReady | .s5WaitForConnectionClosed => 3
  | .httpRawReady | .httpRawClosed => 1
  | _ => 0

/-- All replies are given. -/
def Phase.PayloadDue (phase : Phase) : Prop :=
  ∃ p, phase.protocol = some p ∧ phase.sent = p.replies.length

/-! ## What is said -/

def ConnEvent.isPush : ConnEvent → Bool
  | .relayPush .. => true
  | _ => false

/-- Data that is posted while a relay's packet is handled is payload. Posting no bytes says
nothing. -/
def Effect.said (pushed : Bool) : Effect → Option (Item Bytes)
  | .postData data =>
    if data = [] then none else some (if pushed then .payload data else .reply data)
  | _ => none

def said (e : ConnEvent) (out : List Effect) : List (Item Bytes) := out.filterMap (Effect.said e.isPush)

/-- All that a history posts to the client. -/
def posts : Bool → List Entry → List (Item Bytes)
  | _, [] => []
  | _, .received e :: rest => posts e.isPush rest
  | pushed, .did x :: rest => (x.said pushed).toList ++ posts pushed rest

theorem posts_did (pushed : Bool) (out : List Effect) (rest : List Entry) :
    posts pushed (out.map .did ++ rest) = out.filterMap (Effect.said pushed) ++ posts pushed rest := by
  induction out with
  | nil => rfl
  | cons x out ih =>
    simp only [List.map_cons,List.cons_append,posts,ih,List.filterMap_cons]
    cases x.said pushed <;> rfl

theorem posts_append (pushed : Bool) (h : List Entry) (e : ConnEvent) (out : List Effect) :
    posts pushed (h ++ entries e out) = posts pushed h ++ said e out := by
  induction h generalizing pushed with
  | nil =>
    have := posts_did e.isPush out []
    simpa [posts,entries,said] using this
  | cons x h ih =>
    cases x with
    | received e' => simpa [posts] using ih e'.isPush
    | did x => simp only [List.cons_append,posts,ih,List.append_assoc]

theorem said_eq_nil {e : ConnEvent} {out : List Effect} (silent : ∀ x ∈ out, x.said e.isPush = none) :
    said e out = [] := List.filterMap_eq_nil_iff.mpr silent

/-- Before the protocol is known, nothing fits every script but silence. -/
def Spoken (cfg : Config) (phase : Phase) (list : List (Item Bytes)) : Prop :=
  match phase.protocol with
  | some p => (p.script cfg).Follows list
  | none => list = []

/-- The connection was told of a failure. -/
def Told (cfg : Config) (phase : Phase) (list : List (Item Bytes)) : Prop :=
  ∃ p, phase.protocol = some p ∧ (p.script cfg).Ended list

/-! ## Events that are answered -/

/-- A complete request for something else than a connection, by IPv4 address. -/
def Unsupported (data : Bytes) : Prop :=
  10 ≤ data.length ∧ data.length < 6 + 256 ∧ data.getD 0 0 = 0x05 ∧ data.getD 1 0 ≠ 0x01 ∧
    data.getD 2 0 = 0x00 ∧ data.getD 3 0 = 0x01

/-- The lines up to the first blank one are well formed, and leave no credentials. -/
def RefusedRaw (cfg : Config) : Bytes → List Bytes → Prop
  | _, [] => False
  | authNamePass, line :: lines =>
    if line = [] then authNamePass = []
    else isMalformed line = false ∧ RefusedRaw cfg (nextCredentials cfg authNamePass line) lines

def RefusedNormal (cfg : Config) : Http → List Bytes → Prop
  | _, [] => False
  | http, line :: lines =>
    if line = [] ∧ http.httpHeaderLine = [] then http.authNamePass = []
    else
      match processLine cfg { http with httpHeaderLine := http.httpHeaderLine ++ line } line.length with
      | .next http => RefusedNormal cfg { http with httpHeaderLine := [] } lines
      | _ => False

/-- The event makes its callback post something, whatever was posted before. -/
def Answered (cfg : Config) (c : ClientConnection) : ConnEvent → Prop
  | .data data =>
    match c.phase with
    | .s5WaitForConnectionRequest => Unsupported data
    | .httpRawChallenge => ∃ lines tail, Lines.Split cr lf data lines tail ∧ RefusedRaw cfg [] lines
    | .httpNormalChallenge =>
      ∃ lines tail, Lines.Split cr lf data lines tail ∧ RefusedNormal cfg c.http lines
    | _ => False
  | .authResult none => c.phase.stage = .authenticating
  | .deviceSelected _ => c.phase = .s5WaitForDeviceSelection
  | .relayState n _ =>
    n.newState = stateEstablished ∧
      (c.phase = .s5WaitForConnectionEstablish ∨ c.phase = .httpRawWaitForConnectionEstablish)
  | .relayDestroy _ => c.phase.stage = .opening
  | .relayPush payload _ => payload ≠ []
  | _ => False

/-- Payload comes when all replies are given, and after a failure nothing is answered. -/
structure Orderly (cfg : Config) (c : ClientConnection) (h : List Entry) (e : ConnEvent) : Prop where
  due : ¬ Told cfg c.phase (posts false h) → ∀ payload size, e = .relayPush payload size →
    payload ≠ [] → c.phase.PayloadDue
  last : Told cfg c.phase (posts false h) → ¬ Answered cfg c e

/-! ## One event -/

/-- What has been said fits the phase: the script has come as far, or was ended. -/
def Tracked (cfg : Config) (phase : Phase) (list : List (Item Bytes)) : Prop :=
  match phase.protocol with
  | some p => (p.script cfg).Ended list ∨
      (p.script cfg).Prefix list ∧ (p.script cfg).position list = phase.sent
  | none => list = []

/-- What an event lets a connection say. -/
inductive Speaks (cfg : Config) (c : ClientConnection) (e : ConnEvent) (phase : Phase) :
    List (Item Bytes) → Prop where
  | silent (protocol : c.phase.protocol = none ∨ phase.protocol = c.phase.protocol)
      (sent : phase.sent = c.phase.sent) (quiet : ¬ Answered cfg c e) : Speaks cfg c e phase []
  | reply (p : Protocol) (data : Bytes) (event : e.isPush = false)
      (source : c.phase.protocol = none ∨ c.phase.protocol = some p) (target : phase.protocol = some p)
      (sent : phase.sent = c.phase.sent + 1) (next : p.replies[c.phase.sent]? = some data)
      (answered : c.phase.protocol ≠ none → Answered cfg c e) : Speaks cfg c e phase [.reply data]
  | failed (p : Protocol) (data : Bytes) (event : e.isPush = false)
      (source : c.phase.protocol = none ∨ c.phase.protocol = some p) (target : phase.protocol = some p)
      (error : p.Error cfg c.phase.sent data)
      (answered : c.phase.protocol ≠ none → Answered cfg c e) : Speaks cfg c e phase [.reply data]
  | payload (data : Bytes) (size : Nat) (event : e = .relayPush data size) (filled : data ≠ [])
      (same : phase = c.phase) : Speaks cfg c e phase [.payload data]

theorem sent_of_none {phase : Phase} (unknown : phase.protocol = none) : phase.sent = 0 := by
  cases phase <;> first | rfl | simp [Phase.protocol] at unknown

theorem tracked_start (cfg : Config) (p : Protocol) :
    (p.script cfg).Prefix [] ∧ (p.script cfg).position [] = 0 := ⟨Script.prefix_nil _,Nat.zero_min _⟩

/-- Where nothing failed, the script of the protocol has come as far as the phase says. -/
theorem Tracked.standing {c : ClientConnection} {h : List (Item Bytes)} (tracked : Tracked cfg c.phase h)
    (quiet : ¬ Told cfg c.phase h) {p : Protocol}
    (source : c.phase.protocol = none ∨ c.phase.protocol = some p) :
    (p.script cfg).Prefix h ∧ (p.script cfg).position h = c.phase.sent := by
  rcases source with unknown | known
  · rw [Tracked,unknown] at tracked
    obtain rfl : h = [] := tracked
    rw [sent_of_none unknown]
    exact tracked_start cfg p
  · rw [Tracked,known] at tracked
    exact tracked.resolve_left fun ended => quiet ⟨p,known,ended⟩

theorem Tracked.spoken {phase : Phase} {list : List (Item Bytes)} (tracked : Tracked cfg phase list) :
    Spoken cfg phase list := by
  unfold Tracked at tracked
  unfold Spoken
  split at tracked
  · exact tracked.elim .inr (fun kept => .inl kept.1)
  · exact tracked

/-- After a failure, whatever is said is too much. -/
theorem Told.not_spoken {c : ClientConnection} {phase : Phase} {h new : List (Item Bytes)}
    (told : Told cfg c.phase h) {p : Protocol} (source : c.phase.protocol = none ∨ c.phase.protocol = some p)
    (target : phase.protocol = some p) (some : new ≠ []) : ¬ Spoken cfg phase (h ++ new) := by
  obtain ⟨q,known,ended⟩ := told
  rw [known] at source
  obtain rfl : q = p := by simpa using source
  rw [Spoken,target]
  intro follows
  exact some (ended.follows_append.mp follows)

theorem Speaks.tracked {c : ClientConnection} {e : ConnEvent} {phase : Phase} {new : List (Item Bytes)}
    (speaks : Speaks cfg c e phase new) {h : List Entry} (before : Tracked cfg c.phase (posts false h))
    (orderly : Orderly cfg c h e) : Tracked cfg phase (posts false h ++ new) := by
  cases speaks with
  | silent protocol sent quiet =>
    rw [List.append_nil]
    rcases protocol with unknown | same
    · rw [Tracked,unknown] at before
      rw [before,Tracked]
      split
      · rw [sent,sent_of_none unknown]
        exact .inr (tracked_start cfg _)
      · rfl
    · rw [Tracked,same,sent]
      exact before
  | reply p data event source target sent next answered =>
    by_cases told : Told cfg c.phase (posts false h)
    · obtain ⟨q,known,-⟩ := id told
      exact absurd (answered (by simp [known])) (orderly.last told)
    · obtain ⟨kept,here⟩ := before.standing told source
      obtain ⟨longer,there⟩ := kept.reply (by rw [here]; exact next)
      rw [Tracked,target]
      exact .inr ⟨longer,by rw [there,here,sent]⟩
  | failed p data event source target error answered =>
    by_cases told : Told cfg c.phase (posts false h)
    · obtain ⟨q,known,-⟩ := id told
      exact absurd (answered (by simp [known])) (orderly.last told)
    · obtain ⟨kept,here⟩ := before.standing told source
      rw [Tracked,target]
      exact .inl ⟨_,data,rfl,kept,by rw [here]; exact error⟩
  | payload data size event filled same =>
    subst event same
    by_cases told : Told cfg c.phase (posts false h)
    · exact absurd filled (orderly.last told)
    · obtain ⟨p,known,all⟩ := orderly.due told data size rfl filled
      obtain ⟨kept,here⟩ := before.standing told (.inr known)
      obtain ⟨longer,there⟩ := kept.payload (here.trans all)
      rw [Tracked,known]
      exact .inr ⟨longer,there.trans here⟩

/-- Only an orderly event keeps to the script. -/
theorem Speaks.orderly {c : ClientConnection} {e : ConnEvent} {phase : Phase} {new : List (Item Bytes)}
    (speaks : Speaks cfg c e phase new) {h : List Entry} (before : Tracked cfg c.phase (posts false h))
    (spoken : Spoken cfg phase (posts false h ++ new)) : Orderly cfg c h e := by
  cases speaks with
  | silent protocol sent quiet =>
    refine ⟨?_,fun _ => quiet⟩
    rintro - payload size rfl filled
    exact absurd filled quiet
  | reply p data event source target sent next answered =>
    refine ⟨?_,fun told => absurd spoken (told.not_spoken source target (by simp))⟩
    rintro - payload size rfl
    cases event
  | failed p data event source target error answered =>
    refine ⟨?_,fun told => absurd spoken (told.not_spoken source target (by simp))⟩
    rintro - payload size rfl
    cases event
  | payload data size event filled same =>
    subst event same
    refine ⟨?_,?_⟩
    · intro told payload size' _ _
      cases known : c.phase.protocol with
      | none =>
        rw [Spoken,known] at spoken
        simp at spoken
      | some p =>
        obtain ⟨kept,here⟩ := before.standing told (.inr known)
        rw [Spoken,known] at spoken
        exact ⟨p,known,here ▸ (Script.follows_payload kept).mp spoken⟩
    · intro told
      obtain ⟨p,known,-⟩ := id told
      exact absurd spoken (told.not_spoken (.inr known) known (by simp))

/-! ## Every callback speaks -/

theorem Speaks.stay {c : ClientConnection} {e : ConnEvent} {phase : Phase} {out : List Effect}
    (protocol : c.phase.protocol = none ∨ phase.protocol = c.phase.protocol)
    (sent : phase.sent = c.phase.sent) (quiet : ¬ Answered cfg c e)
    (silent : ∀ x ∈ out, x.said e.isPush = none) : Speaks cfg c e phase (said e out) := by
  rw [said_eq_nil silent]
  exact .silent protocol sent quiet

theorem said_postData (pushed : Bool) {data : Bytes} (filled : data ≠ []) :
    (Effect.postData data).said pushed = some (if pushed then .payload data else .reply data) :=
  if_neg filled

theorem http407_filled : http407Response ≠ [] := by simp [http407Response,ascii]

theorem http502_filled (cfg : Config) : http502Response cfg ≠ [] := by simp [http502Response,ascii]

/-- A failure is told, and the connection closed. -/
theorem said_failure {e : ConnEvent} (own : e.isPush = false) {failure : Bytes} (filled : failure ≠ [])
    {close : Effect} (closes : close.said false = none) :
    said e [.postData failure,close] = [.reply failure] := by
  simp only [said,own,List.filterMap_cons,said_postData false filled,closes]
  rfl

theorem tryUpdate_silent (cfg : Config) (c : ClientConnection) (up down : Nat) (pushed : Bool) :
    ∀ x ∈ (tryUpdateDataTransferSize cfg c up down).effects, x.said pushed = none := by
  have branch := update_branch cfg c up down
  generalize tryUpdateDataTransferSize cfg c up down = act at branch ⊢
  cases branch <;> simp [Effect.said]

theorem uploadData_silent (cfg : Config) (c : ClientConnection) (data : Bytes) (pushed : Bool) :
    ∀ x ∈ (onUploadData cfg c data).effects, x.said pushed = none := by
  intro x member
  rcases uploadData_effect member with ⟨payload,rfl⟩ | report | rfl
  · rfl
  · exact tryUpdate_silent cfg c _ _ pushed x report
  · rfl

theorem speaks_challenge (c : ClientConnection) (data : Bytes) (phase : c.phase = .unknown) :
    Speaks cfg c (.data data) (onChallenge c data).conn.phase
      (said (.data data) (onChallenge c data).effects) := by
  have unknown : c.phase.protocol = none := by rw [phase]; rfl
  have start : c.phase.sent = 0 := by rw [phase]; rfl
  have stay (out : List Effect) (next : Phase) (sent : next.sent = 0)
      (silent : ∀ x ∈ out, x.said false = none) : Speaks cfg c (.data data) next (said (.data data) out) :=
    .stay (.inl unknown) (by rw [sent,start]) (by simp [Answered,phase]) silent
  have same : c.phase.sent = 0 := by rw [phase]; rfl
  have known {P : Prop} (known : c.phase.protocol ≠ none) : P := absurd unknown known
  have branch := challenge_branch c data
  generalize onChallenge c data = reading at branch ⊢
  cases branch with
  | waits => exact stay _ _ same (by simp)
  | killed => exact stay _ _ same (by simp [Effect.said])
  | matched =>
    exact .reply .socks5 [0x05,0x02] rfl (.inl unknown) rfl (by rw [start]; rfl) (by rw [start]; rfl) known
  | unmatched =>
    exact .failed .socks5 [0x05,0xFF] rfl (.inl unknown) rfl (by rw [start]; rfl) known
  | connect => exact stay _ _ rfl (by simp)
  | forward => exact stay _ _ rfl (by simp)

theorem speaks_s5ClientAuth (c : ClientConnection) (data : Bytes)
    (phase : c.phase = .s5WaitForAuthInfo) :
    Speaks cfg c (.data data) (onS5ClientAuth c data).conn.phase
      (said (.data data) (onS5ClientAuth c data).effects) := by
  have stay (out : List Effect) (next : Phase) (protocol : next.protocol = some .socks5)
      (sent : next.sent = 1) (silent : ∀ x ∈ out, x.said false = none) :
      Speaks cfg c (.data data) next (said (.data data) out) :=
    .stay (.inr (by rw [protocol,phase]; rfl)) (by rw [sent,phase]; rfl) (by simp [Answered,phase]) silent
  have same : Speaks cfg c (.data data) c.phase (said (.data data) []) :=
    stay _ _ (by rw [phase]; rfl) (by rw [phase]; rfl) (by simp)
  have branch := clientAuth_branch c data
  generalize onS5ClientAuth c data = reading at branch ⊢
  cases branch with
  | waits => exact same
  | requested => exact stay _ _ rfl rfl (by simp [Effect.said])
  | other => exact same

/-- Opening a remote connection says nothing. -/
theorem openRemote_phase (cfg : Config) (c : ClientConnection) (address : NetAddress) (hostname : Bytes) :
    let act := onOpenRemoteConnection cfg c address hostname
    (act.conn.phase.protocol = c.phase.protocol ∧ act.conn.phase.sent = c.phase.sent) ∧
      ∀ x ∈ act.effects, x.said false = none := by
  unfold onOpenRemoteConnection
  dsimp only
  split
  · refine ⟨?_,by simp [Effect.said]⟩
    cases phase : c.phase <;> exact ⟨rfl,rfl⟩
  · exact ⟨⟨rfl,rfl⟩,by simp⟩

theorem s5Target_ipv4 {data : Bytes} (type : data.getD 3 0 = 0x01) :
    s5Target data = .target ⟨.ipv4,(data.drop 4).take 4,portAt data 8⟩ [] 10 := by
  unfold s5Target
  dsimp only
  rw [if_pos type]

theorem s5Target_invalid {data : Bytes} (ipv4 : data.getD 3 0 ≠ 0x01) (domain : data.getD 3 0 ≠ 0x03)
    (ipv6 : data.getD 3 0 ≠ 0x04) : s5Target data = .invalid := by
  unfold s5Target
  dsimp only
  rw [if_neg ipv4,if_neg domain,if_neg ipv6]

/-- An operation is refused for an IPv4 address only, as the other types are no numbers of types. -/
theorem s5Target_refused {data : Bytes} {address : NetAddress} {domain : Bytes} {offset : Nat}
    (target : s5Target data = .target address domain offset)
    (operation : data.getD 3 0 ≠ 0x03 ∧ data.getD 3 0 ≠ 0x04) : data.getD 3 0 = 0x01 ∧ offset = 10 := by
  have type : data.getD 3 0 = 0x01 := by
    by_contra other
    rw [s5Target_invalid other operation.1 operation.2] at target
    cases target
  rw [s5Target_ipv4 type] at target
  cases target
  exact ⟨type,rfl⟩

theorem speaks_s5ConnectionRequest (c : ClientConnection) (data : Bytes)
    (phase : c.phase = .s5WaitForConnectionRequest) :
    Speaks cfg c (.data data) (onS5ConnectionRequest cfg c data).conn.phase
      (said (.data data) (onS5ConnectionRequest cfg c data).effects) := by
  have known : c.phase.protocol = some .socks5 := by rw [phase]; rfl
  have stay (out : List Effect) (other : ¬ Unsupported data) (silent : ∀ x ∈ out, x.said false = none) :
      Speaks cfg c (.data data) c.phase (said (.data data) out) :=
    .stay (.inr rfl) rfl (by simpa [Answered,phase] using other) silent
  unfold onS5ConnectionRequest
  dsimp only
  split
  · exact stay _ (fun u => by have := u.1; omega) (by simp)
  · split
    · exact stay _ (fun u => by have := u.2.1; omega) (by simp [Effect.said])
    · split
      · rename_i version
        exact stay _ (fun u => version.elim (fun v => v u.2.2.1) (fun v => v u.2.2.2.2.1))
          (by simp [Effect.said])
      · rename_i short long version
        have ipv4 (u : Unsupported data) := s5Target_ipv4 u.2.2.2.2.2
        split
        · rename_i target
          exact stay _ (fun u => by rw [ipv4 u] at target; cases target) (by simp)
        · rename_i target
          exact stay _ (fun u => by rw [ipv4 u] at target; cases target) (by simp [Effect.said])
        · rename_i address domain offset target
          split
          · rename_i operation
            obtain ⟨type,rfl⟩ := s5Target_refused target operation.2
            have asked : Unsupported data :=
              ⟨Nat.not_lt.mp short,Nat.not_le.mp long,by simpa using (not_or.mp version).1,operation.1,
                by simpa using (not_or.mp version).2,type⟩
            refine .failed .socks5 ([0x05,0x01,0x00] ++ (data.drop 3).take 7) rfl (.inr known) known ?_ ?_
            · rw [phase]
              refine ⟨?_,0x01,(data.drop 3).take 7,by decide,rfl⟩
              simp only [List.length_append,List.length_take,List.length_drop,List.length_cons,
                List.length_nil]
              omega
            · intro _
              simpa [Answered,phase] using asked
          · rename_i operation
            obtain ⟨⟨protocol,sent⟩,silent⟩ := openRemote_phase cfg c address domain
            refine .stay (.inr protocol) sent ?_ silent
            have other : ¬ Unsupported data := by
              intro u
              refine operation ⟨u.2.2.2.1,?_,?_⟩ <;> rw [u.2.2.2.2.2] <;> decide
            simpa [Answered,phase] using other

/-! ### Heads -/

theorem rawLines_refused (c : ClientConnection) {lines : List Bytes} {np : Bytes}
    (refused : RefusedRaw cfg np lines) (n : Nat) :
    rawLines cfg c lines np n = ⟨c,[.postData http407Response,.lingerKill],some 0⟩ := by
  induction lines generalizing np n with
  | nil => exact refused.elim
  | cons line lines ih =>
    rw [RefusedRaw] at refused
    rw [rawLines]
    split at refused
    · rename_i blank
      rw [if_pos blank,if_pos refused]
    · rename_i filled
      rw [if_neg filled,if_neg (by simp [refused.1])]
      exact ih refused.2 _

theorem rawLines_silent (c : ClientConnection) {lines : List Bytes} {np : Bytes}
    (other : ¬ RefusedRaw cfg np lines) (n : Nat) :
    ∀ x ∈ (rawLines cfg c lines np n).effects, x.said false = none := by
  induction lines generalizing np n with
  | nil => simp [rawLines]
  | cons line lines ih =>
    rw [RefusedRaw] at other
    rw [rawLines]
    split at other
    · rename_i blank
      rw [if_pos blank,if_neg other]
      simp [Effect.said]
    · rename_i filled
      rw [if_neg filled]
      split
      · simp [Effect.said]
      · rename_i formed
        exact ih (fun refused => other ⟨by simpa using formed,refused⟩) _

theorem speaks_httpRawChallenge (c : ClientConnection) (data : Bytes)
    (phase : c.phase = .httpRawChallenge) :
    Speaks cfg c (.data data) (onHttpRawChallenge cfg c data).conn.phase
      (said (.data data) (onHttpRawChallenge cfg c data).effects) := by
  have known : c.phase.protocol = some .connect := by rw [phase]; rfl
  obtain ⟨lines,tail,split⟩ := Lines.exists_split (x := cr) (y := lf) data
  have handled : onHttpRawChallenge cfg c data = rawLines cfg c lines [] 0 :=
    rawLoop_lines cfg c split [] 0 (Nat.lt_succ_self _)
  have answered : Answered cfg c (.data data) ↔ RefusedRaw cfg [] lines := by
    simp only [Answered,phase]
    exact split.exists_iff cr_ne_lf
  by_cases refused : RefusedRaw cfg [] lines
  · rw [handled,rawLines_refused c refused,said_failure rfl http407_filled rfl]
    refine .failed .connect http407Response rfl (.inr known) known (by rw [phase]; exact .inl rfl) ?_
    exact fun _ => answered.mpr refused
  · have quiet : ¬ Answered cfg c (.data data) := mt answered.mp refused
    have silent : ∀ x ∈ (onHttpRawChallenge cfg c data).effects, x.said false = none := by
      rw [handled]
      exact rawLines_silent c refused 0
    have branch := rawChallenge_branch cfg c data
    generalize onHttpRawChallenge cfg c data = reading at branch silent ⊢
    cases branch with
    | reads | killed | refused => exact .stay (.inr rfl) rfl quiet silent
    | requested => exact .stay (.inr (by rw [phase]; rfl)) (by rw [phase]; rfl) quiet silent

theorem normalLines_refused (size : Nat) (tail : Bytes) {c : ClientConnection} {lines : List Bytes}
    (refused : RefusedNormal cfg c.http lines) (n : Nat) :
    ∃ http consumed, normalLines cfg size tail c lines n =
      ⟨{ c with http },[.postData http407Response,.lingerKill],consumed⟩ := by
  induction lines generalizing c n with
  | nil => exact refused.elim
  | cons line lines ih =>
    rw [RefusedNormal] at refused
    rw [normalLines]
    split at refused
    · rename_i blank
      rw [if_pos blank]
      dsimp only
      rw [if_pos refused]
      exact ⟨_,_,rfl⟩
    · rename_i filled
      rw [if_neg filled]
      dsimp only
      split at refused
      · rename_i http next
        rw [next]
        obtain ⟨http',consumed,handled⟩ := ih
          (c := { c with http := { http with httpHeaderLine := [] } }) refused
          (n + (line.length + 2))
        exact ⟨http',consumed,handled⟩
      · exact refused.elim

theorem normalLines_silent (size : Nat) (tail : Bytes) {c : ClientConnection} {lines : List Bytes}
    (other : ¬ RefusedNormal cfg c.http lines) (n : Nat) :
    ∀ x ∈ (normalLines cfg size tail c lines n).effects, x.said false = none := by
  induction lines generalizing c n with
  | nil => simp [normalLines]
  | cons line lines ih =>
    rw [RefusedNormal] at other
    rw [normalLines]
    split at other
    · rename_i blank
      rw [if_pos blank]
      dsimp only
      rw [if_neg other]
      simp [Effect.said]
    · rename_i filled
      rw [if_neg filled]
      dsimp only
      split
      · simp [Effect.said]
      · simp [Effect.said]
      · rename_i http next
        rw [next] at other
        exact ih other _

theorem speaks_httpNormalChallenge (c : ClientConnection) (data : Bytes)
    (phase : c.phase = .httpNormalChallenge) :
    Speaks cfg c (.data data) (onHttpNormalChallenge cfg c data).conn.phase
      (said (.data data) (onHttpNormalChallenge cfg c data).effects) := by
  have known : c.phase.protocol = some .forward := by rw [phase]; rfl
  obtain ⟨lines,tail,split⟩ := Lines.exists_split (x := cr) (y := lf) data
  have handled : onHttpNormalChallenge cfg c data = normalLines cfg data.length tail c lines 0 :=
    normalLoop_lines cfg data.length c split 0 (Nat.lt_succ_self _)
  have answered : Answered cfg c (.data data) ↔ RefusedNormal cfg c.http lines := by
    simp only [Answered,phase]
    exact split.exists_iff cr_ne_lf
  by_cases refused : RefusedNormal cfg c.http lines
  · obtain ⟨http,consumed,reading⟩ := normalLines_refused data.length tail refused 0
    rw [handled,reading,said_failure rfl http407_filled rfl]
    refine .failed .forward http407Response rfl (.inr known) known (by rw [phase]; exact .inl rfl) ?_
    exact fun _ => answered.mpr refused
  · have quiet : ¬ Answered cfg c (.data data) := mt answered.mp refused
    have silent : ∀ x ∈ (onHttpNormalChallenge cfg c data).effects, x.said false = none := by
      rw [handled]
      exact normalLines_silent data.length tail refused 0
    have branch := normalChallenge_branch cfg c data
    generalize onHttpNormalChallenge cfg c data = reading at branch silent ⊢
    cases branch with
    | reads | killed | outOfBounds | refused => exact .stay (.inr rfl) rfl quiet silent
    | requested => exact .stay (.inr (by rw [phase]; rfl)) (by rw [phase]; rfl) quiet silent

/-! ### The other callbacks -/

theorem speaks_data (c : ClientConnection) (data : Bytes) :
    Speaks cfg c (.data data) (onData cfg c data).conn.phase
      (said (.data data) (onData cfg c data).effects) := by
  have upload (ready : c.phase.Ready) : Speaks cfg c (.data data) (onUploadData cfg c data).conn.phase
      (said (.data data) (onUploadData cfg c data).effects) := by
    rw [(uploadData_spec cfg c data).2.1]
    refine .stay (.inr rfl) rfl ?_ (uploadData_silent cfg c data false)
    rcases ready with phase | phase | phase <;> simp [Answered,phase]
  unfold onData
  split
  · exact speaks_challenge c data ‹_›
  · exact speaks_s5ClientAuth c data ‹_›
  · exact speaks_s5ConnectionRequest c data ‹_›
  · exact upload (.inl ‹_›)
  · exact speaks_httpRawChallenge c data ‹_›
  · exact upload (.inr (.inl ‹_›))
  · exact speaks_httpNormalChallenge c data ‹_›
  · exact upload (.inr (.inr ‹_›))
  · refine .stay (.inr rfl) rfl ?_ (by simp [Effect.said])
    simp_all [Answered]

/-- The three callbacks for a finished authentication. -/
theorem speaks_authFinished (p : Protocol) {failure : Bytes} {close : Effect} {next : Phase}
    (c : ClientConnection) (result : Option AuthResult) (source : c.phase.protocol = some p)
    (target : next.protocol = some p) (sent : next.sent = c.phase.sent)
    (waiting : c.phase.stage = .authenticating) (error : p.Error cfg c.phase.sent failure)
    (filled : failure ≠ []) (closes : close.said false = none) :
    Speaks cfg c (.authResult result) (onAuthFinished failure close next c result).conn.phase
      (said (.authResult result) (onAuthFinished failure close next c result).effects) := by
  cases result with
  | none =>
    have reply := said_failure (e := .authResult none) rfl filled closes
    simp only [onAuthFinished,reply]
    exact .failed p failure rfl (.inr source) source error (fun _ => waiting)
  | some verdict =>
    exact .stay (.inr (target.trans source.symm)) sent (by simp [Answered])
      (by simp [Effect.said,onAuthFinished])

theorem speaks_authResult (c : ClientConnection) (result : Option AuthResult) :
    Speaks cfg c (.authResult result) (onAuthResult c result).conn.phase
      (said (.authResult result) (onAuthResult c result).effects) := by
  unfold onAuthResult
  split
  · rename_i phase
    exact speaks_authFinished .socks5 c result (by rw [phase]; rfl) rfl (by rw [phase]; rfl)
      (by rw [phase]; rfl) (by rw [phase]; rfl) (by decide) rfl
  · rename_i phase
    exact speaks_authFinished .connect c result (by rw [phase]; rfl) rfl (by rw [phase]; rfl)
      (by rw [phase]; rfl) (by rw [phase]; exact .inl rfl) http407_filled rfl
  · rename_i phase
    exact speaks_authFinished .forward c result (by rw [phase]; rfl) rfl (by rw [phase]; rfl)
      (by rw [phase]; rfl) (by rw [phase]; exact .inl rfl) http407_filled rfl
  · rename_i s5 raw normal
    refine .stay (.inr rfl) rfl ?_ (by simp [Effect.said])
    cases result with
    | none => cases phase : c.phase <;> simp_all [Answered,Phase.stage]
    | some verdict => simp [Answered]

theorem speaks_deviceSelected (c : ClientConnection) (result : AcquireDeviceResp) :
    Speaks cfg c (.deviceSelected result) (onDeviceSelected cfg c result).conn.phase
      (said (.deviceSelected result) (onDeviceSelected cfg c result).effects) := by
  have opens (other : c.phase ≠ .s5WaitForDeviceSelection) :
      Speaks cfg c (.deviceSelected result)
        (onOpenRemoteConnection cfg (useDevice c result) (targetAddress cfg c.http)
          c.http.targetHost).conn.phase
        (said (.deviceSelected result) (onOpenRemoteConnection cfg (useDevice c result)
          (targetAddress cfg c.http) c.http.targetHost).effects) := by
    obtain ⟨⟨protocol,sent⟩,silent⟩ :=
      openRemote_phase cfg (useDevice c result) (targetAddress cfg c.http) c.http.targetHost
    exact .stay (.inr protocol) sent other silent
  unfold onDeviceSelected
  split
  · rename_i phase
    have known : c.phase.protocol = some .socks5 := by rw [phase]; rfl
    split
    · exact .failed .socks5 [0x01,0x01] rfl (.inr known) known (by rw [phase]; rfl) (fun _ => phase)
    · exact .reply .socks5 [0x01,0x00] rfl (.inr known) rfl (by rw [phase]; rfl) (by rw [phase]; rfl)
        (fun _ => phase)
  · rename_i phase
    exact opens (by rw [phase]; simp)
  · rename_i phase
    exact opens (by rw [phase]; simp)
  · exact .stay (.inr rfl) rfl ‹_› (by simp [Effect.said])

theorem killWhenWritten_said (pendingWrites pushed : Bool) :
    (killWhenWritten pendingWrites).said pushed = none := by
  cases pendingWrites <;> rfl

theorem speaks_relayState (c : ClientConnection) (n : PR.ConnectionStateNotify) (pendingWrites : Bool) :
    Speaks cfg c (.relayState n pendingWrites)
      (onRelaySideConnectionStateChange cfg c n pendingWrites).conn.phase
      (said (.relayState n pendingWrites)
        (onRelaySideConnectionStateChange cfg c n pendingWrites).effects) := by
  unfold onRelaySideConnectionStateChange
  split
  · rename_i phase
    have known : c.phase.protocol = some .socks5 := by rw [phase]; rfl
    split
    · rename_i established
      exact .reply .socks5 (s5Reply 0x00) rfl (.inr known) rfl (by rw [phase]; rfl) (by rw [phase]; rfl)
        (fun _ => ⟨established,.inl phase⟩)
    · rename_i other
      exact .stay (.inr rfl) rfl (fun answered => other answered.1) (by simp [Effect.said])
  · rename_i phase
    have quiet : ¬ Answered cfg c (.relayState n pendingWrites) := by simp [Answered,phase]
    split
    · exact .stay (.inr (by rw [phase]; rfl)) (by rw [phase]; rfl) quiet
        (by simp [killWhenWritten_said])
    · exact .stay (.inr rfl) rfl quiet (by simp)
  · rename_i phase
    have known : c.phase.protocol = some .connect := by rw [phase]; rfl
    split
    · rename_i established
      exact .reply .connect http200Response rfl (.inr known) rfl (by rw [phase]; rfl)
        (by rw [phase]; rfl) (fun _ => ⟨established,.inr phase⟩)
    · rename_i other
      exact .stay (.inr rfl) rfl (fun answered => other answered.1) (by simp [Effect.said])
  · rename_i phase
    have quiet : ¬ Answered cfg c (.relayState n pendingWrites) := by simp [Answered,phase]
    split
    · dsimp only
      let ready : ClientConnection := { c with
        readingSuspended := false
        relaySideConnectionId := n.relaySideConnectionId
        phase := .httpNormalReady }
      have kept := (uploadData_spec cfg ready ready.http.rebuiltHttpHeader).2.1
      refine .stay (.inr ?_) ?_ quiet (uploadData_silent cfg ready _ false)
      · rw [onHttpNormalUploadData,kept,phase]; rfl
      · rw [onHttpNormalUploadData,kept,phase]; rfl
    · exact .stay (.inr rfl) rfl quiet (by simp [Effect.said])
  · rename_i s5 ready raw normal
    exact .stay (.inr rfl) rfl (fun answered => answered.2.elim s5 raw) (by simp)

theorem speaks_relayDestroy (c : ClientConnection) (pendingWrites : Bool) :
    Speaks cfg c (.relayDestroy pendingWrites) (onDestroyConnection cfg c pendingWrites).conn.phase
      (said (.relayDestroy pendingWrites) (onDestroyConnection cfg c pendingWrites).effects) := by
  have said502 : said (.relayDestroy pendingWrites) [.postData (http502Response cfg),.lingerKill] =
      [.reply (http502Response cfg)] := said_failure rfl (http502_filled cfg) rfl
  unfold onDestroyConnection
  split
  · rename_i phase
    refine .failed .socks5 (s5Reply 0x03) rfl (.inr (by rw [phase]; rfl)) rfl ?_ ?_
    · rw [phase]
      exact ⟨rfl,0x03,_,by decide,rfl⟩
    · intro _
      simp [Answered,phase,Phase.stage]
  · rename_i phase
    exact .stay (.inr (by rw [phase]; rfl)) (by rw [phase]; rfl) (by simp [Answered,phase,Phase.stage])
      (by simp [killWhenWritten_said])
  · rename_i phase
    rw [said502]
    exact .failed .connect _ rfl (.inr (by rw [phase]; rfl)) rfl (by rw [phase]; exact .inr rfl)
      (fun _ => by simp [Answered,phase,Phase.stage])
  · rename_i phase
    exact .stay (.inr (by rw [phase]; rfl)) (by rw [phase]; rfl) (by simp [Answered,phase,Phase.stage])
      (by simp [killWhenWritten_said])
  · rename_i phase
    exact .stay (.inr (by rw [phase]; rfl)) (by rw [phase]; rfl) (by simp [Answered,phase,Phase.stage])
      (by simp [killWhenWritten_said])
  · rename_i phase
    rw [said502]
    exact .failed .forward _ rfl (.inr (by rw [phase]; rfl)) rfl (by rw [phase]; exact .inr rfl)
      (fun _ => by simp [Answered,phase,Phase.stage])
  · refine .stay (.inr rfl) rfl ?_ (by simp [Effect.said])
    cases phase : c.phase <;> simp_all [Answered,Phase.stage]

theorem speaks_relayPush (c : ClientConnection) (payload : Bytes) (size : Nat) :
    Speaks cfg c (.relayPush payload size) (onRelaySidePushData cfg c payload size).conn.phase
      (said (.relayPush payload size) (onRelaySidePushData cfg c payload size).effects) := by
  have same : (onRelaySidePushData cfg c payload size).conn.phase = c.phase :=
    (tryUpdate_spec cfg c 0 size).2.1
  have later : said (.relayPush payload size) (tryUpdateDataTransferSize cfg c 0 size).effects = [] :=
    said_eq_nil (tryUpdate_silent cfg c 0 size true)
  have all : said (.relayPush payload size) (onRelaySidePushData cfg c payload size).effects =
      if payload = [] then [] else [.payload payload] := by
    rw [said] at later
    simp only [onRelaySidePushData,said,List.filterMap_append,later]
    by_cases empty : payload = []
    · simp [Effect.said,empty]
    · rw [if_neg empty]
      have keepAlive : Effect.keepAlive.said true = none := rfl
      simp only [ConnEvent.isPush,List.filterMap_cons,said_postData true empty,keepAlive]
      rfl
  rw [same,all]
  split
  · exact .silent (.inr rfl) rfl (by simpa [Answered])
  · exact .payload payload size rfl ‹_› rfl

/-- Whatever reaches a connection, in whatever phase, its callback says what the script has
next, an error in its place, payload, or nothing. -/
theorem handle_speaks (c : ClientConnection) (e : ConnEvent) :
    Speaks cfg c e (handle cfg c e).conn.phase (said e (handle cfg c e).effects) := by
  cases e with
  | data data => exact speaks_data c data
  | peerClose =>
    have quiet : ¬ Answered cfg c .peerClose := id
    simp only [handle,onPeerClose]
    split
    · rename_i phase
      exact .stay (.inr (by rw [phase]; rfl)) (by rw [phase]; rfl) quiet (by simp [Effect.said])
    · exact .stay (.inr rfl) rfl quiet (by simp [Effect.said])
  | authResult result => exact speaks_authResult c result
  | deviceSelected result => exact speaks_deviceSelected c result
  | relayState n pendingWrites => exact speaks_relayState c n pendingWrites
  | relayDestroy pendingWrites => exact speaks_relayDestroy c pendingWrites
  | relayPush payload size => exact speaks_relayPush c payload size

/-! ## Runs -/

def Entry.event : Entry → Option ConnEvent
  | .received e => some e
  | .did _ => none

/-- The events of a history. -/
def received (h : List Entry) : List ConnEvent := h.filterMap Entry.event

theorem received_entries (e : ConnEvent) (out : List Effect) : received (entries e out) = [e] := by
  have none : (out.map Entry.did).filterMap Entry.event = [] := by
    rw [List.filterMap_eq_nil_iff]
    intro x member
    obtain ⟨effect,-,rfl⟩ := List.mem_map.mp member
    rfl
  simp [received,entries,Entry.event,none]

theorem received_run (c : ClientConnection) (es : List ConnEvent) :
    received ((connectionMachine cfg).run c es).2 = es := by
  induction es generalizing c with
  | nil => rfl
  | cons e es ih =>
    have later := ih (handle cfg c e).conn
    simp only [Machine.run,connectionMachine,received,List.filterMap_append] at later ⊢
    rw [later]
    exact congrArg (· ++ es) (received_entries e (handle cfg c e).effects)

theorem connectionId_run (c : ClientConnection) (es : List ConnEvent) :
    ((connectionMachine cfg).run c es).1.connectionId = c.connectionId := by
  induction es generalizing c with
  | nil => rfl
  | cons e es ih => exact (ih (handle cfg c e).conn).trans (handle_move cfg c e).frame.connectionId

/-- After the event, what was said fits the script. -/
def SpokenAfter (cfg : Config) (c : ClientConnection) (h : List Entry) (e : ConnEvent) : Prop :=
  let act := handle cfg c e
  Spoken cfg act.conn.phase (posts false (h ++ entries e act.effects))

theorem tracked_run {c : ClientConnection} {h : List Entry}
    (reach : (connectionMachine cfg).Reach (SpokenAfter cfg) c h) : Tracked cfg c.phase (posts false h) := by
  apply reach.invariant (I := fun c h => Tracked cfg c.phase (posts false h))
  · rintro _ ⟨id,ip,rfl⟩
    exact rfl
  · intro c h e _ spoken before
    have speaks : Speaks cfg c e (handle cfg c e).conn.phase (said e (handle cfg c e).effects) :=
      handle_speaks c e
    have after := posts_append false h e (handle cfg c e).effects
    rw [SpokenAfter,after] at spoken
    change Tracked cfg _ (posts false (h ++ entries e (handle cfg c e).effects))
    rw [after]
    exact speaks.tracked before (speaks.orderly before spoken)

theorem spoken_iff_orderly {c : ClientConnection} {h : List Entry}
    (reach : (connectionMachine cfg).Reach (SpokenAfter cfg) c h) (e : ConnEvent) :
    SpokenAfter cfg c h e ↔ Orderly cfg c h e := by
  have before := tracked_run reach
  have speaks : Speaks cfg c e (handle cfg c e).conn.phase (said e (handle cfg c e).effects) :=
    handle_speaks c e
  rw [SpokenAfter,posts_append]
  exact ⟨speaks.orderly before,fun orderly => (speaks.tracked before orderly).spoken⟩

/-- The history of a client is a run of its connection over what came in for it, and the
connection is the one of that run for as long as it exists. -/
theorem client_run {cfg : Config} {keys : KeySource} {s : Server keys} {log : List ServerAction}
    (reach : (serverMachine cfg keys).Reach Machine.anything s log) (c : Nat) :
    ∃ ip,
      let first : ClientConnection := { connectionId := c, remoteIp := ip }
      ((connectionMachine cfg).run first (received (history c log))).2 = history c log ∧
      ∀ conn, s.connectionPool.find? c = some conn →
        ((connectionMachine cfg).run first (received (history c log))).1 = conn := by
  have valid := server_invariant reach
  -- The connection, if it still exists, and else the one it was.
  obtain ⟨conn,connReach,own,live⟩ : ∃ conn,
      (connectionMachine cfg).Reach Machine.anything conn (history c log) ∧ conn.connectionId = c ∧
        ∀ conn', s.connectionPool.find? c = some conn' → conn = conn' := by
    cases found : s.connectionPool.find? c with
    | none =>
      obtain ⟨conn,connReach,own⟩ := valid.past c
      exact ⟨conn,connReach,own,by simp⟩
    | some conn =>
      obtain ⟨connReach,own⟩ := valid.live c conn found
      exact ⟨conn,connReach,own,by simp⟩
  obtain ⟨first,es,start,run⟩ := connReach.exists_run
  have logged : ((connectionMachine cfg).run first es).2 = history c log := congrArg Prod.snd run
  have ended : ((connectionMachine cfg).run first es).1 = conn := congrArg Prod.fst run
  have events : received (history c log) = es := by
    rw [← logged]
    exact received_run first es
  obtain ⟨id,ip,rfl⟩ := start
  have same : id = c := by
    rw [← own,← ended]
    exact (connectionId_run { connectionId := id, remoteIp := ip } es).symm
  subst same
  refine ⟨ip,?_⟩
  dsimp only
  rw [events,run]
  exact ⟨rfl,live⟩

/-- The part of a client in a run of the server is a run of its connection, and keeps to the
script of its protocol after every event just when every event is orderly. -/
theorem client_byte_order {cfg : Config} {keys : KeySource} {s : Server keys} {log : List ServerAction}
    (reach : (serverMachine cfg keys).Reach Machine.anything s log) (c : Nat) :
    ∃ ip,
      let first : ClientConnection := { connectionId := c, remoteIp := ip }
      let es := received (history c log)
      ((connectionMachine cfg).run first es).2 = history c log ∧
      (∀ conn, s.connectionPool.find? c = some conn → ((connectionMachine cfg).run first es).1 = conn) ∧
      ((connectionMachine cfg).Allowed (SpokenAfter cfg) first [] es ↔
        (connectionMachine cfg).Allowed (Orderly cfg) first [] es) := by
  obtain ⟨ip,logged,live⟩ := client_run reach c
  have start : (connectionMachine cfg).start { connectionId := c, remoteIp := ip } := ⟨c,ip,rfl⟩
  exact ⟨ip,logged,live,Machine.allowed_iff
    (fun _ _ e reach => spoken_iff_orderly reach e) (.start start) (received (history c log))⟩

theorem Orderly.of_kept {c : ClientConnection} {h : List Entry} {e : ConnEvent} {p : Protocol}
    (known : c.phase.protocol = some p) (kept : (p.script cfg).Prefix (posts false h))
    (due : e.isPush = false ∨ c.phase.PayloadDue) : Orderly cfg c h e := by
  refine ⟨?_,?_⟩
  · rintro - payload size rfl -
    exact due.resolve_left (by simp [ConnEvent.isPush])
  · rintro ⟨q,same,ended⟩
    rw [known] at same
    obtain rfl : p = q := by simpa using same
    exact absurd kept ended.apart

theorem Orderly.of_unknown {c : ClientConnection} {h : List Entry} {e : ConnEvent}
    (unknown : c.phase.protocol = none) (other : e.isPush = false) : Orderly cfg c h e := by
  refine ⟨?_,?_⟩
  · rintro - payload size rfl
    cases other
  · rintro ⟨q,same,-⟩
    rw [unknown] at same
    cases same

/-- The relay pushes payload once the client knows that it is connected. -/
def pushedSession : List ServerEvent :=
  socksSession false ++
    [.relayPush { proxySideConnectionId := 1, relaySideConnectionId := 4, payload := [111,107] } 9]

def pushedRun : Server .sequential × List ServerAction :=
  (serverMachine referenceConfig .sequential).run (.init .sequential 1000000 8 8) pushedSession

theorem client_byte_order_pushedRun :
    posts false (history 1 pushedRun.2) =
      [.reply [0x05,0x02],.reply [0x01,0x00],.reply (s5Reply 0),.payload [111,107]] ∧
    ∃ ip, ((connectionMachine referenceConfig).run { connectionId := 1, remoteIp := ip }
        (received (history 1 pushedRun.2))).2 = history 1 pushedRun.2 ∧
      (connectionMachine referenceConfig).Allowed (SpokenAfter referenceConfig)
        { connectionId := 1, remoteIp := ip } [] (received (history 1 pushedRun.2)) := by
  have start : (serverMachine referenceConfig .sequential).start (.init .sequential 1000000 8 8) := ⟨_,_,_,rfl⟩
  obtain ⟨ip,same,-,kept⟩ := client_byte_order (Machine.reach_run start pushedSession) 1
  refine ⟨by decide,ip,same,kept.mpr ?_⟩
  let script := Protocol.script referenceConfig .socks5
  have method : script.Prefix [.reply [0x05,0x02]] := ⟨[],by decide⟩
  have login : script.Prefix [.reply [0x05,0x02],.reply [0x01,0x00]] := ⟨[],by decide⟩
  have opened : script.Prefix [.reply [0x05,0x02],.reply [0x01,0x00],.reply (s5Reply 0)] :=
    ⟨[],by decide⟩
  exact ⟨.of_unknown rfl rfl,.of_kept rfl method (.inl rfl),.of_kept rfl method (.inl rfl),
    .of_kept rfl method (.inl rfl),.of_kept rfl login (.inl rfl),.of_kept rfl login (.inl rfl),
    .of_kept rfl opened (.inl rfl),.of_kept rfl opened (.inr ⟨.socks5,rfl,rfl⟩),trivial⟩

/-- The relay pushes payload before it has reported that the connection is established. -/
def earlyPush : List ServerEvent :=
  (socksSession false).take 7 ++
    [.relayPush { proxySideConnectionId := 1, relaySideConnectionId := 4, payload := [104] } 9]

theorem payload_before_reply : ∃ (s : Server .sequential) (log : List ServerAction) (conn : ClientConnection),
    (serverMachine referenceConfig .sequential).Reach Machine.anything s log ∧
      s.connectionPool.find? 1 = some conn ∧
      ¬ Spoken referenceConfig conn.phase (posts false (history 1 log)) := by
  let first : Server .sequential := .init .sequential 1000000 8 8
  let run := (serverMachine referenceConfig .sequential).run first earlyPush
  have start : (serverMachine referenceConfig .sequential).start first := ⟨_,_,_,rfl⟩
  let conn := (run.1.connectionPool.find? 1).getD { connectionId := 0, remoteIp := [] }
  refine ⟨run.1,run.2,conn,Machine.reach_run start earlyPush,by decide,?_⟩
  have waiting : conn.phase = .s5WaitForConnectionEstablish := by decide
  have posted : posts false (history 1 run.2) =
      [.reply [0x05,0x02],.reply [0x01,0x00]] ++ [.payload [104]] := by decide
  have login : (Protocol.script referenceConfig .socks5).Prefix
      [.reply [0x05,0x02],.reply [0x01,0x00]] := ⟨[],by decide⟩
  rw [Spoken,waiting,posted]
  intro follows
  exact absurd ((Script.follows_payload login).mp follows) (by decide)

end MiniPP.Proxy
