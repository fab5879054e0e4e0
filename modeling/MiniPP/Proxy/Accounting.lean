import MiniPP.Proxy.Upload
import MiniPP.Wire

/-! The transferred sizes of a connection. Uploads are counted by their data, pushes from the
relay by the size of the packet; the totals are reported when they have grown by enough. -/
namespace MiniPP.Proxy

variable {cfg : Config}

/-! ## Counters -/

structure Counters where
  upload : Nat
  dumped : Nat
  reportedUpload : Nat
  reportedDumped : Nat
  deriving DecidableEq, Repr

def ClientConnection.counters (c : ClientConnection) : Counters :=
  ⟨c.totalUploadDataSize,c.totalDumpedDataSize,c.totalReportedUploadDataSize,
    c.totalReportedDumpedDataSize⟩

namespace Counters

def add (k : Counters) (upload dumped : Nat) : Counters :=
  { k with upload := (k.upload + upload) % 2^64, dumped := (k.dumped + dumped) % 2^64 }

def Due (k : Counters) : Prop :=
  ¬ (sub64 k.upload k.reportedUpload < readOverflowSize ∧
    sub64 k.dumped k.reportedDumped < writeOverflowSize)

def settled (k : Counters) : Counters := { k with reportedUpload := k.upload, reportedDumped := k.dumped }

end Counters

/-- The sizes that a message to the relay reports. -/
def Effect.report : Effect → Option (Nat × Nat)
  | .postMessage _ (.notifyConnectionState n) =>
    if n.newState = stateUpdateTransfer then some (n.totalUploadedBytes,n.totalDumpedBytes) else none
  | _ => none

def reported (out : List Effect) : List (Nat × Nat) := out.filterMap Effect.report

@[simp] theorem reported_append (out more : List Effect) :
    reported (out ++ more) = reported out ++ reported more := List.filterMap_append

theorem reported_nil {out : List Effect} (silent : ∀ x ∈ out, x.report = none) : reported out = [] :=
  List.filterMap_eq_nil_iff.mpr silent

/-- What a callback does to the counters that it gives these increments. -/
inductive Counted (k : Counters) : Option (Nat × Nat) → Counters → List Effect → Prop where
  | untouched {out : List Effect} (silent : reported out = []) : Counted k none k out
  | quiet {up down : Nat} {out : List Effect} (early : ¬ (k.add up down).Due) (silent : reported out = []) :
      Counted k (some (up,down)) (k.add up down) out
  | reports {up down : Nat} {out : List Effect} (due : (k.add up down).Due)
      (told : reported out = [((k.add up down).upload,(k.add up down).dumped)]) :
      Counted k (some (up,down)) (k.add up down).settled out
  | kills {up down : Nat} {out : List Effect} (due : (k.add up down).Due) (silent : reported out = [])
      (killed : .kill ∈ out) : Counted k (some (up,down)) (k.add up down) out

theorem Counted.around {k k' : Counters} {increments : Option (Nat × Nat)} {out before after : List Effect}
    (counted : Counted k increments k' out) (first : reported before = []) (last : reported after = []) :
    Counted k increments k' (before ++ out ++ after) := by
  have same : reported (before ++ out ++ after) = reported out := by
    rw [reported_append,reported_append,first,last,List.append_nil,List.nil_append]
  cases counted with
  | untouched silent => exact .untouched (same.trans silent)
  | quiet early silent => exact .quiet early (same.trans silent)
  | reports due told => exact .reports due (same.trans told)
  | kills due silent killed => exact .kills due (same.trans silent) (by simp [killed])

theorem tryUpdate_counted (cfg : Config) (c : ClientConnection) (up down : Nat) :
    Counted c.counters (some (up,down)) (tryUpdateDataTransferSize cfg c up down).conn.counters
      (tryUpdateDataTransferSize cfg c up down).effects := by
  unfold tryUpdateDataTransferSize
  dsimp only
  split
  · rename_i early
    exact .quiet (fun due => due early) rfl
  · rename_i due
    split
    · exact .reports due rfl
    · exact .kills due rfl (by simp)

/-- The increments with which a callback counts. -/
def increments (cfg : Config) (c : ClientConnection) (e : ConnEvent) : Option (Nat × Nat) :=
  match e with
  | .relayPush _ payloadSize => some (0,payloadSize)
  | e => (uploadCall c e).bind fun call =>
    if call.1.relayConnectionId ∈ cfg.relayServers then some (call.2.length,0) else none

theorem uploadData_counted (cfg : Config) (c : ClientConnection) (data : Bytes) :
    Counted c.counters (if c.relayConnectionId ∈ cfg.relayServers then some (data.length,0) else none)
      (onUploadData cfg c data).conn.counters (onUploadData cfg c data).effects := by
  unfold onUploadData
  split
  · refine (tryUpdate_counted cfg c data.length 0).around (reported_nil ?_) rfl
    intro x member
    obtain ⟨payload,-,rfl⟩ := List.mem_map.mp member
    rfl
  · exact .untouched rfl

/-! ## Callbacks -/

/-- A callback that counts nothing. -/
structure Uncounted (c c' : ClientConnection) (out : List Effect) : Prop where
  counters : c'.counters = c.counters
  silent : reported out = []

theorem Uncounted.counted {c c' : ClientConnection} {out : List Effect} (same : Uncounted c c' out) :
    Counted c.counters none c'.counters out := by
  rw [same.counters]
  exact .untouched same.silent

theorem uncounted_challenge (c : ClientConnection) (data : Bytes) :
    Uncounted c (onChallenge c data).conn (onChallenge c data).effects := by
  have branch := challenge_branch c data
  generalize onChallenge c data = reading at branch ⊢
  cases branch <;> exact ⟨rfl,rfl⟩

theorem uncounted_clientAuth (c : ClientConnection) (data : Bytes) :
    Uncounted c (onS5ClientAuth c data).conn (onS5ClientAuth c data).effects := by
  have branch := clientAuth_branch c data
  generalize onS5ClientAuth c data = reading at branch ⊢
  cases branch <;> exact ⟨rfl,rfl⟩

theorem uncounted_openRemote (cfg : Config) (c : ClientConnection) (address : NetAddress) (hostname : Bytes) :
    Uncounted c (onOpenRemoteConnection cfg c address hostname).conn
      (onOpenRemoteConnection cfg c address hostname).effects := by
  have branch := open_branch cfg c address hostname
  generalize onOpenRemoteConnection cfg c address hostname = act at branch ⊢
  cases branch <;> exact ⟨rfl,rfl⟩

theorem uncounted_connectionRequest (cfg : Config) (c : ClientConnection) (data : Bytes) :
    Uncounted c (onS5ConnectionRequest cfg c data).conn (onS5ConnectionRequest cfg c data).effects := by
  have branch := connectionRequest_branch cfg c data
  generalize onS5ConnectionRequest cfg c data = reading at branch ⊢
  cases branch with
  | opens address domain => exact uncounted_openRemote cfg c address domain
  | _ => exact ⟨rfl,rfl⟩

theorem uncounted_rawChallenge (cfg : Config) (c : ClientConnection) (data : Bytes) :
    Uncounted c (onHttpRawChallenge cfg c data).conn (onHttpRawChallenge cfg c data).effects := by
  have branch := rawChallenge_branch cfg c data
  generalize onHttpRawChallenge cfg c data = reading at branch ⊢
  cases branch <;> exact ⟨rfl,rfl⟩

theorem uncounted_normalChallenge (cfg : Config) (c : ClientConnection) (data : Bytes) :
    Uncounted c (onHttpNormalChallenge cfg c data).conn (onHttpNormalChallenge cfg c data).effects := by
  have branch := normalChallenge_branch cfg c data
  generalize onHttpNormalChallenge cfg c data = reading at branch ⊢
  cases branch <;> exact ⟨rfl,rfl⟩

/-- Only the data of a client that is connected counts. -/
theorem data_counted (cfg : Config) (c : ClientConnection) (data : Bytes) :
    Counted c.counters (increments cfg c (.data data)) (handle cfg c (.data data)).conn.counters
      (handle cfg c (.data data)).effects := by
  have other (unready : ¬ c.phase.Ready) : increments cfg c (.data data) = none := by
    simp [increments,uploadCall,unready]
  have calls (ready : c.phase.Ready) : increments cfg c (.data data) =
      if c.relayConnectionId ∈ cfg.relayServers then some (data.length,0) else none := by
    simp [increments,uploadCall,ready]
  cases phase : c.phase with
  | unknown =>
    rw [other (by simp [phase,Phase.Ready])]
    simp only [handle,onData,phase]
    exact (uncounted_challenge c data).counted
  | s5WaitForAuthInfo =>
    rw [other (by simp [phase,Phase.Ready])]
    simp only [handle,onData,phase]
    exact (uncounted_clientAuth c data).counted
  | s5WaitForConnectionRequest =>
    rw [other (by simp [phase,Phase.Ready])]
    simp only [handle,onData,phase]
    exact (uncounted_connectionRequest cfg c data).counted
  | httpRawChallenge =>
    rw [other (by simp [phase,Phase.Ready])]
    simp only [handle,onData,phase]
    exact (uncounted_rawChallenge cfg c data).counted
  | httpNormalChallenge =>
    rw [other (by simp [phase,Phase.Ready])]
    simp only [handle,onData,phase]
    exact (uncounted_normalChallenge cfg c data).counted
  | s5ConnectionReady =>
    rw [calls (.inl phase)]
    simp only [handle,onData,phase]
    exact uploadData_counted cfg c data
  | httpRawReady =>
    rw [calls (.inr (.inl phase))]
    simp only [handle,onData,phase]
    exact uploadData_counted cfg c data
  | httpNormalReady =>
    rw [calls (.inr (.inr phase))]
    simp only [handle,onData,phase]
    exact uploadData_counted cfg c data
  | _ =>
    rw [other (by simp [phase,Phase.Ready])]
    simp only [handle,onData,phase]
    exact .untouched rfl

theorem relayState_counted (cfg : Config) (c : ClientConnection) (n : PR.ConnectionStateNotify) (pendingWrites : Bool) :
    Counted c.counters (increments cfg c (.relayState n pendingWrites))
      (handle cfg c (.relayState n pendingWrites)).conn.counters
      (handle cfg c (.relayState n pendingWrites)).effects := by
  have other {phase : Phase} (here : c.phase = phase)
      (apart : phase ≠ .httpNormalWaitForConnectionEstablish) :
      increments cfg c (.relayState n pendingWrites) = none := by
    simp [increments,uploadCall,here,apart]
  simp only [handle,onRelaySideConnectionStateChange]
  split
  · rename_i phase
    rw [other phase (by decide)]
    split <;> exact .untouched rfl
  · rename_i phase
    rw [other phase (by decide)]
    split <;> cases pendingWrites <;> exact .untouched rfl
  · rename_i phase
    rw [other phase (by decide)]
    split <;> exact .untouched rfl
  · rename_i phase
    split
    · rename_i established
      have call : increments cfg c (.relayState n pendingWrites) =
          if c.relayConnectionId ∈ cfg.relayServers then some (c.http.rebuiltHttpHeader.length,0)
          else none := by
        simp [increments,uploadCall,phase,established]
      rw [call]
      exact uploadData_counted cfg { c with
        readingSuspended := false
        relaySideConnectionId := n.relaySideConnectionId
        phase := .httpNormalReady } c.http.rebuiltHttpHeader
    · rename_i waits
      have none : increments cfg c (.relayState n pendingWrites) = none := by
        simp [increments,uploadCall,waits]
      rw [none]
      exact .untouched rfl
  · rename_i last
    rw [other rfl last]
    exact .untouched rfl

/-- What an event does to the counters of its connection. -/
theorem handle_counted (cfg : Config) (c : ClientConnection) (e : ConnEvent) :
    Counted c.counters (increments cfg c e) (handle cfg c e).conn.counters (handle cfg c e).effects := by
  cases e with
  | data data => exact data_counted cfg c data
  | peerClose =>
    simp only [handle,onPeerClose]
    split
    all_goals exact .untouched rfl
  | authResult result =>
    simp only [handle,onAuthResult,onS5ClientAuthFinished,onHttpRawAuthFinished,onHttpNormalAuthFinished]
    cases result with
    | none => split <;> exact .untouched rfl
    | some verdict => split <;> exact .untouched rfl
  | deviceSelected result =>
    simp only [handle,onDeviceSelected]
    split
    · split <;> exact .untouched rfl
    · exact (uncounted_openRemote cfg (useDevice c result) _ _).counted
    · exact (uncounted_openRemote cfg (useDevice c result) _ _).counted
    · exact .untouched rfl
  | relayState n pendingWrites => exact relayState_counted cfg c n pendingWrites
  | relayDestroy pendingWrites =>
    simp only [handle,onDestroyConnection]
    split <;> cases pendingWrites <;> exact .untouched rfl
  | relayPush payload size =>
    have counted : Counted c.counters (some (0,size)) (tryUpdateDataTransferSize cfg c 0 size).conn.counters
        ([.keepAlive,.postData payload] ++ (tryUpdateDataTransferSize cfg c 0 size).effects ++ []) :=
      (tryUpdate_counted cfg c 0 size).around rfl rfl
    rwa [List.append_nil] at counted

/-! ## Histories -/

def Entry.report : Entry → Option (Nat × Nat)
  | .did x => x.report
  | .received _ => none

/-- The reports that were sent, in order. -/
def reports (h : List Entry) : List (Nat × Nat) := h.filterMap Entry.report

def lastReport (h : List Entry) : Nat × Nat := (reports h).getLast?.getD (0,0)

def Entry.forwarded : Entry → Nat
  | .did (.postMessage _ (.postData m)) => m.payload.length
  | _ => 0

/-- The bytes of the payloads that went to the relay. -/
def forwarded (h : List Entry) : Nat := (h.map Entry.forwarded).sum

def Entry.pushed : Entry → Nat
  | .received (.relayPush payload _) => payload.length
  | _ => 0

/-- The bytes of the payloads that came from the relay. Each of them is posted to the client. -/
def pushed (h : List Entry) : Nat := (h.map Entry.pushed).sum

theorem reports_step (h : List Entry) (e : ConnEvent) (out : List Effect) :
    reports (h ++ entries e out) = reports h ++ reported out := by
  have same : (out.map Entry.did).filterMap Entry.report = out.filterMap Effect.report :=
    List.filterMap_map
  rw [reports,List.filterMap_append,entries,List.filterMap_cons_none rfl,same]
  rfl

theorem pushed_step (h : List Entry) (e : ConnEvent) (out : List Effect) :
    pushed (h ++ entries e out) = pushed h + (Entry.received e).pushed := by
  have none : (out.map (fun x => (Entry.did x).pushed)).sum = 0 := by
    induction out with
    | nil => rfl
    | cons x out ih => rw [List.map_cons,List.sum_cons,ih]; rfl
  rw [pushed,List.map_append,List.sum_append,entries,List.map_cons,List.map_map,List.sum_cons]
  exact congrArg _ (congrArg _ none)

theorem sum_packets (out : List Effect) :
    ((out.map Entry.did).map Entry.forwarded).sum =
      ((packets out).map (fun packet => packet.2.payload.length)).sum := by
  induction out with
  | nil => rfl
  | cons x out ih =>
    rw [List.map_cons,List.map_cons,List.sum_cons,ih,packets,packets]
    cases sent : x.packet with
    | none =>
      have nothing : (Entry.did x).forwarded = 0 := by
        cases x with
        | postMessage server m => cases m <;> first | rfl | cases sent
        | _ => rfl
      rw [List.filterMap_cons_none sent,nothing,Nat.zero_add]
    | some packet =>
      rw [List.filterMap_cons_some sent,List.map_cons,List.sum_cons]
      cases x with
      | postMessage server m =>
        cases m with
        | postData m =>
          obtain rfl := Option.some.inj sent
          rfl
        | _ => cases sent
      | _ => cases sent

theorem sum_uploadPackets (cfg : Config) (call : ClientConnection × Bytes) :
    ((uploadPackets cfg call).map (fun packet => packet.2.payload.length)).sum =
      if call.1.relayConnectionId ∈ cfg.relayServers then call.2.length else 0 := by
  unfold uploadPackets
  split
  · have whole := congrArg List.length (flatten_payloads call.2.length call.2 (Nat.le_refl _))
    rw [List.length_flatten] at whole
    rw [List.map_map]
    exact whole
  · rfl

theorem forwarded_step (cfg : Config) (c : ClientConnection) (h : List Entry) (e : ConnEvent) :
    forwarded (h ++ entries e (handle cfg c e).effects) =
      forwarded h + ((increments cfg c e).map Prod.fst).getD 0 := by
  rw [forwarded,List.map_append,List.sum_append,entries,List.map_cons,List.sum_cons,sum_packets,
    packets_handle]
  have received : (Entry.received e).forwarded = 0 := rfl
  rw [received,Nat.zero_add]
  apply congrArg _
  have upload (other : ∀ payload size, e ≠ .relayPush payload size) : increments cfg c e =
      (uploadCall c e).bind fun call =>
        if call.1.relayConnectionId ∈ cfg.relayServers then some (call.2.length,0) else none := by
    cases e with
    | relayPush payload size => exact absurd rfl (other payload size)
    | _ => rfl
  by_cases push : ∃ payload size, e = .relayPush payload size
  · obtain ⟨payload,size,rfl⟩ := push
    rfl
  · rw [upload (fun payload size same => push ⟨payload,size,same⟩)]
    cases uploadCall c e with
    | none => rfl
    | some call =>
      rw [Option.toList_some,List.flatMap_cons,List.flatMap_nil,List.append_nil,sum_uploadPackets,
        Option.bind_some]
      split <;> rfl

/-! ## Accounts -/

/-- The totals are what was transferred, and no report goes back. -/
structure Accounted (c : ClientConnection) (h : List Entry) : Prop where
  upload : c.totalUploadDataSize = forwarded h
  dumped : c.totalDumpedDataSize = pushed h
  ordered : (reports h).Pairwise (fun r r' => r.1 ≤ r'.1 ∧ r.2 ≤ r'.2)

/-- The totals exceed the last report by less than is due. -/
structure Fresh (c : ClientConnection) (h : List Entry) : Prop where
  upload : (lastReport h).1 ≤ c.totalUploadDataSize ∧
    c.totalUploadDataSize < (lastReport h).1 + readOverflowSize
  dumped : (lastReport h).2 ≤ c.totalDumpedDataSize ∧
    c.totalDumpedDataSize < (lastReport h).2 + writeOverflowSize

/-- After the event the totals are right, and if it has updated them and the connection is not
killed, the last report is. -/
structure ExactAfter (cfg : Config) (c : ClientConnection) (h : List Entry) (e : ConnEvent) : Prop where
  accounted : Accounted (handle cfg c e).conn (h ++ entries e (handle cfg c e).effects)
  fresh : (increments cfg c e).isSome = true → .kill ∉ (handle cfg c e).effects →
    Fresh (handle cfg c e).conn (h ++ entries e (handle cfg c e).effects)

/-- Nothing is pushed to the client, and the bytes forwarded stay below the counter's bound. -/
structure Countable (cfg : Config) (c : ClientConnection) (h : List Entry) (e : ConnEvent) : Prop where
  quiet : e.isPush = false
  bounded : ∀ p ∈ increments cfg c e, forwarded h + p.1 < 2^64

instance (cfg : Config) (c : ClientConnection) (h : List Entry) (e : ConnEvent) : Decidable (Countable cfg c h e) :=
  decidable_of_iff (e.isPush = false ∧ ∀ p ∈ increments cfg c e, forwarded h + p.1 < 2^64)
    ⟨fun both => ⟨both.1,both.2⟩,fun countable => ⟨countable.quiet,countable.bounded⟩⟩

/-- What holds as long as the accounts are right. -/
structure Ledger (c : ClientConnection) (h : List Entry) : Prop where
  accounted : Accounted c h
  last : lastReport h = (c.totalReportedUploadDataSize,c.totalReportedDumpedDataSize)
  upload : c.totalReportedUploadDataSize ≤ c.totalUploadDataSize ∧ c.totalUploadDataSize < 2^64
  dumped : c.totalReportedDumpedDataSize ≤ c.totalDumpedDataSize ∧ c.totalDumpedDataSize < 2^64
  earlier : ∀ r ∈ reports h, r.1 ≤ c.totalReportedUploadDataSize ∧ r.2 ≤ c.totalReportedDumpedDataSize

theorem Counted.totals {k k' : Counters} {inc : Option (Nat × Nat)} {out : List Effect}
    (counted : Counted k inc k' out) :
    (inc = none ∧ k'.upload = k.upload ∧ k'.dumped = k.dumped) ∨
      ∃ up down, inc = some (up,down) ∧ k'.upload = (k.upload + up) % 2^64 ∧
        k'.dumped = (k.dumped + down) % 2^64 := by
  cases counted with
  | untouched => exact .inl ⟨rfl,rfl,rfl⟩
  | quiet => exact .inr ⟨_,_,rfl,rfl,rfl⟩
  | reports => exact .inr ⟨_,_,rfl,rfl,rfl⟩
  | kills => exact .inr ⟨_,_,rfl,rfl,rfl⟩

/-- Either nothing is reported, or the totals are. -/
theorem Counted.reporting {k k' : Counters} {inc : Option (Nat × Nat)} {out : List Effect}
    (counted : Counted k inc k' out) :
    (reported out = [] ∧ k'.reportedUpload = k.reportedUpload ∧ k'.reportedDumped = k.reportedDumped ∧
        (inc.isSome = true → .kill ∉ out → ¬ k'.Due)) ∨
      reported out = [(k'.upload,k'.dumped)] ∧ k'.reportedUpload = k'.upload ∧
        k'.reportedDumped = k'.dumped := by
  cases counted with
  | untouched silent => exact .inl ⟨silent,rfl,rfl,fun some_ => by cases some_⟩
  | quiet early silent => exact .inl ⟨silent,rfl,rfl,fun _ _ => early⟩
  | reports _ told => exact .inr ⟨told,rfl,rfl⟩
  | kills _ silent killed => exact .inl ⟨silent,rfl,rfl,fun _ alive => absurd killed alive⟩

theorem Counted.bounded {k k' : Counters} {inc : Option (Nat × Nat)} {out : List Effect}
    (counted : Counted k inc k' out) (before : k.upload < 2^64 ∧ k.dumped < 2^64) :
    k'.upload < 2^64 ∧ k'.dumped < 2^64 := by
  rcases counted.totals with ⟨-,upload,dumped⟩ | ⟨up,down,-,upload,dumped⟩ <;> omega

theorem ledger_step {c : ClientConnection} {h : List Entry} (ledger : Ledger c h) (e : ConnEvent)
    (after : Accounted (handle cfg c e).conn (h ++ entries e (handle cfg c e).effects)) :
    Ledger (handle cfg c e).conn (h ++ entries e (handle cfg c e).effects) := by
  have counted := handle_counted cfg c e
  have more := forwarded_step cfg c h e
  have pushes := pushed_step h e (handle cfg c e).effects
  have told := reports_step h e (handle cfg c e).effects
  have bound := counted.bounded ⟨ledger.upload.2,ledger.dumped.2⟩
  have uploaded : c.totalUploadDataSize ≤ (handle cfg c e).conn.totalUploadDataSize := by
    rw [ledger.accounted.upload,after.upload,more]
    exact Nat.le_add_right _ _
  have dumped : c.totalDumpedDataSize ≤ (handle cfg c e).conn.totalDumpedDataSize := by
    rw [ledger.accounted.dumped,after.dumped,pushes]
    exact Nat.le_add_right _ _
  have oldUpload := ledger.upload.1
  have oldDumped := ledger.dumped.1
  rcases counted.reporting with ⟨silent,up,down,-⟩ | ⟨one,up,down⟩
  · have up : (handle cfg c e).conn.totalReportedUploadDataSize = c.totalReportedUploadDataSize := up
    have down : (handle cfg c e).conn.totalReportedDumpedDataSize = c.totalReportedDumpedDataSize := down
    rw [silent,List.append_nil] at told
    refine ⟨after,?_,⟨?_,bound.1⟩,⟨?_,bound.2⟩,?_⟩
    · rw [lastReport,told,up,down]
      exact ledger.last
    · omega
    · omega
    · rw [told,up,down]
      exact ledger.earlier
  · have up : (handle cfg c e).conn.totalReportedUploadDataSize =
        (handle cfg c e).conn.totalUploadDataSize := up
    have down : (handle cfg c e).conn.totalReportedDumpedDataSize =
        (handle cfg c e).conn.totalDumpedDataSize := down
    rw [one] at told
    refine ⟨after,?_,⟨Nat.le_of_eq up,bound.1⟩,⟨Nat.le_of_eq down,bound.2⟩,?_⟩
    · rw [lastReport,told,List.getLast?_concat,up,down]
      rfl
    · intro r member
      rw [told] at member
      rcases List.mem_append.mp member with old | new
      · have below := ledger.earlier r old
        omega
      · rw [List.mem_singleton.mp new,up,down]
        exact ⟨Nat.le_refl _,Nat.le_refl _⟩

theorem increments_dumped {c : ClientConnection} {e : ConnEvent} (quiet : e.isPush = false) {up down : Nat}
    (counts : increments cfg c e = some (up,down)) : down = 0 := by
  have uploads : (uploadCall c e).bind (fun call =>
      if call.1.relayConnectionId ∈ cfg.relayServers then some (call.2.length,0) else none) =
        some (up,down) := by
    cases e with
    | relayPush payload size => cases quiet
    | _ => exact counts
  obtain ⟨call,-,counted⟩ := Option.bind_eq_some_iff.mp uploads
  split at counted
  · exact (Prod.mk.inj (Option.some.inj counted)).2.symm
  · cases counted

theorem fresh_of_accounted {c : ClientConnection} {h : List Entry} (ledger : Ledger c h) {e : ConnEvent}
    (after : Accounted (handle cfg c e).conn (h ++ entries e (handle cfg c e).effects))
    (updates : (increments cfg c e).isSome = true) (alive : .kill ∉ (handle cfg c e).effects) :
    Fresh (handle cfg c e).conn (h ++ entries e (handle cfg c e).effects) := by
  have later := ledger_step ledger e after
  have upload := later.upload.1
  have dumped := later.dumped.1
  have last := later.last
  have small : (handle cfg c e).conn.totalUploadDataSize -
        (handle cfg c e).conn.totalReportedUploadDataSize < readOverflowSize ∧
      (handle cfg c e).conn.totalDumpedDataSize -
        (handle cfg c e).conn.totalReportedDumpedDataSize < writeOverflowSize := by
    rcases (handle_counted cfg c e).reporting with ⟨-,-,-,early⟩ | ⟨-,up,down⟩
    · have early := not_not.mp (early updates alive)
      rw [← sub64_of_le upload,← sub64_of_le dumped]
      exact early
    · have up : (handle cfg c e).conn.totalReportedUploadDataSize =
        (handle cfg c e).conn.totalUploadDataSize := up
      have down : (handle cfg c e).conn.totalReportedDumpedDataSize =
        (handle cfg c e).conn.totalDumpedDataSize := down
      rw [up,down,Nat.sub_self,Nat.sub_self]
      decide
  constructor
  · rw [last]
    dsimp only
    omega
  · rw [last]
    dsimp only
    omega

theorem exact_of_countable {c : ClientConnection} {h : List Entry} (ledger : Ledger c h) {e : ConnEvent}
    (countable : Countable cfg c h e) : ExactAfter cfg c h e := by
  have counted := handle_counted cfg c e
  have more := forwarded_step cfg c h e
  have told := reports_step h e (handle cfg c e).effects
  have pushes : pushed (h ++ entries e (handle cfg c e).effects) = pushed h := by
    rw [pushed_step]
    have quiet := countable.quiet
    cases e with
    | relayPush payload size => cases quiet
    | _ => rfl
  have upload : (handle cfg c e).conn.totalUploadDataSize =
      forwarded (h ++ entries e (handle cfg c e).effects) := by
    rw [more]
    rcases counted.totals with ⟨none,same,-⟩ | ⟨up,down,counts,grown,-⟩
    · rw [none]
      exact same.trans ledger.accounted.upload
    · rw [counts]
      have fits := countable.bounded (up,down) counts
      dsimp only at fits
      rw [← ledger.accounted.upload] at fits ⊢
      exact grown.trans (Nat.mod_eq_of_lt fits)
  have dumped : (handle cfg c e).conn.totalDumpedDataSize = c.totalDumpedDataSize := by
    rcases counted.totals with ⟨-,-,same⟩ | ⟨up,down,counts,-,grown⟩
    · exact same
    · rw [increments_dumped countable.quiet counts] at grown
      exact grown.trans (Nat.mod_eq_of_lt ledger.dumped.2)
  have uploaded : c.totalUploadDataSize ≤ (handle cfg c e).conn.totalUploadDataSize := by
    rw [ledger.accounted.upload,upload,more]
    exact Nat.le_add_right _ _
  have after : Accounted (handle cfg c e).conn (h ++ entries e (handle cfg c e).effects) := by
    refine ⟨upload,by rw [dumped,pushes]; exact ledger.accounted.dumped,?_⟩
    rw [told]
    rcases counted.reporting with ⟨silent,-,-,-⟩ | ⟨one,-,-⟩
    · rw [silent,List.append_nil]
      exact ledger.accounted.ordered
    · rw [one]
      refine List.pairwise_append.mpr ⟨ledger.accounted.ordered,List.pairwise_singleton _ _,?_⟩
      intro r old r' new
      rw [List.mem_singleton.mp new]
      have below := ledger.earlier r old
      exact ⟨below.1.trans (ledger.upload.1.trans uploaded),
        below.2.trans (ledger.dumped.1.trans (Nat.le_of_eq dumped.symm))⟩
  exact ⟨after,fresh_of_accounted ledger after⟩

/-- A push comes in a packet that has more than its payload, and a size that the counter holds. -/
def RegularPush (x : Wire) (e : ConnEvent) : Prop :=
  ∀ payload size, e = .relayPush payload size → ∃ m rest, m.payload = payload ∧
    size = (x.pushData.write m ++ rest).length ∧ size < 2^64

theorem countable_of_exact {x : Wire} {c : ClientConnection} {h : List Entry} (ledger : Ledger c h)
    {e : ConnEvent} (regular : RegularPush x e) (right : ExactAfter cfg c h e) : Countable cfg c h e := by
  constructor
  · by_contra push
    obtain ⟨payload,size,rfl⟩ : ∃ payload size, e = .relayPush payload size := by
      cases e with
      | relayPush payload size => exact ⟨payload,size,rfl⟩
      | _ => exact absurd rfl push
    obtain ⟨m,rest,rfl,length,fits⟩ := regular payload size rfl
    rw [List.length_append,x.size_pushData] at length
    have total := right.accounted.dumped
    rw [pushed_step] at total
    rcases (handle_counted cfg c (.relayPush m.payload size)).totals with ⟨none,-⟩ | ⟨up,down,counts,-,grown⟩
    · cases none
    · obtain ⟨rfl,rfl⟩ := Prod.mk.inj (Option.some.inj counts)
      have grown : (handle cfg c (.relayPush m.payload size)).conn.totalDumpedDataSize =
        (c.totalDumpedDataSize + size) % 2^64 := grown
      have before := ledger.accounted.dumped
      have one : (Entry.received (.relayPush m.payload size)).pushed = m.payload.length := rfl
      rw [one] at total
      omega
  · rintro ⟨up,down⟩ counts
    have counts : increments cfg c e = some (up,down) := counts
    have total := right.accounted.upload
    rw [forwarded_step,counts] at total
    rcases (handle_counted cfg c e).totals with ⟨none,-⟩ | ⟨up',down',counts',grown,-⟩
    · rw [counts] at none
      cases none
    · obtain ⟨rfl,rfl⟩ := Prod.mk.inj (Option.some.inj (counts.symm.trans counts'))
      have grown : (handle cfg c e).conn.totalUploadDataSize = (c.totalUploadDataSize + up) % 2^64 := grown
      have below : (c.totalUploadDataSize + up) % 2^64 < 2^64 := Nat.mod_lt _ (by decide)
      rw [← grown,total] at below
      exact below

/-- In every run, the accounts are right just when nothing is pushed to the client and fewer bytes
are forwarded than the counter can hold. -/
theorem accounts_exact (cfg : Config) (x : Wire) (id : Nat) (ip : Bytes) {es : List ConnEvent}
    (regular : ∀ e ∈ es, RegularPush x e) :
    (connectionMachine cfg).Allowed (ExactAfter cfg) { connectionId := id, remoteIp := ip } [] es ↔
      (connectionMachine cfg).Allowed (Countable cfg) { connectionId := id, remoteIp := ip } [] es := by
  refine Machine.allowed_iff_of (m := connectionMachine cfg) (R := RegularPush x)
    (fun c h e reach regular => ?_) (.start ⟨id,ip,rfl⟩) regular
  have ledger : Ledger c h := by
    apply reach.invariant
    · rintro c ⟨id,ip,rfl⟩
      have zero : (0 : Nat) ≤ 0 ∧ (0 : Nat) < 2^64 := by decide
      exact ⟨⟨rfl,rfl,.nil⟩,rfl,zero,zero,by simp [reports]⟩
    · intro c h e _ right ledger
      exact ledger_step ledger e right.accounted
  exact ⟨countable_of_exact ledger regular,exact_of_countable ledger⟩

/-- A tunnel that is established. -/
def tunnel : List ConnEvent :=
  [.data (ascii "CONNECT h:80 HTTP/1.1\r\n"),.data (ascii "Proxy-Authorization: Basic dTpw\r\n\r\n"),
    .authResult (some ⟨⟨1,2,3,false,false,false,false,false⟩,true⟩),.deviceSelected ⟨9,5⟩,
    .relayState ⟨1,7,stateEstablished,0,0⟩ false]

theorem accounts_exact_upload : (connectionMachine referenceConfig).Allowed (ExactAfter referenceConfig)
    { connectionId := 1, remoteIp := [] } [] (tunnel ++ [.data (ascii "hello")]) :=
  (accounts_exact referenceConfig .reference 1 [] (by
    rintro e member payload size rfl
    simp [tunnel] at member)).mpr (by decide +kernel)

/-- A packet with two bytes for the client is counted as 22. -/
theorem push_miscounted : 22 = (Wire.reference.pushData.write ⟨1,7,ascii "ok"⟩).length ∧
    ¬ (connectionMachine referenceConfig).Allowed (ExactAfter referenceConfig)
      { connectionId := 1, remoteIp := [] } [] (tunnel ++ [.relayPush (ascii "ok") 22]) := by
  refine ⟨by decide,fun allowed => ?_⟩
  obtain ⟨-,-,-,-,-,last,-⟩ := allowed
  have dumped := last.accounted.dumped
  revert dumped
  decide +kernel

end MiniPP.Proxy
