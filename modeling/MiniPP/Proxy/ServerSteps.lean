import MiniPP.Proxy.ServerInvariant

/-! What one event of the server does to the pool of connections, and which callback stands
behind each effect. -/
namespace MiniPP.Proxy

variable {keys : KeySource}

/-! ## Connections before and after -/

/-- A connection of `s` is gone in `s'`, or is related to what it was. -/
def Related (R : ClientConnection → ClientConnection → Prop) (s s' : Server keys) : Prop :=
  ∀ c, s.connectionPool.Issued c → s'.connectionPool.Issued c ∧
    ∀ conn', s'.connectionPool.find? c = some conn' →
      ∃ conn, s.connectionPool.find? c = some conn ∧ R conn conn'

/-- A preorder of connections that every callback follows. -/
structure Progress (cfg : Config) (R : ClientConnection → ClientConnection → Prop) : Prop where
  refl : ∀ conn, R conn conn
  trans : ∀ conn conn' conn'', R conn conn' → R conn' conn'' → R conn conn''
  handle : ∀ conn e, R conn (handle cfg conn e).conn

section Progress

variable {cfg : Config} {R : ClientConnection → ClientConnection → Prop} (progress : Progress cfg R)
include progress

theorem Related.same {s s' : Server keys} (pool : s'.connectionPool = s.connectionPool) :
    Related R s s' := by
  intro c issued
  rw [pool]
  exact ⟨issued,fun conn found => ⟨conn,found,progress.refl conn⟩⟩

theorem Related.trans {s s' s'' : Server keys} (first : Related R s s') (second : Related R s' s'') :
    Related R s s'' := by
  intro c issued
  obtain ⟨issued',back⟩ := first c issued
  obtain ⟨issued'',back'⟩ := second c issued'
  refine ⟨issued'',?_⟩
  intro conn'' found''
  obtain ⟨conn',found',later'⟩ := back' conn'' found''
  obtain ⟨conn,found,later⟩ := back conn' found'
  exact ⟨conn,found,progress.trans _ _ _ later later'⟩

end Progress

/-- The pool after a delivered event. -/
theorem deliver_pool (cfg : Config) (s : Server keys) (c : Nat) (e : ConnEvent)
    {conn : ClientConnection} (found : s.connectionPool.find? c = some conn) :
    (s.deliver cfg c e).1.connectionPool =
      s.connectionPool.modify c (fun _ => (handle cfg conn e).conn) := by
  unfold Server.deliver
  rw [found]
  exact (performedAll _ c (handle cfg conn e).effects).pool

theorem deliver_found (cfg : Config) {s : Server keys} {c : Nat} {conn : ClientConnection}
    (found : s.connectionPool.find? c = some conn) (e : ConnEvent) :
    (s.deliver cfg c e).1.connectionPool.find? c = some (handle cfg conn e).conn := by
  rw [deliver_pool cfg s c e found,Storage.find?_modify,found]
  simp

section Progress

variable {cfg : Config} {R : ClientConnection → ClientConnection → Prop} (progress : Progress cfg R)
include progress

theorem related_deliver (s : Server keys) (c : Nat) (e : ConnEvent) :
    Related R s (s.deliver cfg c e).1 := by
  cases found : s.connectionPool.find? c with
  | none =>
    apply Related.same progress
    simp [Server.deliver,found]
  | some conn =>
    intro c' issued
    rw [deliver_pool cfg s c e found]
    refine ⟨issued,?_⟩
    intro conn' found'
    rcases Storage.of_find?_modify found' with ⟨rfl,_,-,rfl⟩ | ⟨-,found'⟩
    · exact ⟨conn,found,progress.handle conn e⟩
    · exact ⟨conn',found',progress.refl conn'⟩

theorem related_deliverResults (s : Server keys) (actions : List AuthAction) :
    Related R s (s.deliverResults cfg actions).1 := by
  induction actions generalizing s with
  | nil => exact .same progress rfl
  | cons a rest ih =>
    cases a with
    | result rid source verdict =>
      exact (related_deliver progress s source (.authResult verdict)).trans progress (ih _)
    | _ => exact ih s

theorem related_cleanupAll (s : Server keys) (list : List Nat) :
    Related R s (s.cleanupAll list).1 := by
  induction list generalizing s with
  | nil => exact .same progress rfl
  | cons c rest ih =>
    refine Related.trans progress ?_ (ih (s.cleanupConnection c))
    intro c' issued
    refine ⟨issued,?_⟩
    intro conn' found'
    exact ⟨conn',(Storage.of_find?_release found').2,progress.refl conn'⟩

theorem related_newConnection (s : Server keys) (remoteIp : Bytes) :
    Related R s (s.onNewConnection remoteIp).1 := by
  unfold Server.onNewConnection
  split
  · exact .same progress rfl
  · rename_i id pool acquired
    intro c issued
    refine ⟨(Storage.issued_acquire acquired c).mpr (.inr issued),?_⟩
    intro conn' found'
    rcases Storage.of_find?_acquire acquired found' with ⟨rfl,-⟩ | ⟨-,found'⟩
    · exact absurd issued (Storage.acquired_fresh acquired).2
    · exact ⟨conn',found',progress.refl conn'⟩

theorem related_step (s : Server keys) (e : ServerEvent) : Related R s (s.step cfg e).1 := by
  unfold Server.step
  split
  · exact .same progress rfl
  · cases e with
    | newConnection remoteIp => exact related_newConnection progress s remoteIp
    | data c data =>
      dsimp only
      split
      · exact .same progress rfl
      · exact related_deliver progress s c _
    | authPacket node resp => exact .same progress rfl
    | authTick nowMS =>
      have delivered := related_deliverResults progress
        { s with authCacheManager := (s.authCacheManager.onTick nowMS).1 }
        (s.authCacheManager.onTick nowMS).2
      exact (Related.same progress rfl).trans progress delivered
    | clientTick nowMS =>
      have clocked : Related R s { s with ticker := nowMS } := .same progress rfl
      exact ((clocked.trans progress (related_cleanupAll progress _ _)).trans progress
        (related_cleanupAll progress _ _)).trans progress (related_cleanupAll progress _ _)
    | _ => exact related_deliver progress s _ _

theorem related_later {ok : Server keys → List ServerAction → ServerEvent → Prop}
    {a b : Server keys × List ServerAction} (later : (serverMachine cfg keys).Later ok a b) :
    Related R a.1 b.1 := by
  induction later with
  | refl => exact .same progress rfl
  | tail _ last ih =>
    obtain ⟨e,-,rfl⟩ := last
    exact ih.trans progress (related_step progress _ e)

end Progress

/-! ## The callback behind an effect -/

/-- What an event delivers, and to which connection. The results of a tick of the auth cache
come from the cache instead. -/
def ServerEvent.target : ServerEvent → Option (Nat × ConnEvent)
  | .data c bytes => some (c,.data bytes)
  | .peerClose c => some (c,.peerClose)
  | .devicePacket requestId resp => some (requestId,.deviceSelected resp)
  | .relayState n pendingWrites => some (n.proxySideConnectionId,.relayState n pendingWrites)
  | .relayDestroy m pendingWrites => some (m.proxySideConnectionId,.relayDestroy pendingWrites)
  | .relayPush m payloadSize => some (m.proxySideConnectionId,.relayPush m.payload payloadSize)
  | .newConnection _ | .authPacket _ _ | .authTick _ | .clientTick _ => none

theorem mem_history {c : Nat} {x : Effect} {log : List ServerAction} :
    .did x ∈ history c log ↔ .client c x ∈ log := by
  unfold history
  rw [List.mem_filterMap]
  constructor
  · rintro ⟨a,member,entry⟩
    cases a with
    | client c' x' =>
      simp only [ServerAction.entry] at entry
      split at entry
      · rename_i same
        simp only [Option.some.injEq,Entry.did.injEq] at entry
        rw [← same,← entry]
        exact member
      · cases entry
    | deliver c' e =>
      simp only [ServerAction.entry] at entry
      split at entry <;> simp at entry
    | _ => simp [ServerAction.entry] at entry
  · intro member
    exact ⟨_,member,by simp [ServerAction.entry]⟩

/-- A delivery adds the entries of its callback to the connection's history, and nothing to
any other. -/
theorem history_deliver_own {cfg : Config} {s : Server keys} {c : Nat} {conn : ClientConnection}
    (found : s.connectionPool.find? c = some conn) (e : ConnEvent) :
    history c (s.deliver cfg c e).2 = entries e (handle cfg conn e).effects := by
  have all := performedAll { s with
    connectionPool := s.connectionPool.modify c (fun _ => (handle cfg conn e).conn) } c
    (handle cfg conn e).effects
  simp [Server.deliver,found,all.own]

theorem history_deliver_out (cfg : Config) (s : Server keys) (c c' : Nat) (e : ConnEvent) :
    history c (s.deliver cfg c' e).2 = [] ∨ (c = c' ∧ ∃ conn, s.connectionPool.find? c = some conn ∧
      history c (s.deliver cfg c' e).2 = entries e (handle cfg conn e).effects) := by
  cases found : s.connectionPool.find? c' with
  | none => exact .inl (by simp [Server.deliver,found])
  | some conn =>
    by_cases same : c = c'
    · subst same
      exact .inr ⟨rfl,conn,found,history_deliver_own found e⟩
    · have all := performedAll { s with
        connectionPool := s.connectionPool.modify c' (fun _ => (handle cfg conn e).conn) } c'
        (handle cfg conn e).effects
      refine .inl ?_
      simp [Server.deliver,found,Ne.symm same,all.others c same]

/-- A delivery's effects are those of its connection's callback. -/
theorem deliver_cause {cfg : Config} {s : Server keys} {c c' : Nat} {e : ConnEvent} {x : Effect}
    (did : .client c x ∈ (s.deliver cfg c' e).2) :
    c = c' ∧ ∃ conn, s.connectionPool.find? c = some conn ∧ x ∈ (handle cfg conn e).effects ∧
      (s.deliver cfg c' e).1.connectionPool.find? c = some (handle cfg conn e).conn := by
  have entry := mem_history.mpr did
  rcases history_deliver_out cfg s c c' e with none | ⟨rfl,conn,found,out⟩
  · rw [none] at entry
    simp at entry
  · rw [out] at entry
    exact ⟨rfl,conn,found,by simpa using entry,deliver_found cfg found e⟩

theorem deliverResults_cause {cfg : Config} {s : Server keys} {actions : List AuthAction} {c : Nat}
    {x : Effect} (did : .client c x ∈ (s.deliverResults cfg actions).2) :
    ∃ conn result, x ∈ (handle cfg conn (.authResult result)).effects := by
  induction actions generalizing s with
  | nil => simp [Server.deliverResults] at did
  | cons a rest ih =>
    cases a with
    | result rid source verdict =>
      rcases List.mem_append.mp did with first | later
      · obtain ⟨-,conn,-,effect,-⟩ := deliver_cause first
        exact ⟨conn,verdict,effect⟩
      · exact ih later
    | _ => exact ih did

theorem cleanupAll_silent (s : Server keys) (list : List Nat) (c : Nat) (x : Effect) :
    .client c x ∉ (s.cleanupAll list).2 := by
  induction list generalizing s with
  | nil => simp [Server.cleanupAll]
  | cons c' rest ih => simpa [Server.cleanupAll] using ih (s.cleanupConnection c')

/-- The callback of `c` that an event runs, and the connection it leaves behind. -/
structure Ran (cfg : Config) (s : Server keys) (e : ServerEvent) (c : Nat) (delivered : ConnEvent)
    (conn : ClientConnection) : Prop where
  target : e.target = some (c,delivered)
  before : s.connectionPool.find? c = some conn
  after : (s.step cfg e).1.connectionPool.find? c = some (handle cfg conn delivered).conn

/-- An event with a target delivers it or does nothing. -/
theorem step_target {cfg : Config} (s : Server keys) {e : ServerEvent} {c : Nat}
    {delivered : ConnEvent} (target : e.target = some (c,delivered)) :
    s.step cfg e = s.deliver cfg c delivered ∨ s.step cfg e = (s,[]) := by
  by_cases aborted : s.aborted
  · exact .inr (by simp [Server.step,aborted])
  · cases e with
    | data c' bytes =>
      obtain ⟨rfl,rfl⟩ := Prod.mk.inj (Option.some.inj target)
      by_cases suspended : (s.connectionPool.find? c').any ClientConnection.readingSuspended
      · exact .inr (by simp [Server.step,aborted,suspended])
      · exact .inl (by simp [Server.step,aborted,suspended])
    | newConnection | authPacket | authTick | clientTick => simp [ServerEvent.target] at target
    | _ =>
      obtain ⟨rfl,rfl⟩ := Prod.mk.inj (Option.some.inj target)
      exact .inl (by simp [Server.step,aborted])

/-- Each effect comes from the callback that the event delivers, or from an answer of the
auth cache. -/
theorem step_cause {cfg : Config} {s : Server keys} {e : ServerEvent} {c : Nat} {x : Effect}
    (did : .client c x ∈ (s.step cfg e).2) :
    (∃ delivered conn, Ran cfg s e c delivered conn ∧ x ∈ (handle cfg conn delivered).effects) ∨
      ∃ conn result, x ∈ (handle cfg conn (.authResult result)).effects := by
  cases target : e.target with
  | some pair =>
    obtain ⟨c',delivered⟩ := pair
    rcases step_target s target with step | step
    · rw [step] at did
      obtain ⟨rfl,conn,found,effect,after⟩ := deliver_cause did
      exact .inl ⟨delivered,conn,⟨target,found,step ▸ after⟩,effect⟩
    · rw [step] at did
      simp at did
  | none =>
    by_cases aborted : s.aborted
    · simp [Server.step,aborted] at did
    · cases e with
      | newConnection remoteIp =>
        simp only [Server.step,aborted,Server.onNewConnection] at did
        cases acquired : s.connectionPool.acquire (fun id => { connectionId := id, remoteIp }) <;>
          simp [acquired] at did
      | authPacket node resp => simp [Server.step,aborted] at did
      | authTick nowMS =>
        simp only [Server.step,aborted,Server.authTick] at did
        rcases List.mem_append.mp did with cache | delivered
        · simp at cache
        · exact .inr (deliverResults_cause delivered)
      | clientTick nowMS =>
        simp only [Server.step,aborted,Server.onTick] at did
        rcases List.mem_append.mp did with did | did
        · rcases List.mem_append.mp did with did | did
          all_goals exact absurd did (cleanupAll_silent _ _ _ _)
        · exact absurd did (cleanupAll_silent _ _ _ _)
      | _ => simp [ServerEvent.target] at target

/-! ## Failed assertions and finished authentications -/

/-- Neither a failed assertion nor the end of a wait for an account. -/
def Effect.Plain : Effect → Prop
  | .runtimeAssertFailed | .removeAccountTimeout => False
  | _ => True

theorem rawChallenge_plain (cfg : Config) (c : ClientConnection) (data : Bytes) :
    ∀ x ∈ (onHttpRawChallenge cfg c data).effects, x.Plain := by
  have branch := rawChallenge_branch cfg c data
  generalize onHttpRawChallenge cfg c data = reading at branch ⊢
  cases branch <;> simp [Effect.Plain]

theorem normalChallenge_plain (cfg : Config) (c : ClientConnection) (data : Bytes) :
    ∀ x ∈ (onHttpNormalChallenge cfg c data).effects, x.Plain := by
  have branch := normalChallenge_branch cfg c data
  generalize onHttpNormalChallenge cfg c data = reading at branch ⊢
  cases branch <;> simp [Effect.Plain]

theorem openRemote_plain (cfg : Config) (c : ClientConnection) (address : NetAddress)
    (hostname : Bytes) : ∀ x ∈ (onOpenRemoteConnection cfg c address hostname).effects, x.Plain := by
  have branch := open_branch cfg c address hostname
  generalize onOpenRemoteConnection cfg c address hostname = act at branch ⊢
  cases branch <;> simp [Effect.Plain]

theorem tryUpdate_plain (cfg : Config) (c : ClientConnection) (up down : Nat) :
    ∀ x ∈ (tryUpdateDataTransferSize cfg c up down).effects, x.Plain := by
  have branch := update_branch cfg c up down
  generalize tryUpdateDataTransferSize cfg c up down = act at branch ⊢
  cases branch <;> simp [Effect.Plain]

theorem uploadData_plain (cfg : Config) (c : ClientConnection) (data : Bytes) :
    ∀ x ∈ (onUploadData cfg c data).effects, x.Plain := by
  intro x member
  rcases uploadData_effect member with ⟨payload,rfl⟩ | report | rfl
  · trivial
  · exact tryUpdate_plain cfg c data.length 0 x report
  · trivial

theorem challenge_plain (c : ClientConnection) (data : Bytes) :
    ∀ x ∈ (onChallenge c data).effects, x.Plain := by
  have branch := challenge_branch c data
  generalize onChallenge c data = reading at branch ⊢
  cases branch <;> simp [Effect.Plain]

theorem clientAuth_plain (c : ClientConnection) (data : Bytes) :
    ∀ x ∈ (onS5ClientAuth c data).effects, x.Plain := by
  have branch := clientAuth_branch c data
  generalize onS5ClientAuth c data = reading at branch ⊢
  cases branch <;> simp [Effect.Plain]

theorem connectionRequest_plain (cfg : Config) (c : ClientConnection) (data : Bytes) :
    ∀ x ∈ (onS5ConnectionRequest cfg c data).effects, x.Plain := by
  have branch := connectionRequest_branch cfg c data
  generalize onS5ConnectionRequest cfg c data = reading at branch ⊢
  cases branch with
  | opens address domain => exact openRemote_plain cfg c address domain
  | _ => simp [Effect.Plain]

theorem data_plain (cfg : Config) (c : ClientConnection) (data : Bytes) :
    ∀ x ∈ (onData cfg c data).effects, x.Plain := by
  unfold onData
  split
  · exact challenge_plain c data
  · exact clientAuth_plain c data
  · exact connectionRequest_plain cfg c data
  · exact uploadData_plain cfg c data
  · exact rawChallenge_plain cfg c data
  · exact uploadData_plain cfg c data
  · exact normalChallenge_plain cfg c data
  · exact uploadData_plain cfg c data
  · simp [Effect.Plain]

theorem killWhenWritten_plain (pendingWrites : Bool) : (killWhenWritten pendingWrites).Plain := by
  cases pendingWrites <;> trivial

/-- Callbacks other than for a verdict and for the relay's answer do nothing but plain things. -/
theorem handle_plain (cfg : Config) (c : ClientConnection) (e : ConnEvent)
    (verdict : ∀ v, e ≠ .authResult (some v)) (answer : ∀ n pendingWrites, e ≠ .relayState n pendingWrites) :
    ∀ x ∈ (handle cfg c e).effects, x.Plain := by
  cases e with
  | data bytes => exact data_plain cfg c bytes
  | peerClose =>
    simp only [handle,onPeerClose]
    split <;> simp [Effect.Plain]
  | authResult result =>
    cases result with
    | some v => exact absurd rfl (verdict v)
    | none =>
      simp only [handle,onAuthResult]
      split
      all_goals simp [onS5ClientAuthFinished,onHttpRawAuthFinished,onHttpNormalAuthFinished,onAuthFinished,
        Effect.Plain]
  | deviceSelected result =>
    simp only [handle,onDeviceSelected]
    split
    · split <;> simp [Effect.Plain]
    · exact openRemote_plain cfg _ _ _
    · exact openRemote_plain cfg _ _ _
    · simp [Effect.Plain]
  | relayState n pendingWrites => exact absurd rfl (answer n pendingWrites)
  | relayDestroy pendingWrites =>
    simp only [handle,onDestroyConnection]
    split
    all_goals cases pendingWrites <;> simp [killWhenWritten,Effect.Plain]
  | relayPush payload size =>
    simp only [handle,onRelaySidePushData]
    intro x member
    rcases List.mem_append.mp member with member | member
    · have : x = .keepAlive ∨ x = .postData payload := by simpa using member
      rcases this with rfl | rfl <;> trivial
    · exact tryUpdate_plain cfg c 0 size x member

/-- What the relay's answer makes a connection do. -/
theorem relayState_plain (cfg : Config) (c : ClientConnection) (n : PR.ConnectionStateNotify)
    (pendingWrites : Bool) :
    (∀ x ∈ (handle cfg c (.relayState n pendingWrites)).effects, x.Plain) ∨
      ((handle cfg c (.relayState n pendingWrites)).effects = [.runtimeAssertFailed] ∧
        c.phase.stage = .opening ∧ n.newState ≠ stateEstablished) := by
  simp only [handle,onRelaySideConnectionStateChange]
  split
  · rename_i phase
    split
    · exact .inl (by simp [Effect.Plain])
    · exact .inr ⟨rfl,by rw [phase]; rfl,‹_›⟩
  · split
    · exact .inl (by simp [killWhenWritten_plain])
    · exact .inl (by simp)
  · rename_i phase
    split
    · exact .inl (by simp [Effect.Plain])
    · exact .inr ⟨rfl,by rw [phase]; rfl,‹_›⟩
  · rename_i phase
    split
    · exact .inl (uploadData_plain cfg _ _)
    · exact .inr ⟨rfl,by rw [phase]; rfl,‹_›⟩
  · exact .inl (by simp)

theorem authResult_cases (c : ClientConnection) (v : AuthResult) :
    (∃ c' request, onAuthResult c (some v) =
      ⟨c',[.removeAccountTimeout,.keepAlive,.postDeviceRequest request]⟩) ∨
    onAuthResult c (some v) = ⟨c,[.kill]⟩ := by
  unfold onAuthResult
  split
  · exact .inl ⟨_,_,rfl⟩
  · exact .inl ⟨_,_,rfl⟩
  · exact .inl ⟨_,_,rfl⟩
  · exact .inr rfl

theorem authResult_asserts (cfg : Config) (c : ClientConnection) (result : Option AuthResult) :
    .runtimeAssertFailed ∉ (handle cfg c (.authResult result)).effects := by
  intro failed
  cases result with
  | none => exact handle_plain cfg c _ (by simp) (by simp) _ failed
  | some v =>
    simp only [handle] at failed
    rcases authResult_cases c v with ⟨c',request,act⟩ | act <;> simp [act] at failed

/-- The assertion fails only while the connection waits to be established, for another state. -/
theorem assert_cause {cfg : Config} {c : ClientConnection} {e : ConnEvent}
    (failed : .runtimeAssertFailed ∈ (handle cfg c e).effects) :
    ∃ n pendingWrites, e = .relayState n pendingWrites ∧ c.phase.stage = .opening ∧
      n.newState ≠ stateEstablished := by
  cases e with
  | relayState n pendingWrites =>
    rcases relayState_plain cfg c n pendingWrites with plain | ⟨-,opening,other⟩
    · exact (plain _ failed).elim
    · exact ⟨n,pendingWrites,rfl,opening,other⟩
  | authResult result => exact absurd failed (authResult_asserts cfg c result)
  | _ => exact (handle_plain cfg c _ (by simp) (by simp) _ failed).elim

/-- Only the callback for a verdict takes a connection off the list of accounts. -/
theorem removal_cause {cfg : Config} {c : ClientConnection} {e : ConnEvent}
    (removed : .removeAccountTimeout ∈ (handle cfg c e).effects) :
    ∃ v request, e = .authResult (some v) ∧
      (handle cfg c e).effects = [.removeAccountTimeout,.keepAlive,.postDeviceRequest request] := by
  cases e with
  | relayState n pendingWrites =>
    rcases relayState_plain cfg c n pendingWrites with plain | ⟨only,-⟩
    · exact (plain _ removed).elim
    · simp [only] at removed
  | authResult result =>
    cases result with
    | none => exact (handle_plain cfg c _ (by simp) (by simp) _ removed).elim
    | some v =>
      simp only [handle] at removed ⊢
      rcases authResult_cases c v with ⟨c',request,act⟩ | act
      · exact ⟨v,request,rfl,by rw [act]⟩
      · simp [act] at removed
  | _ => exact (handle_plain cfg c _ (by simp) (by simp) _ removed).elim

/-! ## An aborted server -/

theorem performAll_aborted (s : Server keys) (c : Nat) (effects : List Effect)
    (aborted : (s.performAll c effects).1.aborted = true) :
    s.aborted = true ∨ .client c .runtimeAssertFailed ∈ (s.performAll c effects).2 := by
  induction effects generalizing s with
  | nil => exact .inl aborted
  | cons x rest ih =>
    rcases ih _ aborted with before | later
    · cases x with
      | runtimeAssertFailed => exact .inr (by simp [Server.performAll,Server.perform])
      | _ => exact .inl before
    · exact .inr (List.mem_append_right _ later)

theorem deliver_aborted {cfg : Config} {s : Server keys} {c : Nat} {e : ConnEvent}
    (aborted : (s.deliver cfg c e).1.aborted = true) :
    s.aborted = true ∨ .client c .runtimeAssertFailed ∈ (s.deliver cfg c e).2 := by
  unfold Server.deliver at aborted ⊢
  split at aborted
  · exact .inl aborted
  · rename_i conn found
    rcases performAll_aborted _ c _ aborted with before | failed
    · exact .inl before
    · exact .inr (List.mem_cons_of_mem _ failed)

theorem deliverResults_aborted {cfg : Config} {s : Server keys} {actions : List AuthAction}
    (aborted : (s.deliverResults cfg actions).1.aborted = true) : s.aborted = true := by
  induction actions generalizing s with
  | nil => exact aborted
  | cons a rest ih =>
    cases a with
    | result rid source verdict =>
      rcases deliver_aborted (ih aborted) with before | failed
      · exact before
      · obtain ⟨-,conn,-,effect,-⟩ := deliver_cause failed
        exact absurd effect (authResult_asserts cfg conn verdict)
    | _ => exact ih aborted

theorem cleanupAll_aborted (s : Server keys) (list : List Nat) :
    (s.cleanupAll list).1.aborted = s.aborted := by
  induction list generalizing s with
  | nil => rfl
  | cons c rest ih => exact ih (s.cleanupConnection c)

/-- A running server goes on running unless an assertion fails. -/
theorem step_aborted {cfg : Config} {s : Server keys} {e : ServerEvent} (running : s.aborted = false)
    (aborted : (s.step cfg e).1.aborted = true) :
    ∃ c, .client c .runtimeAssertFailed ∈ (s.step cfg e).2 := by
  have stopped : s.aborted ≠ true := by simp [running]
  cases target : e.target with
  | some pair =>
    obtain ⟨c,delivered⟩ := pair
    rcases step_target s target with step | step
    · rw [step] at aborted ⊢
      exact ⟨c,(deliver_aborted aborted).resolve_left stopped⟩
    · rw [step] at aborted
      exact absurd aborted stopped
  | none =>
    cases e with
    | newConnection remoteIp =>
      simp only [Server.step,running,Server.onNewConnection] at aborted
      cases acquired : s.connectionPool.acquire (fun id => { connectionId := id, remoteIp }) <;>
        simp [acquired,running] at aborted
    | authPacket node resp => simp [Server.step,running] at aborted
    | authTick nowMS =>
      simp only [Server.step,running,Server.authTick] at aborted
      exact absurd (deliverResults_aborted aborted) (by simp)
    | clientTick nowMS =>
      simp [Server.step,running,Server.onTick,cleanupAll_aborted] at aborted
    | _ => simp [ServerEvent.target] at target

/-! ## Stages only advance -/

def Stage.rank (stage : Stage) : Nat := stage.ctorIdx

def StageAdvances (conn conn' : ClientConnection) : Prop :=
  conn.phase.stage.rank ≤ conn'.phase.stage.rank

theorem Move.stage {c c' : ClientConnection} {e : ConnEvent} {out : List Effect}
    (move : Move c e c' out) : StageAdvances c c' := by
  unfold StageAdvances
  cases move with
  | quiet frame relaySide stage silent waiting =>
    rcases stage with same | closed
    · exact Nat.le_of_eq (congrArg Stage.rank same.symm)
    · rw [closed]
      cases c.phase.stage <;> decide
  | requested key frame source target => rw [source,target]; decide
  | verified verdict request frame source target own => rw [source,target]; decide
  | selected result frame source target silent => rw [source,target]; decide
  | opened server m frame own source target =>
    rw [target]
    rcases source with ⟨source,-⟩ | ⟨source,-⟩ <;> rw [source] <;> decide
  | established n pending frame source target state relaySide pushes => rw [source,target]; decide
  | uploaded frame source target relaySide pushes =>
    exact Nat.le_of_eq (by rw [source,target])

theorem stage_progress (cfg : Config) : Progress cfg StageAdvances where
  refl _ := Nat.le_refl _
  trans _ _ _ := Nat.le_trans
  handle conn e := (handle_move cfg conn e).stage

/-- A posted creation is for the connection itself, which then waits to be established; it
answers a request of the client or the selection of a device. -/
theorem Move.create {c c' : ClientConnection} {e : ConnEvent} {out : List Effect}
    (move : Move c e c' out) {server : Nat} {m : PR.CreateConnection}
    (posted : .postMessage server (.createConnection m) ∈ out) :
    out = [.postMessage server (.createConnection m)] ∧
      m.proxySideConnectionId = c.connectionId ∧ c'.phase.stage = .opening ∧
      ((c.phase.stage = .requesting ∧ ∃ data, e = .data data) ∨
        (c.phase.stage = .selecting ∧ ∃ result, e = .deviceSelected result)) := by
  have loud (pushes : ∀ x ∈ out, x.Quiet ∨ x.PushFor c') : False := by
    rcases pushes _ posted with quiet | ⟨_,_,same⟩
    · exact quiet
    · cases same
  cases move with
  | quiet frame relaySide stage silent waiting => exact (silent _ posted).elim
  | requested => simp at posted
  | verified => simp at posted
  | selected result frame source target silent => exact (silent _ posted).elim
  | opened server m frame own source target =>
    obtain ⟨rfl,rfl⟩ : _ ∧ _ := by simpa using posted
    exact ⟨rfl,own,target,source⟩
  | established n pending frame source target state relaySide pushes => exact (loud pushes).elim
  | uploaded frame source target relaySide pushes => exact (loud pushes).elim

/-- The connection that a notification of its establishment reaches no longer waits for it. -/
theorem Move.notified {c c' : ClientConnection} {n : PR.ConnectionStateNotify} {pendingWrites : Bool}
    {out : List Effect} (move : Move c (.relayState n pendingWrites) c' out)
    (state : n.newState = stateEstablished) : c'.phase.stage ≠ .opening := by
  intro opening
  cases move with
  | quiet frame relaySide stage silent waiting => exact waiting opening n pendingWrites rfl state
  | opened server m frame own source target =>
    rcases source with ⟨-,_,same⟩ | ⟨-,_,same⟩ <;> cases same
  | established n pending frame source target state relaySide pushes =>
    exact absurd (opening.symm.trans target) (by decide)

end MiniPP.Proxy
