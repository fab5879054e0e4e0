import MiniPP.Relay.Ports

/-! How long a context stays: the events after which its connection is over, and what they
leave in the pool. -/
namespace MiniPP.Relay

variable {keys : Keys} {cfg : Config}

/-! ## The life of a connection -/

/-- The context that an event opens. -/
def opens (cfg : Config) (s : DeviceRelayService keys) (e : RelayEvent) : Option Nat :=
  let id := s.relayConnectionManager.contextPool.nextKey
  if ((s.step cfg e).1.context? id).isSome then some id else none

/-- The connection that is over after the event: a proxy destroys it, the request to open it
is not accepted, the context's own device reports that it is closed, or answers that the name
of its target has no usable address. -/
def ends (cfg : Config) (s : DeviceRelayService keys) : RelayEvent → Option Nat
  | .proxyPacket p (.message (some (.destroyConnection m))) =>
    if (s.proxy? p).isSome ∧ (s.context? m.relaySideConnectionId).isSome then
      some m.relaySideConnectionId
    else none
  | .proxyPacket p (.message (some (.createConnection m))) =>
    if (s.onProxyCreateConnection cfg p m).accepted then none
    else opens cfg s (.proxyPacket p (.message (some (.createConnection m))))
  | .devicePacket c (.notifyConnectionState (some m)) =>
    match s.conn? c,s.context? m.relaySideConnectionId with
    | some ⟨.data,deviceId⟩,some rc =>
      if rc.deviceId = deviceId ∧ m.newState = stateClosed then some m.relaySideConnectionId else none
    | _,_ => none
  | .devicePacket c (.dnsQueryResp requestId (some m)) =>
    match s.conn? c,s.context? requestId with
    | some ⟨.ctrl,deviceId⟩,some rc =>
      if rc.deviceId = deviceId ∧ DeviceRelayService.selectAddress cfg m = none then some requestId
      else none
    | _,_ => none
  | _ => none

/-- The contexts that were opened, and those whose connection is over since. -/
structure Lifetimes where
  opened : List Nat := []
  ended : List Nat := []
  deriving DecidableEq, Repr

/-- The connections that are pending or open. -/
def Lifetimes.current (l : Lifetimes) : List Nat := l.opened.filter (· ∉ l.ended)

def live (cfg : Config) (s : DeviceRelayService keys) (e : RelayEvent) (l : Lifetimes) : Lifetimes where
  opened := l.opened ++ (opens cfg s e).toList
  ended := l.ended ++ (ends cfg s e).toList

abbrev lifetimeMachine (cfg : Config) (keys : Keys) :
    Machine (DeviceRelayService keys × Lifetimes) RelayEvent RelayAction :=
  (relayMachine cfg keys).withGhost {} (live cfg)

/-- No context resolves once its connection is over, and there are no more contexts than
pending and open connections. -/
structure Reclaimed (s : DeviceRelayService keys) (l : Lifetimes) : Prop where
  gone : ∀ id ∈ l.ended, s.context? id = none
  bounded : s.relayConnectionManager.contextPool.entries.length ≤ l.current.length

/-! ## Nothing is given back -/

/-- The pool holds every context that was ever opened. -/
structure Kept (s : DeviceRelayService keys) (l : Lifetimes) : Prop where
  nodup : l.opened.Nodup
  resolve : ∀ id, id ∈ l.opened ↔ s.context? id ≠ none
  ended : ∀ id ∈ l.ended, id ∈ l.opened

theorem resolves_step {s : DeviceRelayService keys} (self : SelfNamed s) (e : RelayEvent) (id : Nat) :
    (s.step cfg e).1.context? id ≠ none ↔ s.context? id ≠ none ∨ opens cfg s e = some id := by
  cases before : s.context? id with
  | some rc => simp [context_kept self before e]
  | none =>
    constructor
    · intro present
      obtain ⟨rc,found⟩ := Option.ne_none_iff_exists'.mp present
      obtain ⟨-,-,-,-,-,-,key,-⟩ := context_opened before found
      right
      rw [opens,if_pos (by rw [← key,found]; rfl),key]
    · rintro (old | new)
      · exact absurd rfl old
      · simp only [opens] at new
        split at new
        · rename_i isNew
          obtain rfl := Option.some.inj new
          exact Option.isSome_iff_ne_none.mp isNew
        · simp at new

theorem opens_fresh {s : DeviceRelayService keys} {e : RelayEvent} {id : Nat}
    (new : opens cfg s e = some id) : s.context? id = none := by
  simp only [opens] at new
  split at new
  · obtain rfl := Option.some.inj new
    exact Storage.find?_nextKey _
  · simp at new

/-- A connection that ends has a context, or is refused one just opened. -/
theorem ends_resolves {s : DeviceRelayService keys} {e : RelayEvent} {id : Nat}
    (ended : ends cfg s e = some id) : s.context? id ≠ none ∨ opens cfg s e = some id := by
  unfold ends at ended
  split at ended
  · split at ended
    · rename_i known
      exact .inl (Option.some.inj ended ▸ Option.isSome_iff_ne_none.mp known.2)
    · simp at ended
  · split at ended
    · simp at ended
    · exact .inr ended
  · split at ended
    · rename_i found
      split at ended
      · exact .inl (Option.some.inj ended ▸ by simp [found])
      · simp at ended
    · simp at ended
  · split at ended
    · rename_i found
      split at ended
      · exact .inl (Option.some.inj ended ▸ by simp [found])
      · simp at ended
    · simp at ended
  · simp at ended

theorem kept_step {s : DeviceRelayService keys} {l : Lifetimes} (self : SelfNamed s)
    (kept : Kept s l) (e : RelayEvent) : Kept (s.step cfg e).1 (live cfg s e l) := by
  have resolve (id : Nat) : id ∈ (live cfg s e l).opened ↔ (s.step cfg e).1.context? id ≠ none := by
    rw [resolves_step self,← kept.resolve]
    simp [live]
  refine ⟨?_,resolve,?_⟩
  · refine List.nodup_append.mpr ⟨kept.nodup,?_,?_⟩
    · cases opens cfg s e <;> simp
    · intro id old other new same
      have fresh : s.context? id = none := opens_fresh (same ▸ Option.mem_toList.mp new)
      exact (kept.resolve id).mp old fresh
  · intro id member
    rw [resolve,resolves_step self]
    rcases List.mem_append.mp member with old | new
    · exact .inl ((kept.resolve id).mp (kept.ended id old))
    · exact ends_resolves (Option.mem_toList.mp new)

theorem kept_run {s : DeviceRelayService keys} {l : Lifetimes} {log : List RelayAction}
    (reach : (lifetimeMachine cfg keys).Reach Machine.anything (s,l) log) : Kept s l := by
  apply reach.invariant (I := fun c _ => Kept c.1 c.2)
  · rintro ⟨s,l⟩ ⟨⟨ticker,_,_,_,_,rfl⟩,rfl⟩
    refine ⟨List.nodup_nil,fun id => ?_,by simp⟩
    simp [DeviceRelayService.init,RelayConnectionManager.init,DeviceRelayService.context?]
  · exact fun c _ e before _ kept => kept_step (self_named before.forget) kept e

/-- Contexts are reclaimed in the states of a run before the first connection is over, and in
no state after it: the pool holds every context that was ever opened. -/
theorem contexts_reclaimed {s : DeviceRelayService keys} {l : Lifetimes} {log : List RelayAction}
    (reach : (lifetimeMachine cfg keys).Reach Machine.anything (s,l) log) :
    (Reclaimed s l ↔ l.ended = []) ∧ (∀ id ∈ l.ended, s.context? id ≠ none) ∧
      s.relayConnectionManager.contextPool.entries.length = l.opened.length := by
  have kept : Kept s l := kept_run reach
  have resolves (id : Nat) (ended : id ∈ l.ended) : s.context? id ≠ none :=
    (kept.resolve id).mp (kept.ended id ended)
  have count := Storage.length_entries kept.nodup kept.resolve
  refine ⟨⟨?_,?_⟩,resolves,count⟩
  · intro reclaimed
    exact List.eq_nil_iff_forall_not_mem.mpr fun id ended => resolves id ended (reclaimed.gone id ended)
  · intro none
    refine ⟨by simp [none],?_⟩
    rw [count]
    simp [Lifetimes.current,none]

/-- A connection that is open: its device has announced it. -/
def established : List RelayEvent :=
  registration ++ opening ++ [.devicePacket 2 (.notifyConnectionState (some ⟨5,1,stateEstablished,0,0⟩))]

theorem lifetimes_reach (es : List RelayEvent) :
    let c := (lifetimeMachine referenceConfig .sequential).run (smallRelay,{}) es
    (lifetimeMachine referenceConfig .sequential).Reach Machine.anything c.1 c.2 := by
  have start : (lifetimeMachine referenceConfig .sequential).start (smallRelay,{}) :=
    ⟨⟨_,_,_,_,_,rfl⟩,rfl⟩
  exact Machine.reach_run start es

theorem contexts_reclaimed_established :
    let c := ((lifetimeMachine referenceConfig .sequential).run (smallRelay,{}) established).1
    Reclaimed c.1 c.2 :=
  (contexts_reclaimed (lifetimes_reach established)).1.mpr (by decide)

/-- The proxy destroys the connection, and its context still resolves. -/
theorem destroyed_context_resolves :
    ¬ ∀ s l log, (lifetimeMachine referenceConfig .sequential).Reach Machine.anything (s,l) log →
      Reclaimed s l := by
  intro always
  let es : List RelayEvent := established ++ [.proxyPacket 1 (.message (some (.destroyConnection ⟨7,1⟩)))]
  have reclaimed := always _ _ _ (lifetimes_reach es)
  exact absurd (reclaimed.gone 1 (by decide)) (by decide)

end MiniPP.Relay
