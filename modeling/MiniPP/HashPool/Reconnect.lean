import MiniPP.HashPool.Canonical

/-! Which servers are connected behind a `Tick`. A connection that could not be opened is in no
list, so that nothing tries it again. -/
namespace MiniPP.HashPool

variable {sort : Pool.StdSort} {s s' : Pool} {opens : Nat → Bool} {out : List Effect}

/-- Each active server has an open connection or will get one in a later `Tick`. -/
def Attended (s : Pool) : Prop :=
  ∀ p ∈ s.activeServerList, (∃ n, connectionOf s.contexts p = some n ∧ n.isOpen = true) ∨
    p ∈ s.closingServerList ∨ p ∈ s.reconnectServerList

/-- After every `Tick` of the run. -/
def NeverForgets (sort : Pool.StdSort) (s : Pool) (events : List Event) : Prop :=
  ∀ front now opens back, events = front ++ .tick now opens :: back →
    ∀ s' log, run sort s (front ++ [.tick now opens]) = some (s',log) → Attended s'

theorem attended_empty : Attended .empty := by
  intro p member
  cases member

/-! ## One step -/

/-- What `Tick` opens again is active behind it. -/
theorem Ticks.renewed_active (valid : Valid s) (ticks : Ticks s opens s' out) {p : Nat}
    (member : p ∈ renewed s) : p ∈ s'.activeServerList := by
  rw [ticks.active.mem_iff,List.mem_append]
  rcases List.mem_append.mp member with new | closing
  · exact .inr new
  · obtain ⟨closing,kept⟩ := List.mem_filter.mp closing
    exact .inl (valid.closing_active closing (by simpa using kept))

theorem Ticks.connectionOf_renewed (valid : Valid s) (ticks : Ticks s opens s' out) {p : Nat}
    (member : p ∈ renewed s) {n : TcpConnection}
    (has : connectionOf (attached s s.uninitializedServerList).contexts p = some n) :
    connectionOf s'.contexts p = some ⟨n.number,opens n.number⟩ := by
  obtain ⟨kept,-⟩ := renewed_context valid member
  obtain ⟨context,here,linked⟩ := connectionOf_eq_some.mp has
  rw [connectionOf,ticks.contexts,if_neg kept,reopened,here]
  simp [member,linked]

/-- A failed `Init` leaves a server behind. -/
theorem Ticks.forgets (valid : Valid s) (ticks : Ticks s opens s' out) {n : Nat} {a : NetAddress}
    (failed : .init n a false ∈ out) : ¬ Attended s' := by
  intro attended
  rw [ticks.log] at failed
  rcases List.mem_append.mp failed with destroyed | member
  · obtain ⟨p,-,context,m,-,-,effect⟩ := mem_effects destroyed
    rcases List.mem_append.mp effect with clean | delete
    · split at clean
      · cases List.mem_singleton.mp clean
      · cases clean
    · cases List.mem_singleton.mp delete
  rcases List.mem_append.mp member with cleaned | opened
  · obtain ⟨p,-,context,m,-,-,effect⟩ := mem_effects cleaned
    cases List.mem_singleton.mp effect
  obtain ⟨p,again,context,m,here,linked,effect⟩ := mem_effects opened
  have same := List.mem_singleton.mp effect
  simp only [Effect.init.injEq] at same
  obtain ⟨-,-,shut⟩ := same
  have now := ticks.connectionOf_renewed valid again (connectionOf_eq_some.mpr ⟨context,here,linked⟩)
  obtain ⟨-,-,closing,reconnect⟩ := ticks.drained
  rcases attended p (ticks.renewed_active valid again) with ⟨k,has,isOpen⟩ | linked | linked
  · rw [now] at has
    cases has
    rw [← shut] at isOpen
    cases isOpen
  · rw [closing] at linked
    cases linked
  · rw [reconnect] at linked
    cases linked

/-- If every `Init` succeeds, nobody is. -/
theorem Ticks.attends (valid : Valid s) (ticks : Ticks s opens s' out) (attended : Attended s)
    (succeed : ∀ n a, .init n a false ∉ out) : Attended s' := by
  intro p member
  left
  by_cases again : p ∈ renewed s
  · obtain ⟨-,context,n,-,here,linked,-⟩ := renewed_context valid again
    have now := ticks.connectionOf_renewed valid again (connectionOf_eq_some.mpr ⟨context,here,linked⟩)
    refine ⟨_,now,?_⟩
    by_contra shut
    have shut : opens n.number = false := by simpa using shut
    refine succeed n.number context.address ?_
    rw [ticks.log,List.mem_append,List.mem_append]
    refine .inr (.inr (List.mem_flatMap.mpr ⟨p,again,?_⟩))
    rw [effects_eq here linked,Pool.initConnection,shut]
    exact List.mem_singleton_self _
  · have old : p ∉ s.uninitializedServerList := fun new => again (List.mem_append_left _ new)
    have active := (List.mem_append.mp (ticks.active.mem_iff.mp member)).resolve_right old
    have kept := valid.active_not_deleted active
    have apart : p ∉ s.closingServerList := fun closing =>
      again (List.mem_append_right _ (List.mem_filter.mpr ⟨closing,by simpa using kept⟩))
    rcases attended p active with ⟨n,has,isOpen⟩ | closing | reconnect
    · obtain ⟨context,here,linked⟩ := connectionOf_eq_some.mp has
      have now := ticks.contexts_active valid active here linked
      rw [if_neg apart] at now
      exact ⟨n,connectionOf_eq_some.mpr ⟨_,now,rfl⟩,isOpen⟩
    · exact absurd closing apart
    · rw [valid.reconnect] at reconnect
      cases reconnect

theorem update_attended (valid : Valid s) {source : List ServerInfo} (attended : Attended s)
    (result : s.updateServerList sort source = some s') : Attended s' := by
  have fine := updateServerList_settled result
  obtain ⟨kept,deleted,added,pass,eq⟩ := updateServerList_eq sort valid fine.1 fine.2 source
  rw [eq] at result
  cases result
  intro p member
  rw [merged_connectionOf valid]
  exact attended p (pass.kept_sublist.subset member)

theorem peerClosed_attended {p : Nat} {context : ServerContext} {n : TcpConnection}
    (attended : Attended s) : Attended (peerClosed s p context n) := by
  intro q member
  by_cases same : q = p
  · rw [same]
    exact .inr (.inl (List.mem_append_right _ (List.mem_singleton_self p)))
  · have before : connectionOf (peerClosed s p context n).contexts q = connectionOf s.contexts q := by
      simp [connectionOf,peerClosed,Function.update_of_ne same]
    rw [before]
    exact (attended q member).imp id (Or.imp (List.mem_append_left _) id)

theorem step_attended (valid : Valid s) {e : Event} (attended : Attended s)
    (result : step sort s e = some (s',out)) (succeed : ∀ n a, .init n a false ∉ out) :
    Attended s' := by
  cases e with
  | updateServerList source =>
    obtain ⟨_,updated,same⟩ := Option.map_eq_some_iff.mp result
    cases same
    exact update_attended valid attended updated
  | tick now opens =>
    obtain ⟨_,_,ticked,ticks⟩ := tick_eq sort valid now opens
    rw [step,ticked] at result
    cases result
    exact ticks.attends valid attended succeed
  | peerClose p isOpen =>
    obtain ⟨_,closed,same⟩ := Option.map_eq_some_iff.mp result
    cases same
    obtain ⟨context,n,-,-,-,rfl⟩ := onPeerClose_eq closed
    exact peerClosed_attended attended
  | postMessage hash isConnected packet =>
    obtain ⟨_,-,same⟩ := Option.map_eq_some_iff.mp result
    cases same
    exact attended
  | clean =>
    rw [step,clean_eq valid] at result
    cases result
    intro p member
    cases member

/-- Connections are made by `Tick` only. -/
theorem step_init (valid : Valid s) {e : Event} (result : step sort s e = some (s',out)) {n : Nat}
    {a : NetAddress} {opened : Bool} (member : .init n a opened ∈ out) :
    ∃ now opens, e = .tick now opens := by
  cases e with
  | updateServerList source =>
    obtain ⟨_,-,same⟩ := Option.map_eq_some_iff.mp result
    cases same
    cases member
  | tick now opens => exact ⟨now,opens,rfl⟩
  | peerClose p isOpen =>
    obtain ⟨_,-,same⟩ := Option.map_eq_some_iff.mp result
    cases same
    cases member
  | postMessage hash isConnected packet =>
    obtain ⟨_,posted,same⟩ := Option.map_eq_some_iff.mp result
    cases same
    obtain ⟨_,_,-,same⟩ := postMessage_effects posted _ member
    cases same
  | clean =>
    rw [step,clean_eq valid] at result
    cases result
    rcases List.mem_append.mp member with member | member <;>
      obtain ⟨p,-,m,-,-,same | same⟩ := mem_destroyed member <;> cases same

/-! ## Any run -/

theorem run_singleton {e : Event} (result : step sort s e = some (s',out)) :
    run sort s [e] = some (s',out) :=
  run_cons.mpr ⟨s',out,[],result,rfl,(List.append_nil out).symm⟩

theorem run_attended {events : List Event} {log : List Effect} (valid : Valid s)
    (attended : Attended s) (result : run sort s events = some (s',log))
    (succeed : ∀ n a, .init n a false ∉ log) : Attended s' := by
  induction events generalizing s log with
  | nil =>
    cases result
    exact attended
  | cons e events ih =>
    obtain ⟨middle,first,later,here,rest,rfl⟩ := run_cons.mp result
    have now := step_attended valid attended here
      (fun n a member => succeed n a (List.mem_append_left _ member))
    exact ih (step_steps valid here).valid now rest
      (fun n a member => succeed n a (List.mem_append_right _ member))

/-- A failed `Init` is in the log of one `Tick`. -/
theorem run_failed {events : List Event} {log : List Effect} (valid : Valid s)
    (result : run sort s events = some (s',log)) {n : Nat} {a : NetAddress}
    (failed : .init n a false ∈ log) : ∃ front now opens back middle past,
      events = front ++ .tick now opens :: back ∧
      run sort s (front ++ [.tick now opens]) = some (middle,past) ∧ ¬ Attended middle := by
  induction events generalizing s log with
  | nil =>
    cases result
    cases failed
  | cons e events ih =>
    obtain ⟨next,first,later,here,rest,rfl⟩ := run_cons.mp result
    rcases List.mem_append.mp failed with now | later'
    · obtain ⟨time,opens,rfl⟩ := step_init valid here now
      obtain ⟨_,_,ticked,ticks⟩ := tick_eq sort valid time opens
      cases here.symm.trans ticked
      exact ⟨[],time,opens,events,next,first,rfl,run_singleton here,ticks.forgets valid now⟩
    · obtain ⟨front,time,opens,back,middle,past,rfl,reached,forgotten⟩ :=
        ih (step_steps valid here).valid rest later'
      exact ⟨e :: front,time,opens,back,middle,first ++ past,rfl,
        run_cons.mpr ⟨next,first,past,here,reached,rfl⟩,forgotten⟩

/-- In every run, the servers are attended to after each `Tick` if and only if no `Init` failed. -/
theorem no_server_forgotten_iff {events : List Event} {log : List Effect}
    (result : run sort .empty events = some (s,log)) :
    NeverForgets sort .empty events ↔ ∀ n a, .init n a false ∉ log := by
  constructor
  · intro never n a failed
    obtain ⟨front,now,opens,back,middle,past,split,reached,forgotten⟩ :=
      run_failed valid_empty result failed
    exact forgotten (never front now opens back split middle past reached)
  · rintro succeed front now opens back rfl s' past reached
    have split : front ++ .tick now opens :: back = (front ++ [.tick now opens]) ++ back := by simp
    rw [split] at result
    obtain ⟨middle,first,later,before,-,rfl⟩ := run_append.mp result
    cases reached.symm.trans before
    exact run_attended valid_empty attended_empty reached
      (fun n a member => succeed n a (List.mem_append_left _ member))

/-- A server comes, its connection breaks, and it is there again. -/
def brokenRun : List Event := [.updateServerList [⟨7,host 70⟩],.tick 1 (fun _ => true),
  .peerClose 0 false,.tick 2 (fun _ => true)]

theorem no_server_forgotten_iff_broken : NeverForgets stdSort .empty brokenRun := by
  have ran : run stdSort .empty brokenRun = some (_,[.init 0 (host 70) true,.clean 0,
    .init 0 (host 70) true]) := rfl
  exact (no_server_forgotten_iff ran).mpr (fun n a => by simp)

/-! ## The failed connection -/

/-- The connection of an active server is not open, and the server is not in a list. -/
structure Forgotten (s : Pool) (p : Nat) : Prop where
  active : p ∈ s.activeServerList
  apart : p ∉ s.closingServerList
  shut : ∃ n, connectionOf s.contexts p = some n ∧ n.isOpen = false

theorem Forgotten.unattended (valid : Valid s) {p : Nat} (forgotten : Forgotten s p) :
    ¬ Attended s := by
  intro attended
  obtain ⟨n,has,shut⟩ := forgotten.shut
  rcases attended p forgotten.active with ⟨m,has',isOpen⟩ | closing | reconnect
  · cases has.symm.trans has'
    rw [shut] at isOpen
    cases isOpen
  · exact forgotten.apart closing
  · rw [valid.reconnect] at reconnect
    cases reconnect

theorem Ticks.forgotten (valid : Valid s) (ticks : Ticks s opens s' out) {p : Nat}
    (forgotten : Forgotten s p) : Forgotten s' p := by
  obtain ⟨n,has,shut⟩ := forgotten.shut
  obtain ⟨context,here,linked⟩ := connectionOf_eq_some.mp has
  have now := ticks.contexts_active valid forgotten.active here linked
  rw [if_neg forgotten.apart] at now
  refine ⟨ticks.active.mem_iff.mpr (List.mem_append_left _ forgotten.active),?_,
    n,connectionOf_eq_some.mpr ⟨_,now,rfl⟩,shut⟩
  rw [ticks.drained.2.2.1]
  exact List.not_mem_nil

/-- No `Tick` connects a forgotten server, whatever its `Init` would have given. -/
theorem run_forgotten (sort : Pool.StdSort) (valid : Valid s) {p : Nat} (forgotten : Forgotten s p)
    (ticks : List (Nat × (Nat → Bool))) : ∃ s' log,
      run sort s (ticks.map (fun t => .tick t.1 t.2)) = some (s',log) ∧ ¬ Attended s' := by
  induction ticks generalizing s with
  | nil => exact ⟨s,[],rfl,forgotten.unattended valid⟩
  | cons t ticks ih =>
    obtain ⟨middle,out,ticked,first⟩ := tick_eq sort valid t.1 t.2
    obtain ⟨s',log,rest,unattended⟩ := ih (first.keeps valid) (first.forgotten valid forgotten)
    exact ⟨s',out ++ log,run_cons.mpr ⟨middle,out,log,ticked,rest,rfl⟩,unattended⟩

/-- The one server cannot be reached at the moment of its first `Tick`. -/
def unreachableRun : List Event := [.updateServerList [⟨7,host 70⟩],.tick 1 (fun _ => false)]

theorem unreachable_forgotten : ¬ NeverForgets stdSort .empty unreachableRun ∧
    ∀ ticks : List (Nat × (Nat → Bool)), ∃ s log,
      run stdSort .empty (unreachableRun ++ ticks.map (fun t => .tick t.1 t.2)) = some (s,log) ∧
        ¬ Attended s := by
  obtain ⟨s,ran,forgotten⟩ : ∃ s, run stdSort .empty unreachableRun =
      some (s,[.init 0 (host 70) false]) ∧ Forgotten s 0 :=
    ⟨_,rfl,List.mem_singleton_self 0,List.not_mem_nil,⟨0,false⟩,rfl,rfl⟩
  have valid := run_valid valid_empty ran
  constructor
  · intro never
    exact forgotten.unattended valid (never [.updateServerList [⟨7,host 70⟩]] 1 (fun _ => false) []
      rfl s _ ran)
  · intro ticks
    obtain ⟨s',log,rest,unattended⟩ := run_forgotten stdSort valid forgotten ticks
    exact ⟨s',_,run_append.mpr ⟨s,_,log,ran,rest,rfl⟩,unattended⟩

end MiniPP.HashPool
