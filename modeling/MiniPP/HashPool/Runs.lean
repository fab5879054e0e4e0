import MiniPP.HashPool.Tick

/-! Runs of the calls: the pool stays valid, and a connection that was deleted is never used
again. -/
namespace MiniPP.HashPool

variable {sort : Pool.StdSort} {s s' : Pool}

/-! ## The listener and Clean -/

/-- A context but for whether its connection is open. -/
def shape (context : ServerContext) : ServerInfo × Option Nat × Bool :=
  (context.toServerInfo,context.connection.map (·.number),context.deleteMark)

section Shape

variable {p : Nat} (same : (s'.contexts p).map shape = (s.contexts p).map shape)
include same

theorem isSome_of_shape : (s'.contexts p).isSome = (s.contexts p).isSome := by
  have parts := congrArg Option.isSome same
  simpa using parts

theorem numberOf_shape : (connectionOf s'.contexts p).map (·.number) =
    (connectionOf s.contexts p).map (·.number) := by
  have parts := congrArg (·.bind (·.2.1)) same
  simpa [connectionOf,Option.map_bind,Option.bind_map,Function.comp_def,shape] using parts

theorem serverIdOf_shape : Pool.serverIdOf s'.contexts p = Pool.serverIdOf s.contexts p := by
  have parts := congrArg (fun c => (c.map (·.1.serverId)).getD 0) same
  simpa [Pool.serverIdOf,Function.comp_def,shape] using parts

theorem deleteMarked_shape :
    Pool.deleteMarked s'.contexts p = Pool.deleteMarked s.contexts p := by
  have parts := congrArg (·.any (·.2.2)) same
  simpa [Pool.deleteMarked,Option.any_map,Function.comp_def,shape] using parts

end Shape

theorem peerClosed_shape {p : Nat} {context : ServerContext} {n : TcpConnection}
    (here : s.contexts p = some context) (linked : context.connection = some n) (isOpen : Bool)
    (q : Nat) : ((peerClosed s p context { n with isOpen }).contexts q).map shape =
      (s.contexts q).map shape := by
  rw [peerClosed]
  by_cases again : q = p
  · simp [again,here,shape,linked]
  · simp [Function.update_of_ne again]

theorem valid_peerClosed (valid : Valid s) {p : Nat} {context : ServerContext} {n : TcpConnection}
    (here : s.contexts p = some context) (linked : context.connection = some n)
    (apart : p ∉ s.closingServerList) (isOpen : Bool) :
    Valid (peerClosed s p context { n with isOpen }) := by
  have same := peerClosed_shape here linked isOpen
  have numbered {q : Nat} {m : TcpConnection}
      (has : connectionOf (peerClosed s p context { n with isOpen }).contexts q = some m) :
      ∃ m', connectionOf s.contexts q = some m' ∧ m'.number = m.number := by
    have number := numberOf_shape (same q)
    rw [has,Option.map_some] at number
    obtain ⟨m',had,number⟩ := Option.map_eq_some_iff.mp number.symm
    exact ⟨m',had,number⟩
  constructor
  case alive =>
    intro q
    rw [isSome_of_shape (same q)]
    exact valid.alive q
  case once => exact valid.once
  case below => exact valid.below
  case connected =>
    intro q member
    obtain ⟨m,had⟩ := valid.connected q member
    have number := numberOf_shape (same q)
    rw [had,Option.map_some] at number
    obtain ⟨m',has,-⟩ := Option.map_eq_some_iff.mp number
    exact ⟨m',has⟩
  case unmarked =>
    intro q member
    rw [deleteMarked_shape (same q)]
    exact valid.unmarked q member
  case blank =>
    intro q member
    obtain ⟨d,blank⟩ := valid.blank q member
    have other : q ≠ p := by
      rintro rfl
      rw [here] at blank
      cases blank
      cases linked
    exact ⟨d,by rw [peerClosed]; exact (Function.update_of_ne other _ _).trans blank⟩
  case order =>
    refine valid.order.imp fun {a b} le => ?_
    rw [serverIdOf_shape (same a),serverIdOf_shape (same b)]
    exact le
  case closingOnce =>
    rw [peerClosed,List.nodup_append]
    refine ⟨valid.closingOnce,List.nodup_singleton p,?_⟩
    rintro q member r new rfl
    rw [List.mem_singleton.mp new] at member
    exact apart member
  case closing =>
    intro q member
    rcases List.mem_append.mp member with old | new
    · exact valid.closing q old
    rw [List.mem_singleton.mp new]
    have member : p ∈ listed s := (valid.alive p).mp (by rw [here]; rfl)
    rcases List.mem_append.mp member with active | member
    · exact List.mem_append_left _ active
    rcases List.mem_append.mp member with deleted | fresh
    · exact List.mem_append_right _ deleted
    · obtain ⟨d,blank⟩ := valid.blank p fresh
      rw [here] at blank
      cases blank
      cases linked
  case reconnect => exact valid.reconnect
  case numbers =>
    intro q r m m' left right number
    obtain ⟨_,before,left⟩ := numbered left
    obtain ⟨_,before',right⟩ := numbered right
    exact valid.numbers q r _ _ before before' (left.trans (number.trans right.symm))
  case numbersBelow =>
    intro q m has
    obtain ⟨m',had,number⟩ := numbered has
    rw [← number]
    exact valid.numbersBelow q m' had

theorem clean_eq (valid : Valid s) : s.clean = some ({ s with
    contexts := fun _ => none
    activeServerList := []
    uninitializedServerList := []
    deleteServerList := []
    closingServerList := [] },
    s.activeServerList.flatMap (effects Pool.destroyServer s.contexts) ++
      s.deleteServerList.flatMap (effects Pool.destroyServer s.contexts)) := by
  have old (p : Nat) (member : p ∈ s.deleteServerList) :
      Pool.discard s.contexts s.activeServerList p = s.contexts p :=
    if_neg (fun active => valid.active_not_deleted active member)
  have active := destroy_eq (s := s) (List.nodup_append.mp valid.once).1
    (fun p member => valid.connected p (List.mem_append_left _ member))
  have deleted := destroy_eq (s := { s with
      contexts := Pool.discard s.contexts s.activeServerList
      closingServerList := s.closingServerList.filter (· ∉ s.activeServerList)
      reconnectServerList := s.reconnectServerList.filter (· ∉ s.activeServerList) })
    valid.deleted_nodup (fun p member => by
      obtain ⟨n,has⟩ := valid.connected p (List.mem_append_right _ member)
      refine ⟨n,?_⟩
      change (Pool.discard s.contexts s.activeServerList p).bind _ = _
      rw [old p member]
      exact has)
  have log : s.deleteServerList.flatMap (effects Pool.destroyServer
      (Pool.discard s.contexts s.activeServerList)) =
        s.deleteServerList.flatMap (effects Pool.destroyServer s.contexts) :=
    effects_congr (fun p member => by rw [effects,old p member,effects])
  have fresh : s.uninitializedServerList.any (fun p =>
      (Pool.discard (Pool.discard s.contexts s.activeServerList) s.deleteServerList p).any
        (·.connection.isSome)) = false := by
    rw [List.any_eq_false]
    intro p member
    obtain ⟨d,blank⟩ := valid.blank p member
    simp [Pool.discard,valid.uninitialized_not_active member,valid.uninitialized_not_deleted member,blank]
  have waiting : (s.reconnectServerList.filter (· ∉ s.activeServerList)).filter
      (· ∉ s.deleteServerList) = [] := by rw [valid.reconnect]; rfl
  have closing : (s.closingServerList.filter (· ∉ s.activeServerList)).filter
      (· ∉ s.deleteServerList) = [] := by
    rw [List.filter_filter,List.filter_eq_nil_iff]
    intro p member
    have covered := valid.closing p member
    rw [List.mem_append] at covered
    simpa [or_iff_not_imp_right] using covered
  have nothing : Pool.discard (Pool.discard (Pool.discard s.contexts s.activeServerList)
      s.deleteServerList) s.uninitializedServerList = fun _ => none := by
    funext p
    by_cases member : p ∈ listed s
    · simp only [listed,List.mem_append] at member
      rcases member with active | deleted | new
      · simp [Pool.discard,active]
      · simp [Pool.discard,deleted]
      · simp [Pool.discard,new]
    · simp [Pool.discard,valid.missing member]
  rw [Pool.clean,active,Option.bind_eq_bind,Option.bind_some]
  dsimp only
  rw [deleted,Option.bind_some]
  dsimp only
  rw [fresh,if_neg Bool.false_ne_true,waiting,if_neg (by simp),log,nothing,closing,← valid.reconnect]

theorem valid_clean (reconnect : s.reconnectServerList = []) : Valid { s with
    contexts := fun _ => none
    activeServerList := []
    uninitializedServerList := []
    deleteServerList := []
    closingServerList := [] } where
  alive p := by simp [listed]
  once := by simp [listed]
  below p member := by simp [listed] at member
  connected p member := by simp at member
  unmarked p member := by simp at member
  blank p member := by simp at member
  order := List.Pairwise.nil
  closingOnce := List.nodup_nil
  closing p member := by simp at member
  reconnect := reconnect
  numbers p q n m left := by simp [connectionOf] at left
  numbersBelow p n left := by simp [connectionOf] at left

/-! ## One step -/

def Holds (s : Pool) (number : Nat) : Prop :=
  ∃ p n, connectionOf s.contexts p = some n ∧ n.number = number

/-- A step keeps the pool valid. It is about connections that are held or new, and those that it
deletes are held no longer. -/
structure Steps (s : Pool) (s' : Pool) (out : List Effect) : Prop where
  valid : Valid s'
  grows : s.nextConnection ≤ s'.nextConnection
  held : ∀ k, Holds s' k → Holds s k ∨ s.nextConnection ≤ k
  about : ∀ e ∈ out, (Holds s e.number ∨ s.nextConnection ≤ e.number) ∧ e.number < s'.nextConnection
  deleted : ∀ k, .delete k ∈ out → Holds s k ∧ ¬ Holds s' k

theorem Valid.holds_below (valid : Valid s) {k : Nat} (held : Holds s k) : k < s.nextConnection := by
  obtain ⟨p,n,has,rfl⟩ := held
  exact valid.numbersBelow p n has

theorem mem_effects {body : ServerContext → TcpConnection → Option ServerContext × List Effect}
    {contexts : Contexts} {servers : List Nat} {e : Effect}
    (member : e ∈ servers.flatMap (effects body contexts)) :
    ∃ p ∈ servers, ∃ context n, contexts p = some context ∧ context.connection = some n ∧
      e ∈ (body context n).2 := by
  obtain ⟨p,inside,member⟩ := List.mem_flatMap.mp member
  rw [effects] at member
  cases here : contexts p with
  | none => simp [here] at member
  | some context =>
    cases linked : context.connection with
    | none => simp [here,linked] at member
    | some n => exact ⟨p,inside,context,n,here,linked,by simpa [here,linked] using member⟩

theorem mem_destroyServer {context : ServerContext} {n : TcpConnection} {e : Effect}
    (member : e ∈ (Pool.destroyServer context n).2) : e = .clean n.number ∨ e = .delete n.number := by
  rcases List.mem_append.mp member with clean | delete
  · split at clean
    · exact .inl (List.mem_singleton.mp clean)
    · cases clean
  · exact .inr (List.mem_singleton.mp delete)

theorem mem_destroyed {contexts : Contexts} {servers : List Nat} {e : Effect}
    (member : e ∈ servers.flatMap (effects Pool.destroyServer contexts)) :
    ∃ p ∈ servers, ∃ n, connectionOf contexts p = some n ∧ e.number = n.number ∧
      (e = .clean n.number ∨ e = .delete n.number) := by
  obtain ⟨p,inside,context,n,here,linked,effect⟩ := mem_effects member
  refine ⟨p,inside,n,connectionOf_eq_some.mpr ⟨context,here,linked⟩,?_,mem_destroyServer effect⟩
  rcases mem_destroyServer effect with rfl | rfl
  · rfl
  · rfl

theorem steps_update (valid : Valid s) {source : List ServerInfo}
    (result : s.updateServerList sort source = some s') : Steps s s' [] := by
  have fine := updateServerList_settled result
  obtain ⟨kept,deleted,added,pass,eq⟩ := updateServerList_eq sort valid fine.1 fine.2 source
  rw [eq] at result
  cases result
  refine ⟨valid_merged valid fine.1 fine.2 pass,Nat.le_refl _,?_,by simp,by simp⟩
  rintro k ⟨p,n,has,number⟩
  rw [merged_connectionOf valid] at has
  exact .inl ⟨p,n,has,number⟩

theorem steps_peerClose (valid : Valid s) {p : Nat} {isOpen : Bool}
    (result : s.onPeerClose p isOpen = some s') : Steps s s' [] := by
  obtain ⟨context,n,here,linked,apart,rfl⟩ := onPeerClose_eq result
  refine ⟨valid_peerClosed valid here linked apart isOpen,Nat.le_refl _,?_,by simp,by simp⟩
  rintro k ⟨q,m,has,rfl⟩
  by_cases same : q = p
  · have now : connectionOf (peerClosed s p context { n with isOpen }).contexts q =
        some { n with isOpen } := by simp [connectionOf,peerClosed,same]
    rw [now] at has
    cases has
    exact .inl ⟨p,n,connectionOf_eq_some.mpr ⟨context,here,linked⟩,rfl⟩
  · have before : connectionOf (peerClosed s p context { n with isOpen }).contexts q =
        connectionOf s.contexts q := by simp [connectionOf,peerClosed,Function.update_of_ne same]
    rw [before] at has
    exact .inl ⟨q,m,has,rfl⟩

theorem postMessage_effects {hash : Nat} {isConnected : Bool} {packet : Bytes} {result : Bool}
    {out : List Effect} (posted : s.postMessage hash isConnected packet = some (result,out)) :
    ∀ e ∈ out, ∃ p n, connectionOf s.contexts p = some n ∧ e = .postData n.number packet := by
  rw [Pool.postMessage] at posted
  split at posted
  · cases posted
    simp
  cases chosen : s.route hash with
  | none => simp [chosen] at posted
  | some p =>
    cases here : s.contexts p with
    | none => simp [chosen,here] at posted
    | some context =>
      cases linked : context.connection with
      | none => simp [chosen,here,linked] at posted
      | some n =>
        simp only [chosen,here,linked,Option.bind_eq_bind,Option.bind_some] at posted
        split at posted
        · cases posted
          simp
        split at posted
        · cases posted
          simp
        · cases posted
          intro e member
          exact ⟨p,n,connectionOf_eq_some.mpr ⟨context,here,linked⟩,List.mem_singleton.mp member⟩

theorem steps_postMessage (valid : Valid s) {hash : Nat} {isConnected : Bool} {packet : Bytes}
    {result : Bool} {out : List Effect}
    (posted : s.postMessage hash isConnected packet = some (result,out)) : Steps s s out := by
  refine ⟨valid,Nat.le_refl _,fun k => .inl,fun e member => ?_,fun k member => ?_⟩
  · obtain ⟨p,n,has,rfl⟩ := postMessage_effects posted e member
    exact ⟨.inl ⟨p,n,has,rfl⟩,valid.numbersBelow p n has⟩
  · obtain ⟨p,n,-,same⟩ := postMessage_effects posted _ member
    cases same

theorem steps_clean (valid : Valid s) {out : List Effect} (result : s.clean = some (s',out)) :
    Steps s s' out := by
  rw [clean_eq valid] at result
  cases result
  have nothing (k : Nat) : ¬ Holds { s with
      contexts := fun _ => none
      activeServerList := []
      uninitializedServerList := []
      deleteServerList := []
      closingServerList := [] } k := by
    rintro ⟨p,n,has,-⟩
    cases has
  have held (e : Effect) (member : e ∈ s.activeServerList.flatMap (effects Pool.destroyServer s.contexts) ++
      s.deleteServerList.flatMap (effects Pool.destroyServer s.contexts)) : Holds s e.number := by
    rcases List.mem_append.mp member with member | member <;>
      obtain ⟨p,-,n,has,number,-⟩ := mem_destroyed member
    · exact ⟨p,n,has,number.symm⟩
    · exact ⟨p,n,has,number.symm⟩
  refine ⟨valid_clean valid.reconnect,Nat.le_refl _,fun k holds => absurd holds (nothing k),
    fun e member => ⟨.inl (held e member),valid.holds_below (held e member)⟩,
    fun k member => ⟨held _ member,nothing k⟩⟩

theorem Ticks.steps {opens : Nat → Bool} {out : List Effect} (valid : Valid s)
    (ticks : Ticks s opens s' out) : Steps s s' out := by
  have old {p : Nat} {context : ServerContext} {n : TcpConnection} (here : s.contexts p = some context)
      (linked : context.connection = some n) : Holds s n.number ∧ n.number < s.nextConnection := by
    have has := connectionOf_eq_some.mpr ⟨context,here,linked⟩
    exact ⟨⟨p,n,has,rfl⟩,valid.numbersBelow p n has⟩
  have grows : s.nextConnection ≤ s'.nextConnection := by
    rw [ticks.nextConnection]
    exact Nat.le_add_right _ _
  have renewed_number {p : Nat} {context : ServerContext} {n : TcpConnection}
      (here : (attached s s.uninitializedServerList).contexts p = some context)
      (linked : context.connection = some n) :
      (Holds s n.number ∨ s.nextConnection ≤ n.number) ∧ n.number < s'.nextConnection := by
    have has := connectionOf_eq_some.mpr ⟨context,here,linked⟩
    rw [attached_connectionOf] at has
    by_cases new : p ∈ s.uninitializedServerList
    · obtain ⟨d,blank⟩ := valid.blank p new
      have index := List.idxOf_lt_length_iff.mpr new
      rw [if_pos new,blank,Option.map_some] at has
      cases has
      rw [ticks.nextConnection]
      exact ⟨.inr (Nat.le_add_right _ _),Nat.add_lt_add_left index _⟩
    · rw [if_neg new] at has
      exact ⟨.inl ⟨p,n,has,rfl⟩,(valid.numbersBelow p n has).trans_le grows⟩
  refine ⟨ticks.keeps valid,grows,?_,?_,?_⟩
  · rintro k ⟨p,m,has,rfl⟩
    rcases ticks.number valid has with ⟨-,n,before,number⟩ | ⟨-,number⟩
    · exact .inl ⟨p,n,before,number⟩
    · exact .inr (by omega)
  · intro e member
    rw [ticks.log] at member
    rcases List.mem_append.mp member with destroyed | member
    · obtain ⟨p,-,n,has,number,-⟩ := mem_destroyed destroyed
      rw [number]
      exact ⟨.inl ⟨p,n,has,rfl⟩,(valid.numbersBelow p n has).trans_le grows⟩
    rcases List.mem_append.mp member with cleaned | opened
    · obtain ⟨p,-,context,n,here,linked,effect⟩ := mem_effects cleaned
      rw [List.mem_singleton.mp effect]
      exact ⟨.inl (old here linked).1,(old here linked).2.trans_le grows⟩
    · obtain ⟨p,-,context,n,here,linked,effect⟩ := mem_effects opened
      rw [List.mem_singleton.mp effect]
      exact renewed_number here linked
  · intro k member
    rw [ticks.log] at member
    rcases List.mem_append.mp member with destroyed | member
    · obtain ⟨p,inside,n,has,number,-⟩ := mem_destroyed destroyed
      refine ⟨⟨p,n,has,number.symm⟩,?_⟩
      rintro ⟨q,m,later,same⟩
      have below := valid.numbersBelow p n has
      simp only [Effect.number] at number
      rcases ticks.number valid later with ⟨active,n',before,number'⟩ | ⟨-,number'⟩
      · have equal := valid.numbers q p n' n before has (by omega)
        exact valid.active_not_deleted active (equal ▸ inside)
      · omega
    rcases List.mem_append.mp member with cleaned | opened
    · obtain ⟨p,-,context,n,-,-,effect⟩ := mem_effects cleaned
      cases List.mem_singleton.mp effect
    · obtain ⟨p,-,context,n,-,-,effect⟩ := mem_effects opened
      cases List.mem_singleton.mp effect

theorem step_steps (valid : Valid s) {e : Event} {out : List Effect}
    (result : step sort s e = some (s',out)) : Steps s s' out := by
  cases e with
  | updateServerList source =>
    obtain ⟨_,updated,same⟩ := Option.map_eq_some_iff.mp result
    cases same
    exact steps_update valid updated
  | tick now opens =>
    obtain ⟨_,_,ticked,ticks⟩ := tick_eq sort valid now opens
    rw [step,ticked] at result
    cases result
    exact ticks.steps valid
  | peerClose p isOpen =>
    obtain ⟨_,closed,same⟩ := Option.map_eq_some_iff.mp result
    cases same
    exact steps_peerClose valid closed
  | postMessage hash isConnected packet =>
    obtain ⟨_,posted,same⟩ := Option.map_eq_some_iff.mp result
    cases same
    exact steps_postMessage valid posted
  | clean => exact steps_clean valid result

/-! ## Runs -/

theorem run_cons {e : Event} {events : List Event} {log : List Effect} :
    run sort s (e :: events) = some (s',log) ↔ ∃ middle first later,
      step sort s e = some (middle,first) ∧ run sort middle events = some (s',later) ∧
        log = first ++ later := by
  rw [run]
  constructor
  · intro result
    obtain ⟨⟨middle,first⟩,here,result⟩ := Option.bind_eq_some_iff.mp result
    obtain ⟨⟨last,later⟩,rest,same⟩ := Option.bind_eq_some_iff.mp result
    cases same
    exact ⟨middle,first,later,here,rest,rfl⟩
  · rintro ⟨middle,first,later,here,rest,rfl⟩
    rw [here,Option.bind_eq_bind,Option.bind_some]
    dsimp only
    rw [rest]
    rfl

theorem run_append {front back : List Event} {log : List Effect} :
    run sort s (front ++ back) = some (s',log) ↔ ∃ middle first later,
      run sort s front = some (middle,first) ∧ run sort middle back = some (s',later) ∧
        log = first ++ later := by
  induction front generalizing s log with
  | nil => simp [run]
  | cons e front ih =>
    rw [List.cons_append]
    constructor
    · intro result
      obtain ⟨next,first,later,here,rest,rfl⟩ := run_cons.mp result
      obtain ⟨middle,second,last,before,behind,rfl⟩ := ih.mp rest
      exact ⟨middle,first ++ second,last,run_cons.mpr ⟨next,first,second,here,before,rfl⟩,behind,
        (List.append_assoc _ _ _).symm⟩
    · rintro ⟨middle,both,last,whole,behind,rfl⟩
      obtain ⟨next,first,second,here,before,rfl⟩ := run_cons.mp whole
      exact run_cons.mpr ⟨next,first,second ++ last,here,ih.mpr ⟨middle,second,last,before,behind,rfl⟩,
        List.append_assoc _ _ _⟩

theorem run_valid {events : List Event} {log : List Effect} (valid : Valid s)
    (result : run sort s events = some (s',log)) : Valid s' := by
  induction events generalizing s log with
  | nil =>
    cases result
    exact valid
  | cons e events ih =>
    obtain ⟨middle,first,later,here,rest,-⟩ := run_cons.mp result
    exact ih (step_steps valid here).valid rest

theorem run_undeleted_from {events : List Event} {past log : List Effect} (valid : Valid s)
    (clear : ∀ k, Holds s k ∨ s.nextConnection ≤ k → .delete k ∉ past)
    (result : run sort s events = some (s',log)) :
    ∀ k, Holds s' k ∨ s'.nextConnection ≤ k → .delete k ∉ past ++ log := by
  induction events generalizing s past log with
  | nil =>
    cases result
    simpa using clear
  | cons e events ih =>
    obtain ⟨middle,first,later,here,rest,rfl⟩ := run_cons.mp result
    have steps := step_steps valid here
    rw [← List.append_assoc]
    refine ih steps.valid (fun k present member => ?_) rest
    have before : Holds s k ∨ s.nextConnection ≤ k := by
      rcases present with held | new
      · exact steps.held k held
      · exact .inr (steps.grows.trans new)
    rcases List.mem_append.mp member with old | now
    · exact clear k before old
    rcases present with held | new
    · exact (steps.deleted k now).2 held
    · have below := (steps.about _ now).2
      exact absurd below (Nat.not_lt_of_le new)

/-- A connection that is held was not deleted before. -/
theorem run_undeleted {events : List Event} {log : List Effect}
    (result : run sort .empty events = some (s,log)) {k : Nat} (held : Holds s k) :
    .delete k ∉ log := by
  have nothing : ∀ k, Holds .empty k ∨ Pool.empty.nextConnection ≤ k → Effect.delete k ∉ [] :=
    fun _ _ => List.not_mem_nil
  exact run_undeleted_from valid_empty nothing result k (.inl held)

/-- A connection that is held no longer is left alone. -/
theorem run_gone {events : List Event} {log : List Effect} {k : Nat} (valid : Valid s)
    (gone : ¬ Holds s k) (old : k < s.nextConnection)
    (result : run sort s events = some (s',log)) : ∀ e ∈ log, e.number ≠ k := by
  induction events generalizing s log with
  | nil =>
    cases result
    simp
  | cons e events ih =>
    obtain ⟨middle,first,later,here,rest,rfl⟩ := run_cons.mp result
    have steps := step_steps valid here
    have still : ¬ Holds middle k := by
      intro held
      rcases steps.held k held with before | new
      · exact gone before
      · omega
    have after := ih steps.valid still (old.trans_le steps.grows) rest
    intro e member
    rcases List.mem_append.mp member with now | member
    · rintro rfl
      rcases (steps.about e now).1 with held | new
      · exact gone held
      · omega
    · exact after e member

end MiniPP.HashPool
