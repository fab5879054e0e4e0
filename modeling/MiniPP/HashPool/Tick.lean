import MiniPP.HashPool.Invariant

/-! What `Tick` makes of a valid pool: the new servers are connected, the deleted ones are gone,
and the connections that were closed are made again. -/
namespace MiniPP.HashPool

variable {sort : Pool.StdSort} {s s' : Pool}

theorem initializeServers_eq (sort : Pool.StdSort) (valid : Valid s) : ∃ active,
    s.initializeServers sort = some { attached s s.uninitializedServerList with
      activeServerList := active
      uninitializedServerList := [] } ∧
    active.Perm (s.activeServerList ++ s.uninitializedServerList) ∧
    active.Pairwise (fun p q =>
      Pool.serverIdOf (attached s s.uninitializedServerList).contexts p ≤
        Pool.serverIdOf (attached s s.uninitializedServerList).contexts q) := by
  rw [Pool.initializeServers]
  by_cases settled : s.uninitializedServerList = []
  · refine ⟨s.activeServerList,?_,?_,?_⟩
    · rw [if_pos settled,settled,attached_nil]
      exact congrArg some (Pool.ext rfl rfl rfl rfl rfl settled rfl rfl rfl)
    · rw [settled,List.append_nil]
    · rw [settled,attached_nil]
      exact valid.order
  · have once := (List.nodup_append.mp (List.nodup_append.mp valid.once).2.1).2.1
    have blank (p : Nat) (member : p ∈ s.uninitializedServerList) :
        ∃ context, s.contexts p = some context ∧ context.connection = none := by
      obtain ⟨d,here⟩ := valid.blank p member
      exact ⟨_,here,rfl⟩
    rw [if_neg settled,newConnections_eq once blank]
    exact ⟨_,rfl,(sort _).perm _,(sort _).ordered _⟩

/-- The servers whose connections are made anew by the next `Tick`. -/
def renewed (s : Pool) : List Nat :=
  s.uninitializedServerList ++ s.closingServerList.filter (· ∉ s.deleteServerList)

/-- What `Tick` makes of a context that is not deleted. -/
def reopened (opens : Nat → Bool) (s : Pool) (p : Nat) : Option ServerContext :=
  ((attached s s.uninitializedServerList).contexts p).map (fun context =>
    if p ∈ renewed s then
      { context with connection := context.connection.map (fun n => { n with isOpen := opens n.number }) }
    else context)

structure Ticks (s : Pool) (opens : Nat → Bool) (s' : Pool) (out : List Effect) : Prop where
  active : s'.activeServerList.Perm (s.activeServerList ++ s.uninitializedServerList)
  order : s'.activeServerList.Pairwise
    (fun p q => Pool.serverIdOf s'.contexts p ≤ Pool.serverIdOf s'.contexts q)
  drained : s'.uninitializedServerList = [] ∧ s'.deleteServerList = [] ∧
    s'.closingServerList = [] ∧ s'.reconnectServerList = []
  nextContext : s'.nextContext = s.nextContext
  nextConnection : s'.nextConnection = s.nextConnection + s.uninitializedServerList.length
  contexts : ∀ p, s'.contexts p = if p ∈ s.deleteServerList then none else reopened opens s p
  log : out = s.deleteServerList.flatMap (effects Pool.destroyServer s.contexts) ++
    ((s.closingServerList.filter (· ∉ s.deleteServerList)).flatMap
        (effects Pool.cleanConnection s.contexts) ++
      (renewed s).flatMap (effects (Pool.initConnection opens)
        (attached s s.uninitializedServerList).contexts))

theorem attached_connectionOf (servers : List Nat) (p : Nat) :
    connectionOf (attached s servers).contexts p =
      if p ∈ servers then (s.contexts p).map (fun _ => ⟨s.nextConnection + servers.idxOf p,false⟩)
      else connectionOf s.contexts p := by
  rw [connectionOf,attached,connectionOf]
  dsimp only
  cases s.contexts p with
  | none => simp
  | some context => by_cases inside : p ∈ servers <;> simp [inside]

theorem attached_old {servers : List Nat} {p : Nat} (other : p ∉ servers) :
    (attached s servers).contexts p = s.contexts p := by
  rw [attached]
  dsimp only
  simp only [other,if_false,Option.map_id']

theorem effects_congr {body : ServerContext → TcpConnection → Option ServerContext × List Effect}
    {contexts contexts' : Contexts} {servers : List Nat}
    (same : ∀ p ∈ servers, effects body contexts p = effects body contexts' p) :
    servers.flatMap (effects body contexts) = servers.flatMap (effects body contexts') := by
  rw [List.flatMap_def,List.flatMap_def,List.map_congr_left same]

section Lists

variable {p : Nat} (valid : Valid s)
include valid

theorem Valid.uninitialized_not_deleted (member : p ∈ s.uninitializedServerList) :
    p ∉ s.deleteServerList := fun other =>
  (List.nodup_append.mp (List.nodup_append.mp valid.once).2.1).2.2 p other p member rfl

theorem Valid.active_not_deleted (member : p ∈ s.activeServerList) : p ∉ s.deleteServerList :=
  fun other => (List.nodup_append.mp valid.once).2.2 p member p (List.mem_append_left _ other) rfl

theorem Valid.uninitialized_not_active (member : p ∈ s.uninitializedServerList) :
    p ∉ s.activeServerList :=
  fun other => (List.nodup_append.mp valid.once).2.2 p other p (List.mem_append_right _ member) rfl

theorem Valid.deleted_not_uninitialized (member : p ∈ s.deleteServerList) :
    p ∉ s.uninitializedServerList :=
  fun other => valid.uninitialized_not_deleted other member

theorem Valid.closing_active (member : p ∈ s.closingServerList) (kept : p ∉ s.deleteServerList) :
    p ∈ s.activeServerList :=
  (List.mem_append.mp (valid.closing p member)).resolve_right kept

theorem Valid.closing_not_uninitialized (member : p ∈ s.closingServerList) :
    p ∉ s.uninitializedServerList := by
  intro other
  rcases List.mem_append.mp (valid.closing p member) with active | deleted
  · exact valid.uninitialized_not_active other active
  · exact valid.uninitialized_not_deleted other deleted

theorem Valid.renewed_nodup : (renewed s).Nodup := by
  rw [renewed,List.nodup_append]
  refine ⟨(List.nodup_append.mp (List.nodup_append.mp valid.once).2.1).2.1,
    valid.closingOnce.filter _,?_⟩
  rintro p member q closing rfl
  exact valid.closing_not_uninitialized (List.mem_filter.mp closing).1 member

end Lists

/-- The contexts when the deleted ones are gone and the closing connections clean. -/
def closed (s : Pool) : Contexts :=
  visited Pool.cleanConnection (s.closingServerList.filter (· ∉ s.deleteServerList))
    (Pool.discard (attached s s.uninitializedServerList).contexts s.deleteServerList)

theorem closed_closing (valid : Valid s) {p : Nat} (member : p ∈ s.closingServerList)
    (kept : p ∉ s.deleteServerList) : ∃ context n, s.contexts p = some context ∧
      context.connection = some n ∧
      closed s p = some { context with connection := some { n with isOpen := false } } := by
  obtain ⟨n,has⟩ := valid.connected p (valid.closing p member)
  obtain ⟨context,here,linked⟩ := connectionOf_eq_some.mp has
  have before : Pool.discard (attached s s.uninitializedServerList).contexts s.deleteServerList p =
      some context := by
    rw [Pool.discard,if_neg kept,attached_old (valid.closing_not_uninitialized member),here]
  refine ⟨context,n,here,linked,?_⟩
  rw [closed,visited_of_mem (List.mem_filter.mpr ⟨member,by simpa using kept⟩) before linked]
  rfl

theorem closed_other {p : Nat} (other : p ∉ s.closingServerList) (kept : p ∉ s.deleteServerList) :
    closed s p = (attached s s.uninitializedServerList).contexts p := by
  rw [closed,visited_of_not_mem (fun member => other (List.mem_filter.mp member).1),Pool.discard,
    if_neg kept]

theorem Valid.deleted_nodup (valid : Valid s) : s.deleteServerList.Nodup :=
  (List.nodup_append.mp (List.nodup_append.mp valid.once).2.1).1

theorem destroy_attached (valid : Valid s) (active : List Nat) :
    Pool.destroy { attached s s.uninitializedServerList with
        activeServerList := active
        uninitializedServerList := [] } s.deleteServerList =
      some ({ attached s s.uninitializedServerList with
        contexts := Pool.discard (attached s s.uninitializedServerList).contexts s.deleteServerList
        activeServerList := active
        uninitializedServerList := []
        closingServerList := s.closingServerList.filter (· ∉ s.deleteServerList)
        reconnectServerList := s.uninitializedServerList },
        s.deleteServerList.flatMap (effects Pool.destroyServer s.contexts)) := by
  have old (p : Nat) (member : p ∈ s.deleteServerList) :
      (attached s s.uninitializedServerList).contexts p = s.contexts p :=
    attached_old (valid.deleted_not_uninitialized member)
  rw [destroy_eq valid.deleted_nodup]
  · have waiting : (attached s s.uninitializedServerList).reconnectServerList.filter
        (· ∉ s.deleteServerList) = s.uninitializedServerList := by
      rw [attached,valid.reconnect,List.nil_append]
      exact List.filter_eq_self.mpr
        (fun p member => by simpa using valid.uninitialized_not_deleted member)
    have log : s.deleteServerList.flatMap (effects Pool.destroyServer
        (attached s s.uninitializedServerList).contexts) =
        s.deleteServerList.flatMap (effects Pool.destroyServer s.contexts) :=
      effects_congr (fun p member => by rw [effects,old p member,effects])
    dsimp only
    rw [waiting,log]
    rfl
  · intro p member
    obtain ⟨n,has⟩ := valid.connected p (List.mem_append_right _ member)
    exact ⟨n,by rw [connectionOf,old p member]; exact has⟩

theorem clean_closing (valid : Valid s) :
    forEach Pool.cleanConnection (s.closingServerList.filter (· ∉ s.deleteServerList))
        (Pool.discard (attached s s.uninitializedServerList).contexts s.deleteServerList) =
      some (closed s,(s.closingServerList.filter (· ∉ s.deleteServerList)).flatMap
        (effects Pool.cleanConnection s.contexts)) := by
  have old (p : Nat) (member : p ∈ s.closingServerList.filter (· ∉ s.deleteServerList)) :
      Pool.discard (attached s s.uninitializedServerList).contexts s.deleteServerList p =
        s.contexts p := by
    obtain ⟨closing,kept⟩ := List.mem_filter.mp member
    rw [Pool.discard,if_neg (by simpa using kept),
      attached_old (valid.closing_not_uninitialized closing)]
  rw [forEach_eq (valid.closingOnce.filter _)]
  · have log : (s.closingServerList.filter (· ∉ s.deleteServerList)).flatMap
        (effects Pool.cleanConnection
          (Pool.discard (attached s s.uninitializedServerList).contexts s.deleteServerList)) =
        (s.closingServerList.filter (· ∉ s.deleteServerList)).flatMap
          (effects Pool.cleanConnection s.contexts) :=
      effects_congr (fun p member => by rw [effects,old p member,effects])
    rw [log]
    rfl
  · intro p member
    obtain ⟨n,has⟩ := valid.connected p (valid.closing p (List.mem_filter.mp member).1)
    exact ⟨n,by rw [connectionOf,old p member]; exact has⟩

/-- A context that waits for its connection to be made has the same server before and after. -/
theorem renewed_context (valid : Valid s) {p : Nat} (member : p ∈ renewed s) :
    p ∉ s.deleteServerList ∧ ∃ context n isOpen,
      (attached s s.uninitializedServerList).contexts p = some context ∧
      context.connection = some n ∧
      closed s p = some { context with connection := some { n with isOpen } } := by
  rcases List.mem_append.mp member with new | closing
  · have kept := valid.uninitialized_not_deleted new
    have other : p ∉ s.closingServerList := fun closing => valid.closing_not_uninitialized closing new
    obtain ⟨d,here⟩ := valid.blank p new
    refine ⟨kept,⟨d,some ⟨s.nextConnection + s.uninitializedServerList.idxOf p,false⟩,false⟩,
      ⟨s.nextConnection + s.uninitializedServerList.idxOf p,false⟩,false,?_,rfl,?_⟩
    · rw [attached]
      simp [new,here]
    · rw [closed_other other kept,attached]
      simp [new,here]
  · obtain ⟨closing,kept⟩ := List.mem_filter.mp closing
    have kept : p ∉ s.deleteServerList := by simpa using kept
    obtain ⟨context,n,here,linked,clean⟩ := closed_closing valid closing kept
    refine ⟨kept,context,n,false,?_,linked,clean⟩
    rw [attached_old (valid.closing_not_uninitialized closing),here]

theorem init_renewed (valid : Valid s) (opens : Nat → Bool) :
    forEach (Pool.initConnection opens) (renewed s) (closed s) =
      some (fun p => if p ∈ s.deleteServerList then none else reopened opens s p,
        (renewed s).flatMap (effects (Pool.initConnection opens)
          (attached s s.uninitializedServerList).contexts)) := by
  rw [forEach_eq valid.renewed_nodup]
  · congr 2
    · funext p
      by_cases member : p ∈ renewed s
      · obtain ⟨kept,context,n,isOpen,here,linked,clean⟩ := renewed_context valid member
        rw [visited_of_mem member clean rfl,if_neg kept,reopened,here]
        simp [Pool.initConnection,member,linked]
      · rw [visited_of_not_mem member,reopened]
        have same (p : Nat) (other : p ∉ s.closingServerList) (kept : p ∉ s.deleteServerList) :
            closed s p = (attached s s.uninitializedServerList).contexts p := closed_other other kept
        by_cases gone : p ∈ s.deleteServerList
        · rw [if_pos gone,closed,visited_of_not_mem (by simp [gone]),Pool.discard,if_pos gone]
        · have other : p ∉ s.closingServerList := fun closing =>
            member (List.mem_append_right _ (List.mem_filter.mpr ⟨closing,by simpa using gone⟩))
          simp [gone,member,same p other gone]
    · refine effects_congr fun p member => ?_
      obtain ⟨-,context,n,isOpen,here,linked,clean⟩ := renewed_context valid member
      rw [effects_eq clean rfl,effects_eq here linked]
      rfl
  · intro p member
    obtain ⟨-,context,n,isOpen,-,-,clean⟩ := renewed_context valid member
    exact ⟨_,connectionOf_eq_some.mpr ⟨_,clean,rfl⟩⟩

theorem reopened_serverIdOf {opens : Nat → Bool} {contexts : Contexts} {p : Nat}
    (here : contexts p = reopened opens s p) : Pool.serverIdOf contexts p =
      Pool.serverIdOf (attached s s.uninitializedServerList).contexts p := by
  rw [Pool.serverIdOf,here,reopened,Pool.serverIdOf]
  cases (attached s s.uninitializedServerList).contexts p with
  | none => rfl
  | some context => by_cases member : p ∈ renewed s <;> simp [member]

theorem refresh_eq (sort : Pool.StdSort) (valid : Valid s) (opens : Nat → Bool) :
    ∃ s' out, s.refresh sort opens = some (s',out) ∧ Ticks s opens s' out := by
  obtain ⟨active,initialized,perm,order⟩ := initializeServers_eq sort valid
  have destroyed := destroy_attached valid active
  have cleaned := clean_closing valid
  have opened := init_renewed valid opens
  have result : s.refresh sort opens = some ({ attached s s.uninitializedServerList with
      contexts := fun p => if p ∈ s.deleteServerList then none else reopened opens s p
      activeServerList := active
      uninitializedServerList := []
      deleteServerList := []
      closingServerList := []
      reconnectServerList := [] },
      s.deleteServerList.flatMap (effects Pool.destroyServer s.contexts) ++
        ((s.closingServerList.filter (· ∉ s.deleteServerList)).flatMap
            (effects Pool.cleanConnection s.contexts) ++
          (renewed s).flatMap (effects (Pool.initConnection opens)
            (attached s s.uninitializedServerList).contexts))) := by
    rw [Pool.refresh,initialized,Option.bind_eq_bind,Option.bind_some]
    change (Pool.destroy { attached s s.uninitializedServerList with
        activeServerList := active
        uninitializedServerList := [] } s.deleteServerList).bind _ = _
    rw [destroyed,Option.bind_some]
    dsimp only
    rw [cleaned,Option.bind_eq_bind,Option.bind_some]
    dsimp only
    change (forEach (Pool.initConnection opens) (renewed s) (closed s)).bind _ = _
    rw [opened]
    rfl
  refine ⟨_,_,result,perm,?_,⟨rfl,rfl,rfl,rfl⟩,rfl,rfl,fun p => rfl,rfl⟩
  refine List.Pairwise.imp_of_mem ?_ order
  intro p q left right le
  have survives {p : Nat} (member : p ∈ active) : p ∉ s.deleteServerList := by
    rcases List.mem_append.mp (perm.mem_iff.mp member) with old | new
    · exact valid.active_not_deleted old
    · exact valid.uninitialized_not_deleted new
  have same {p : Nat} (member : p ∈ active) :
      Pool.serverIdOf (fun p => if p ∈ s.deleteServerList then none else reopened opens s p) p =
        Pool.serverIdOf (attached s s.uninitializedServerList).contexts p :=
    reopened_serverIdOf (if_neg (survives member))
  exact (same left).le.trans (le.trans (same right).ge)

theorem tick_eq (sort : Pool.StdSort) (valid : Valid s) (now : Nat) (opens : Nat → Bool) :
    ∃ s' out, s.tick sort now opens = some (s',out) ∧ Ticks s opens s' out := by
  have timed : Valid { s with ticker := now } := ⟨valid.alive,valid.once,valid.below,valid.connected,
    valid.unmarked,valid.blank,valid.order,valid.closingOnce,valid.closing,valid.reconnect,
    valid.numbers,valid.numbersBelow⟩
  obtain ⟨s',out,result,ticks⟩ := refresh_eq sort timed opens
  exact ⟨s',out,result,ticks.active,ticks.order,ticks.drained,ticks.nextContext,ticks.nextConnection,
    ticks.contexts,ticks.log⟩

section Ticks

variable {opens : Nat → Bool} {out : List Effect} (valid : Valid s) (ticks : Ticks s opens s' out)
include valid ticks

theorem Ticks.contexts_active {p : Nat} (member : p ∈ s.activeServerList) {context : ServerContext}
    {n : TcpConnection} (here : s.contexts p = some context) (linked : context.connection = some n) :
    s'.contexts p = some { context with
      connection := some ⟨n.number,if p ∈ s.closingServerList then opens n.number else n.isOpen⟩ } := by
  have kept := valid.active_not_deleted member
  have old : p ∉ s.uninitializedServerList := fun new => valid.uninitialized_not_active new member
  rw [ticks.contexts,if_neg kept,reopened,attached_old old,here,Option.map_some]
  by_cases closing : p ∈ s.closingServerList
  · have again : p ∈ renewed s :=
      List.mem_append_right _ (List.mem_filter.mpr ⟨closing,by simpa using kept⟩)
    rw [if_pos again,if_pos closing,linked]
    rfl
  · have other : p ∉ renewed s := by
      intro member
      rcases List.mem_append.mp member with new | member
      · exact old new
      · exact closing (List.mem_filter.mp member).1
    rw [if_neg other,if_neg closing]
    exact congrArg (fun linked => some { context with connection := linked }) linked

theorem Ticks.contexts_new {p : Nat} (member : p ∈ s.uninitializedServerList) {d : ServerInfo}
    (here : s.contexts p = some ⟨d,none,false⟩) :
    s'.contexts p = some ⟨d,some ⟨s.nextConnection + s.uninitializedServerList.idxOf p,
      opens (s.nextConnection + s.uninitializedServerList.idxOf p)⟩,false⟩ := by
  have kept := valid.uninitialized_not_deleted member
  have again : p ∈ renewed s := List.mem_append_left _ member
  rw [ticks.contexts,if_neg kept,reopened,attached]
  simp [here,member,again]

theorem Ticks.number {p : Nat} {m : TcpConnection} (has : connectionOf s'.contexts p = some m) :
    (p ∈ s.activeServerList ∧ ∃ n, connectionOf s.contexts p = some n ∧ n.number = m.number) ∨
      (p ∈ s.uninitializedServerList ∧
        m.number = s.nextConnection + s.uninitializedServerList.idxOf p) := by
  have kept : p ∉ s.deleteServerList := by
    intro gone
    rw [connectionOf,ticks.contexts,if_pos gone] at has
    cases has
  have member : p ∈ listed s := by
    by_contra other
    rw [connectionOf,ticks.contexts,if_neg kept,reopened,attached] at has
    simp [valid.missing other] at has
  rcases List.mem_append.mp member with active | member
  · obtain ⟨n,had⟩ := valid.connected p (List.mem_append_left _ active)
    obtain ⟨context,here,linked⟩ := connectionOf_eq_some.mp had
    rw [connectionOf,ticks.contexts_active valid active here linked] at has
    cases has
    exact .inl ⟨active,n,had,rfl⟩
  · have new := (List.mem_append.mp member).resolve_left kept
    obtain ⟨d,here⟩ := valid.blank p new
    rw [connectionOf,ticks.contexts_new valid new here] at has
    cases has
    exact .inr ⟨new,rfl⟩

theorem Ticks.keeps : Valid s' := by
  obtain ⟨settled,done,closed,drained⟩ := ticks.drained
  have lists : listed s' = s'.activeServerList := by simp [listed,settled,done]
  have survives {p : Nat} (member : p ∈ s'.activeServerList) : p ∉ s.deleteServerList ∧ p ∈ listed s := by
    rcases List.mem_append.mp (ticks.active.mem_iff.mp member) with old | new
    · exact ⟨valid.active_not_deleted old,active_listed old⟩
    · exact ⟨valid.uninitialized_not_deleted new,uninitialized_listed new⟩
  have after {p : Nat} (member : p ∈ s'.activeServerList) : ∃ context n, s'.contexts p = some context ∧
      context.connection = some n ∧ context.deleteMark = false := by
    rcases List.mem_append.mp (ticks.active.mem_iff.mp member) with old | new
    · obtain ⟨n,has⟩ := valid.connected p (List.mem_append_left _ old)
      obtain ⟨context,here,linked⟩ := connectionOf_eq_some.mp has
      have unmarked := valid.unmarked p old
      rw [Pool.deleteMarked,here] at unmarked
      exact ⟨_,_,ticks.contexts_active valid old here linked,rfl,unmarked⟩
    · obtain ⟨d,here⟩ := valid.blank p new
      exact ⟨_,_,ticks.contexts_new valid new here,rfl,rfl⟩
  constructor
  case alive =>
    intro p
    rw [lists]
    constructor
    · intro some
      rw [ticks.contexts] at some
      by_cases gone : p ∈ s.deleteServerList
      · rw [if_pos gone] at some
        cases some
      rw [if_neg gone,reopened,Option.isSome_map,attached,Option.isSome_map,valid.alive] at some
      rw [ticks.active.mem_iff,List.mem_append]
      rcases List.mem_append.mp some with active | member
      · exact .inl active
      · exact .inr ((List.mem_append.mp member).resolve_left gone)
    · intro member
      obtain ⟨context,-,here,-⟩ := after member
      rw [here]
      rfl
  case once =>
    rw [lists,ticks.active.nodup_iff]
    exact valid.once.sublist ((List.sublist_append_right _ _).append_left _)
  case below =>
    intro p member
    rw [lists] at member
    rw [ticks.nextContext]
    exact valid.below p (survives member).2
  case connected =>
    intro p member
    rw [done,List.append_nil] at member
    obtain ⟨context,n,here,linked,-⟩ := after member
    exact ⟨n,connectionOf_eq_some.mpr ⟨context,here,linked⟩⟩
  case unmarked =>
    intro p member
    obtain ⟨context,n,here,-,unmarked⟩ := after member
    rw [Pool.deleteMarked,here]
    exact unmarked
  case blank =>
    intro p member
    rw [settled] at member
    cases member
  case order => exact ticks.order
  case closingOnce => rw [closed]; exact List.nodup_nil
  case closing =>
    intro p member
    rw [closed] at member
    cases member
  case reconnect => exact drained
  case numbers =>
    intro p q n m left right same
    rcases ticks.number valid left with ⟨-,n',before,number⟩ | ⟨new,number⟩ <;>
      rcases ticks.number valid right with ⟨-,m',before',number'⟩ | ⟨new',number'⟩
    · exact valid.numbers p q n' m' before before' (number.trans (same.trans number'.symm))
    · have below := valid.numbersBelow p n' before
      omega
    · have below := valid.numbersBelow q m' before'
      omega
    · have index : s.uninitializedServerList.idxOf p = s.uninitializedServerList.idxOf q := by omega
      exact (List.idxOf_inj new).mp index
  case numbersBelow =>
    intro p n has
    rw [ticks.nextConnection]
    rcases ticks.number valid has with ⟨-,n',before,number⟩ | ⟨new,number⟩
    · have below := valid.numbersBelow p n' before
      omega
    · have index := List.idxOf_lt_length_iff.mpr new
      omega

end Ticks

end MiniPP.HashPool
