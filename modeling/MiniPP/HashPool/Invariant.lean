import MiniPP.HashPool.Calls

/-! What holds of a pool between two calls, and how `UpdateServerList` keeps it. -/
namespace MiniPP.HashPool

variable {sort : Pool.StdSort} {s s' : Pool}

def listed (s : Pool) : List Nat :=
  s.activeServerList ++ (s.deleteServerList ++ s.uninitializedServerList)

/-- The contexts in use are those of the three lists; the first two lists are of contexts with a
connection of their own. -/
structure Valid (s : Pool) : Prop where
  alive : ∀ p, (s.contexts p).isSome = true ↔ p ∈ listed s
  once : (listed s).Nodup
  below : ∀ p ∈ listed s, p < s.nextContext
  connected : ∀ p ∈ s.activeServerList ++ s.deleteServerList, ∃ n, connectionOf s.contexts p = some n
  unmarked : ∀ p ∈ s.activeServerList, Pool.deleteMarked s.contexts p = false
  blank : ∀ p ∈ s.uninitializedServerList, ∃ d, s.contexts p = some ⟨d,none,false⟩
  order : s.activeServerList.Pairwise
    (fun p q => Pool.serverIdOf s.contexts p ≤ Pool.serverIdOf s.contexts q)
  closingOnce : s.closingServerList.Nodup
  closing : ∀ p ∈ s.closingServerList, p ∈ s.activeServerList ++ s.deleteServerList
  reconnect : s.reconnectServerList = []
  numbers : ∀ p q n m, connectionOf s.contexts p = some n → connectionOf s.contexts q = some m →
    n.number = m.number → p = q
  numbersBelow : ∀ p n, connectionOf s.contexts p = some n → n.number < s.nextConnection

theorem valid_empty : Valid .empty where
  alive p := by simp [Pool.empty,listed]
  once := by simp [Pool.empty,listed]
  below p member := by simp [Pool.empty,listed] at member
  connected p member := by simp [Pool.empty] at member
  unmarked p member := by simp [Pool.empty] at member
  blank p member := by simp [Pool.empty] at member
  order := by simp [Pool.empty]
  closingOnce := by simp [Pool.empty]
  closing p member := by simp [Pool.empty] at member
  reconnect := rfl
  numbers p q n m left := by simp [Pool.empty,connectionOf] at left
  numbersBelow p n left := by simp [Pool.empty,connectionOf] at left

theorem Valid.context {p : Nat} (valid : Valid s) (member : p ∈ listed s) :
    ∃ context, s.contexts p = some context :=
  Option.isSome_iff_exists.mp ((valid.alive p).mpr member)

theorem Valid.missing {p : Nat} (valid : Valid s) (other : p ∉ listed s) : s.contexts p = none := by
  rw [← Option.not_isSome_iff_eq_none,valid.alive]
  exact other

theorem active_listed {p : Nat} (member : p ∈ s.activeServerList) : p ∈ listed s :=
  List.mem_append_left _ member

theorem uninitialized_listed {p : Nat} (member : p ∈ s.uninitializedServerList) : p ∈ listed s :=
  List.mem_append_right _ (List.mem_append_right _ member)

theorem serverIdOf_eq (contexts : Contexts) (p : Nat) :
    Pool.serverIdOf contexts p = (infoOf contexts p).serverId := by
  unfold Pool.serverIdOf infoOf
  cases contexts p <;> rfl

theorem infoOf_eq {contexts : Contexts} {p : Nat} {context : ServerContext}
    (here : contexts p = some context) : infoOf contexts p = context.toServerInfo := by
  rw [infoOf,here]
  rfl

/-! ## UpdateServerList -/

/-- The pool when the lists are merged and the marked servers have left the active ones. -/
def merged (s : Pool) (kept deleted : List Nat) (added : List ServerInfo) : Pool :=
  { s with
    contexts := fun p => (fresh s.nextContext added p).or ((s.contexts p).map (fun context =>
      if p ∈ deleted then { context with deleteMark := true } else context))
    nextContext := s.nextContext + added.length
    activeServerList := kept
    uninitializedServerList := List.range' s.nextContext added.length
    deleteServerList := deleted }

def Merges (sort : Pool.StdSort) (s : Pool) (source : List ServerInfo) :
    List Nat → List Nat → List ServerInfo → Prop :=
  Reconciles (fun p => (infoOf s.contexts p).serverId) ServerInfo.serverId
    (fun p d => (infoOf s.contexts p).address = d.address) s.activeServerList
    ((sort ServerInfo.serverId).sort source)

/-- The two assertions. -/
theorem updateServerList_settled {source : List ServerInfo}
    (result : s.updateServerList sort source = some s') :
    s.uninitializedServerList = [] ∧ s.deleteServerList = [] := by
  by_contra pending
  rw [Pool.updateServerList,if_pos (not_and_or.mp pending)] at result
  cases result

theorem updateServerList_eq (sort : Pool.StdSort) (valid : Valid s) (settled : s.uninitializedServerList = [])
    (done : s.deleteServerList = []) (source : List ServerInfo) :
    ∃ kept deleted added, Merges sort s source kept deleted added ∧
      s.updateServerList sort source = some (merged s kept deleted added) := by
  have below (p : Nat) (member : p ∈ s.activeServerList) : p < s.nextContext :=
    valid.below p (active_listed member)
  have known (p : Nat) (member : p ∈ s.activeServerList) :
      (s.contexts p).map (·.toServerInfo) = some (infoOf s.contexts p) := by
    obtain ⟨context,here⟩ := valid.context (active_listed member)
    rw [infoOf_eq here,here]
    rfl
  obtain ⟨kept,deleted,added,pass,result⟩ := mergeLists_eq
    (Nat.lt_succ_self (s.activeServerList.length + ((sort ServerInfo.serverId).sort source).length))
    known below
  refine ⟨kept,deleted,added,pass,?_⟩
  have fine : ¬ (s.uninitializedServerList ≠ [] ∨ s.deleteServerList ≠ []) := by
    rw [settled,done]
    simp
  rw [Pool.updateServerList,if_neg fine]
  dsimp only
  rw [result,Option.bind_eq_bind,Option.bind_some,newServers_eq,markDeletes_eq]
  congr 1
  refine Pool.ext rfl rfl rfl rfl ?_ ?_ ?_ rfl rfl
  · have once := (List.nodup_append.mp valid.once).1
    rw [merged]
    dsimp only
    rw [pass.kept_eq_filter once]
    refine List.filter_congr fun p member => ?_
    obtain ⟨context,here⟩ := valid.context (active_listed member)
    have unmarked := valid.unmarked p member
    rw [Pool.deleteMarked,here] at unmarked
    rw [Pool.deleteMarked,fresh_of_lt (below p member),here]
    by_cases inside : p ∈ deleted
    · simp [inside]
    · simpa [inside] using unmarked
  · simp [merged,settled]
  · simp [merged,done]

theorem fresh_isSome {next : Nat} {news : List ServerInfo} {p : Nat} :
    (fresh next news p).isSome = true ↔ p ∈ List.range' next news.length := by
  rw [fresh,List.mem_range'_1]
  by_cases inside : next ≤ p
  · rw [if_pos inside,Option.isSome_map,Option.isSome_iff_ne_none,ne_eq,List.getElem?_eq_none_iff]
    omega
  · simp [inside]

theorem merged_old {kept deleted : List Nat} {added : List ServerInfo} {p : Nat}
    (below : p < s.nextContext) : (merged s kept deleted added).contexts p =
      (s.contexts p).map (fun context =>
        if p ∈ deleted then { context with deleteMark := true } else context) := by
  rw [merged]
  dsimp only
  rw [fresh_of_lt below,Option.none_or]

theorem merged_new {kept deleted : List Nat} {added : List ServerInfo} {p : Nat}
    (inside : p ∈ List.range' s.nextContext added.length) :
    ∃ d ∈ added[p - s.nextContext]?, (merged s kept deleted added).contexts p = some ⟨d,none,false⟩ := by
  obtain ⟨low,high⟩ := List.mem_range'_1.mp inside
  have index : p - s.nextContext < added.length := by omega
  refine ⟨added[p - s.nextContext],List.getElem?_eq_getElem index,?_⟩
  rw [merged]
  dsimp only
  rw [fresh,if_pos low,List.getElem?_eq_getElem index]
  rfl

theorem Valid.missing_of_le {p : Nat} (valid : Valid s) (high : s.nextContext ≤ p) :
    s.contexts p = none :=
  valid.missing (fun member => absurd (valid.below p member) (Nat.not_lt_of_le high))

theorem merged_connectionOf (valid : Valid s) (kept deleted : List Nat) (added : List ServerInfo)
    (p : Nat) :
    connectionOf (merged s kept deleted added).contexts p = connectionOf s.contexts p := by
  by_cases below : p < s.nextContext
  · rw [connectionOf,merged_old below,connectionOf]
    cases s.contexts p with
    | none => rfl
    | some context => by_cases inside : p ∈ deleted <;> simp [inside]
  · have nothing := valid.missing_of_le (Nat.le_of_not_lt below)
    by_cases inside : p ∈ List.range' s.nextContext added.length
    · obtain ⟨d,-,here⟩ := merged_new (s := s) inside
      rw [connectionOf,here,connectionOf,nothing]
      rfl
    · have absent : fresh s.nextContext added p = none := by
        rw [← Option.not_isSome_iff_eq_none,fresh_isSome]
        exact inside
      rw [connectionOf,merged]
      dsimp only
      rw [absent,nothing,connectionOf,nothing]
      rfl

theorem merged_serverIdOf {p : Nat} (below : p < s.nextContext) (kept deleted : List Nat)
    (added : List ServerInfo) :
    Pool.serverIdOf (merged s kept deleted added).contexts p = Pool.serverIdOf s.contexts p := by
  rw [Pool.serverIdOf,merged_old below,Pool.serverIdOf]
  cases s.contexts p with
  | none => rfl
  | some context => by_cases inside : p ∈ deleted <;> simp [inside]

theorem valid_merged (valid : Valid s) (settled : s.uninitializedServerList = [])
    (done : s.deleteServerList = []) {source : List ServerInfo} {kept deleted : List Nat}
    {added : List ServerInfo} (pass : Merges sort s source kept deleted added) :
    Valid (merged s kept deleted added) := by
  have old : listed s = s.activeServerList := by simp [listed,settled,done]
  have parts : s.activeServerList.Perm (kept ++ deleted) := pass.olds_perm
  have inActive {p : Nat} : p ∈ kept ++ deleted ↔ p ∈ listed s := by rw [old,parts.mem_iff]
  have lists : listed (merged s kept deleted added) =
      (kept ++ deleted) ++ List.range' s.nextContext added.length := by simp [listed,merged]
  have oldBelow (p : Nat) (member : p ∈ kept ++ deleted) : p < s.nextContext :=
    valid.below p (inActive.mp member)
  have keptBelow (p : Nat) (member : p ∈ kept) : p < s.nextContext :=
    oldBelow p (List.mem_append_left _ member)
  constructor
  case alive =>
    intro p
    rw [lists,List.mem_append,inActive,← valid.alive]
    by_cases below : p < s.nextContext
    · rw [merged_old below,Option.isSome_map,List.mem_range'_1]
      refine ⟨.inl,?_⟩
      rintro (here | ⟨high,-⟩)
      · exact here
      · exact absurd below (Nat.not_lt_of_le high)
    · simp only [merged,valid.missing_of_le (Nat.le_of_not_lt below),Option.map_none,Option.or_none,
        Option.isSome_none,Bool.false_eq_true,false_or]
      exact fresh_isSome
  case once =>
    rw [lists,List.nodup_append]
    refine ⟨parts.nodup_iff.mp (old ▸ valid.once),List.nodup_range',?_⟩
    intro p member q new same
    have below := oldBelow p member
    rw [same] at below
    exact absurd below (Nat.not_lt_of_le (List.mem_range'_1.mp new).1)
  case below =>
    intro p member
    rw [lists,List.mem_append] at member
    rcases member with member | member
    · exact Nat.lt_add_right _ (oldBelow p member)
    · exact (List.mem_range'_1.mp member).2
  case connected =>
    intro p member
    obtain ⟨n,has⟩ := valid.connected p (List.mem_append_left _ (parts.mem_iff.mpr member))
    exact ⟨n,(merged_connectionOf valid kept deleted added p).trans has⟩
  case unmarked =>
    intro p member
    have active : p ∈ s.activeServerList := pass.kept_sublist.subset member
    have outside : p ∉ deleted := by
      intro other
      have apart := (List.nodup_append.mp (parts.nodup_iff.mp (old ▸ valid.once))).2.2
      exact apart p member p other rfl
    have same := valid.unmarked p active
    rw [Pool.deleteMarked,merged_old (keptBelow p member)]
    simpa [outside,Pool.deleteMarked] using same
  case blank =>
    intro p member
    obtain ⟨d,-,here⟩ := merged_new (s := s) member
    exact ⟨d,here⟩
  case order =>
    refine List.Pairwise.imp_of_mem ?_ (valid.order.sublist pass.kept_sublist)
    intro p q left right le
    rw [merged_serverIdOf (keptBelow p left),merged_serverIdOf (keptBelow q right)]
    exact le
  case closingOnce => exact valid.closingOnce
  case closing =>
    intro p member
    have before := valid.closing p member
    rw [done,List.append_nil] at before
    exact parts.mem_iff.mp before
  case reconnect => exact valid.reconnect
  case numbers =>
    intro p q n m left right
    rw [merged_connectionOf valid] at left right
    exact valid.numbers p q n m left right
  case numbersBelow =>
    intro p n left
    rw [merged_connectionOf valid] at left
    exact valid.numbersBelow p n left

end MiniPP.HashPool
