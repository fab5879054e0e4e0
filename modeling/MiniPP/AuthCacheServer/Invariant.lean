import MiniPP.AuthCacheServer.Manager
import MiniPP.Lib.ExpiryQueue

/-! What holds of the map, its pool and its lists whatever is called, as long as the program runs. -/
namespace MiniPP.AuthCacheServer

open AuthCacheManager

variable {keys : KeySource} {m m' : AuthCacheManager keys} {np : Nat} {key : Bytes} {node : AuthCacheNode}

/-- Every node of the pool is in one list, once, and the one of its key; only in the second list does
one wait for an answer. -/
structure Placed (m : AuthCacheManager keys) : Prop where
  once : (m.cacheTimeoutList ++ m.cacheRequestTimeoutList).Nodup
  linked : ∀ np, np ∈ m.cacheTimeoutList ++ m.cacheRequestTimeoutList ↔ m.cacheNodePool.find? np ≠ none
  mapped : ∀ np node, m.cacheNodePool.find? np = some node → m.cacheMap node.key = some np
  stored : ∀ key np, m.cacheMap key = some np → ∃ node, m.cacheNodePool.find? np = some node ∧ node.key = key
  answered : ∀ np ∈ m.cacheTimeoutList, ∀ node, m.cacheNodePool.find? np = some node → node.pendingRequestId = 0

theorem placed_new (keys : KeySource) (capacity : Nat) (serviceTicker : UInt64) :
    Placed (.new keys capacity serviceTicker) := by
  constructor <;> simp [AuthCacheManager.new]

/-- The ticker and the counters are not read. -/
theorem Placed.of_same (placed : Placed m) (pool : m'.cacheNodePool = m.cacheNodePool)
    (map : m'.cacheMap = m.cacheMap) (timeout : m'.cacheTimeoutList = m.cacheTimeoutList)
    (request : m'.cacheRequestTimeoutList = m.cacheRequestTimeoutList) : Placed m' where
  once := by simpa only [timeout,request] using placed.once
  linked := by simpa only [pool,timeout,request] using placed.linked
  mapped := by simpa only [pool,map] using placed.mapped
  stored := by simpa only [pool,map] using placed.stored
  answered := by simpa only [pool,timeout] using placed.answered

/-! ## New nodes -/

theorem createCacheNode_eq_none : m.createCacheNode key = none ↔ m.Exhausted := by
  unfold createCacheNode
  split
  · rename_i failed
    exact ⟨fun _ => Storage.acquire_eq_none.mp failed,fun _ => rfl⟩
  · rename_i np pool acquired
    refine ⟨fun failed => absurd failed (by simp),fun full => ?_⟩
    exact absurd (acquired.symm.trans (Storage.acquire_eq_none.mpr full)) (by simp)

theorem Placed.createCacheNode (placed : Placed m) (absent : m.cacheMap key = none)
    (created : m.createCacheNode key = some m') : Placed m' := by
  unfold AuthCacheManager.createCacheNode at created
  split at created
  · cases created
  · rename_i np pool acquired
    obtain rfl := Option.some.inj created
    have found := Storage.find?_acquire acquired
    have fresh := (Storage.acquired_fresh acquired).1
    have unlinked : np ∉ m.cacheTimeoutList ++ m.cacheRequestTimeoutList := by
      rw [placed.linked]
      exact fun linked => linked fresh
    have moved : ((m.cacheTimeoutList ++ [np]) ++ m.cacheRequestTimeoutList).Perm
        (np :: (m.cacheTimeoutList ++ m.cacheRequestTimeoutList)) := by
      rw [List.append_assoc,List.singleton_append]
      exact List.perm_middle
    refine ⟨?_,?_,?_,?_,?_⟩
    · exact moved.nodup_iff.mpr (List.nodup_cons.mpr ⟨unlinked,placed.once⟩)
    · intro other
      dsimp only
      rw [moved.mem_iff,List.mem_cons,placed.linked,found]
      split <;> simp [*]
    · intro other node there
      dsimp only at there ⊢
      rcases Storage.of_find?_acquire acquired there with ⟨rfl,rfl⟩ | ⟨-,there⟩
      · rw [Function.update_self]
      · have before := placed.mapped other node there
        have apart : node.key ≠ key := by
          intro same
          rw [same,absent] at before
          cases before
        rw [Function.update_of_ne apart]
        exact before
    · intro other id there
      dsimp only at there ⊢
      rcases of_update_some there with ⟨rfl,rfl⟩ | ⟨-,before⟩
      · exact ⟨_,(found id).trans (if_pos rfl),rfl⟩
      · obtain ⟨node,there,own⟩ := placed.stored other id before
        have apart : id ≠ np := fun same => by
          rw [same,fresh] at there
          cases there
        exact ⟨node,(found id).trans ((if_neg apart).trans there),own⟩
    · intro other member node there
      rcases Storage.of_find?_acquire acquired there with ⟨-,rfl⟩ | ⟨apart,there⟩
      · rfl
      · rcases List.mem_append.mp member with member | last
        · exact placed.answered other member node there
        · exact absurd (List.mem_singleton.mp last) apart

/-! ## Nodes that move -/

/-- A node changes and goes to the tail of a list, the first only if it has no request. -/
theorem Placed.move (placed : Placed m) {change : AuthCacheNode → AuthCacheNode}
    (keeps : ∀ node, (change node).key = node.key) {timeout request : List Nat}
    (perm : (timeout ++ request).Perm (m.cacheTimeoutList ++ m.cacheRequestTimeoutList))
    (others : ∀ other ∈ timeout, other ≠ np → other ∈ m.cacheTimeoutList)
    (idle : np ∈ timeout → ∀ node, m.cacheNodePool.find? np = some node → (change node).pendingRequestId = 0) :
    Placed { m with
      cacheNodePool := m.cacheNodePool.modify np change
      cacheTimeoutList := timeout
      cacheRequestTimeoutList := request } := by
  have found := Storage.find?_modify m.cacheNodePool np
  refine ⟨perm.nodup_iff.mpr placed.once,?_,?_,?_,?_⟩
  · intro other
    dsimp only
    rw [perm.mem_iff,placed.linked,found]
    split
    · rename_i same
      simp [same]
    · rfl
  · intro other node there
    rcases Storage.of_find?_modify there with ⟨rfl,old,before,rfl⟩ | ⟨-,there⟩
    · rw [keeps]
      exact placed.mapped other old before
    · exact placed.mapped other node there
  · intro key other mapped
    obtain ⟨node,there,own⟩ := placed.stored key other mapped
    dsimp only
    rw [found]
    split
    · rename_i same
      rw [same] at there
      exact ⟨change node,by rw [there]; rfl,(keeps node).trans own⟩
    · exact ⟨node,there,own⟩
  · intro other member node there
    rcases Storage.of_find?_modify there with ⟨rfl,old,before,rfl⟩ | ⟨apart,there⟩
    · exact idle member old before
    · exact placed.answered other (others other member apart) node there

theorem Placed.grabTimeout (placed : Placed m) (there : m.cacheNodePool.find? np ≠ none)
    {change : AuthCacheNode → AuthCacheNode} (keeps : ∀ node, (change node).key = node.key)
    (idle : ∀ node, (change node).pendingRequestId = 0) : Placed ((m.modify np change).grabTimeout np) := by
  have linked := (placed.linked np).mpr there
  have perm : (toTail m.cacheTimeoutList np ++ without m.cacheRequestTimeoutList np).Perm
      (m.cacheTimeoutList ++ m.cacheRequestTimeoutList) := by
    rw [toTail,List.append_assoc,List.singleton_append]
    refine List.perm_middle.trans ?_
    rw [← without_append]
    exact (perm_without placed.once linked).symm
  refine placed.move keeps perm ?_ (fun _ node _ => idle node)
  intro other member apart
  exact ((mem_toTail.mp member).resolve_right apart).1

theorem Placed.grabRequestTimeout (placed : Placed m) (there : m.cacheNodePool.find? np ≠ none)
    {change : AuthCacheNode → AuthCacheNode} (keeps : ∀ node, (change node).key = node.key) :
    Placed ((m.modify np change).grabRequestTimeout np) := by
  have linked := (placed.linked np).mpr there
  have perm : (without m.cacheTimeoutList np ++ toTail m.cacheRequestTimeoutList np).Perm
      (m.cacheTimeoutList ++ m.cacheRequestTimeoutList) := by
    rw [toTail,← List.append_assoc]
    refine (List.perm_append_singleton np _).trans ?_
    rw [← without_append]
    exact (perm_without placed.once linked).symm
  refine placed.move keeps perm (fun other member _ => (mem_without.mp member).1) ?_
  exact fun member => absurd rfl (mem_without.mp member).2

/-- A node that has a request stays in its list. -/
theorem Placed.append (placed : Placed m) (np rn : Nat) : Placed (m.modify np (fun node =>
    { node with pendingRequests := node.pendingRequests ++ [rn] })) := by
  apply Placed.move placed
  case keeps => exact fun _ => rfl
  case perm => exact List.Perm.refl _
  case others => exact fun _ member _ => member
  case idle => exact fun member node there => placed.answered np member node there

/-! ## Nodes that go -/

/-- The node at the head of the first list goes, and nothing is left of it. -/
theorem Placed.removeHead {rest : List Nat} (placed : Placed m) (head : m.cacheTimeoutList = np :: rest) :
    ∃ m', { m with cacheTimeoutList := rest }.removeCacheNode np = .ok m' ∧ Placed m' ∧
      m'.cacheTimeoutList = rest ∧ m'.cacheRequestTimeoutList = m.cacheRequestTimeoutList ∧
      m'.cacheNodePool = m.cacheNodePool.release np := by
  have linked := (placed.linked np).mp (by simp [head])
  obtain ⟨node,there⟩ := Option.ne_none_iff_exists'.mp linked
  have mapped := placed.mapped np node there
  have found := Storage.find?_release m.cacheNodePool np
  have once := placed.once
  rw [head,List.cons_append,List.nodup_cons] at once
  have removed : { m with cacheTimeoutList := rest }.removeCacheNode np = .ok
      { m with
        cacheTimeoutList := rest
        cacheMap := Function.update m.cacheMap node.key none
        cacheNodePool := m.cacheNodePool.release np } := by
    simp only [removeCacheNode,there,if_pos mapped]
  refine ⟨_,removed,?_,rfl,rfl,rfl⟩
  refine ⟨once.2,?_,?_,?_,?_⟩
  · intro other
    have before := placed.linked other
    rw [head,List.cons_append,List.mem_cons] at before
    dsimp only
    rw [found]
    split
    · rename_i same
      simpa [same] using once.1
    · rename_i apart
      simpa [apart] using before
  · intro other node' there'
    obtain ⟨apart,there'⟩ := Storage.of_find?_release there'
    have mapped' := placed.mapped other node' there'
    have keys : node'.key ≠ node.key := by
      intro same
      rw [same,mapped] at mapped'
      exact apart (Option.some.inj mapped').symm
    exact (Function.update_of_ne keys _ _).trans mapped'
  · intro key other mapped'
    obtain ⟨apart,before⟩ := of_update_none mapped'
    obtain ⟨node',there',own⟩ := placed.stored key other before
    have distinct : other ≠ np := by
      intro same
      rw [same,there] at there'
      exact apart (own ▸ congrArg AuthCacheNode.key (Option.some.inj there').symm)
    exact ⟨node',(found other).trans ((if_neg distinct).trans there'),own⟩
  · intro other member node' there'
    have listed : other ∈ m.cacheTimeoutList := by
      rw [head]
      exact List.mem_cons_of_mem np member
    exact placed.answered other listed node' (Storage.of_find?_release there').2

/-- The loop removes what is expired at the head of the list. -/
theorem Placed.removeExpired (placed : Placed m) (killTimepoint : UInt64) {list : List Nat}
    (same : m.cacheTimeoutList = list) :
    ∃ m', AuthCacheManager.removeExpired killTimepoint list m = .ok m' ∧ Placed m' ∧
      m'.cacheTimeoutList = list.dropWhile (m.isExpired killTimepoint) ∧
      m'.cacheRequestTimeoutList = m.cacheRequestTimeoutList := by
  induction list generalizing m with
  | nil => exact ⟨m,rfl,placed,same,rfl⟩
  | cons np rest ih =>
    unfold AuthCacheManager.removeExpired
    split
    · rename_i expired
      obtain ⟨m₁,removed,placed₁,left,request,pool⟩ := placed.removeHead same
      obtain ⟨m₂,done,placed₂,left₂,request₂⟩ := ih placed₁ left
      rw [removed]
      refine ⟨m₂,done,placed₂,?_,request₂.trans request⟩
      have once := placed.once
      rw [same,List.cons_append,List.nodup_cons] at once
      rw [left₂,List.dropWhile_cons_of_pos expired]
      apply dropWhile_congr
      intro other member
      have apart : other ≠ np := fun equal => once.1 (by simp [← equal,member])
      unfold isExpired
      rw [pool,Storage.find?_release,if_neg apart]
    · rename_i kept
      exact ⟨m,rfl,placed,by rw [List.dropWhile_cons_of_neg kept,same],rfl⟩

end MiniPP.AuthCacheServer
