import MiniPP.Proxy.AuthRefinement

/-! Cache hits: calls of `RequestAuth` that find a verdict, and what the next tick answers to
them. -/
namespace MiniPP.Proxy

open Function (update update_self update_of_ne)

variable {keys : KeySource}

namespace AuthTable

/-- Each node is at most once on each of the two lists. -/
structure Distinct (t : AuthTable) : Prop where
  used : t.used.Nodup
  asked : t.asked.Nodup

theorem distinct_step {t t' : AuthTable} {out : List AuthAction} (distinct : Distinct t)
    (step : Step t out t') : Distinct t' := by
  cases step with
  | refused => exact distinct
  | unplaced => exact ⟨distinct.used,distinct.asked⟩
  | placed source rid id key node =>
    refine ⟨nodup_toTail distinct.used id,?_⟩
    simp only [place]
    split
    · exact nodup_toTail distinct.asked id
    · exact distinct.asked
  | ignored => exact distinct
  | answered id => exact ⟨nodup_toTail distinct.used id,nodup_without distinct.asked id⟩
  | expired turn =>
    obtain ⟨id,node,-,-,-,rfl⟩ := turn
    exact ⟨nodup_without distinct.used id,nodup_without distinct.asked id⟩
  | evicted turn =>
    obtain ⟨id,node,-,-,-,rfl⟩ := turn
    exact ⟨nodup_without distinct.used id,nodup_without distinct.asked id⟩
  | dispatched turn =>
    obtain ⟨rid,r,-,-,-,rfl⟩ := turn
    exact ⟨distinct.used,distinct.asked⟩
  | tick => exact ⟨distinct.used,distinct.asked⟩

end AuthTable

/-! ## What a tick takes off -/

namespace AuthCacheManager

/-- The nodes that the first loop of a tick removes. -/
def late (s : AuthCacheManager keys) (nowMS : Nat) : List Nat :=
  s.authCacheUpdateList.takeWhile (fun id => (s.authCacheNodePool.find? id).any
    (fun node => node.lastUpdateTimestampMS < sub64 nowMS authCacheRequestTimeoutMS))

/-- The nodes that the second loop removes: it finds the list without the late ones. -/
def unused (s : AuthCacheManager keys) (nowMS : Nat) : List Nat :=
  (s.authCacheLRUList.filter (fun id => id ∉ s.late nowMS)).takeWhile
    (fun id => (s.authCacheNodePool.find? id).any
      (fun node => node.lastUsedTimestampMS < sub64 nowMS authCacheNodeTimeoutMS))

theorem find?_expireUpdate (s : AuthCacheManager keys) (id : Nat) (node : AuthCacheNode) (other : Nat) :
    (s.expireUpdate id node).1.authCacheNodePool.find? other =
      if other = id then none else s.authCacheNodePool.find? other := by
  change ((s.authCacheNodePool.modify id _).release id).find? other = _
  rw [Storage.find?_release,Storage.find?_modify]
  by_cases same : other = id
  · rw [if_pos same,if_pos same]
  · rw [if_neg same,if_neg same,if_neg same]

/-- The first loop removes the leading nodes that are late, and nothing else. -/
theorem expireUpdates_nodes {p : Nat → Bool} (fuel : Nat) {s : AuthCacheManager keys}
    (linked : AuthTable.Linked s.view) (distinct : AuthTable.Distinct s.view)
    (enough : s.authCacheUpdateList.length ≤ fuel)
    (agree : ∀ id ∈ s.authCacheUpdateList, ∀ node, s.authCacheNodePool.find? id = some node →
      p id = decide (node.lastUpdateTimestampMS < sub64 s.ticker authCacheRequestTimeoutMS)) :
    (∀ id, (expireUpdates fuel s).1.authCacheNodePool.find? id =
      if id ∈ s.authCacheUpdateList.takeWhile p then none else s.authCacheNodePool.find? id) ∧
    (expireUpdates fuel s).1.authCacheLRUList =
      s.authCacheLRUList.filter (fun id => id ∉ s.authCacheUpdateList.takeWhile p) ∧
    AuthTable.Distinct (expireUpdates fuel s).1.view ∧ (expireUpdates fuel s).1.ticker = s.ticker := by
  induction fuel generalizing s with
  | zero =>
    have empty : s.authCacheUpdateList = [] := List.length_eq_zero_iff.mp (by omega)
    simp [expireUpdates,empty,distinct]
  | succ fuel ih =>
    unfold expireUpdates
    split
    · rename_i empty
      simp [empty,distinct]
    · rename_i id rest list
      obtain ⟨node,there⟩ := first_asked linked list
      have here := agree id (by simp [list]) node there
      have alone : s.authCacheUpdateList.Nodup := distinct.asked
      rw [list,List.nodup_cons] at alone
      rw [there]
      dsimp only
      split
      · rename_i late
        have turn := expireUpdate_turn linked there late
        have tail : (s.expireUpdate id node).1.authCacheUpdateList = rest := by
          change without s.authCacheUpdateList id = rest
          rw [list,without_head alone.1]
        obtain ⟨nodes,used,distinct',now⟩ := ih (s := (s.expireUpdate id node).1)
          (AuthTable.linked_step linked (.expired turn)) (AuthTable.distinct_step distinct (.expired turn))
          (length_without_head list enough) (by
            intro other member node' found'
            rw [tail] at member
            rw [find?_expireUpdate] at found'
            have apart : other ≠ id := fun same => alone.1 (same ▸ member)
            rw [if_neg apart] at found'
            exact agree other (by simp [list,member]) node' found')
        have front : s.authCacheUpdateList.takeWhile p = id :: rest.takeWhile p := by
          rw [list,List.takeWhile_cons_of_pos (by simpa [here] using late)]
        rw [tail] at nodes used
        refine ⟨?_,?_,distinct',now⟩
        · intro other
          rw [nodes other,find?_expireUpdate,front]
          by_cases same : other = id
          · simp [same]
          · simp [same]
        · rw [used,front]
          change (without s.authCacheLRUList id).filter _ = _
          unfold without
          rw [List.filter_filter]
          apply List.filter_congr
          intro other _
          by_cases same : other = id <;> simp [same]
      · rename_i fresh
        have front : s.authCacheUpdateList.takeWhile p = [] := by
          rw [list,List.takeWhile_cons_of_neg (by simpa [here] using fresh)]
        simp [front,distinct]

/-- The second loop removes the leading nodes that were not used for long. -/
theorem expireLRU_nodes {p : Nat → Bool} (fuel : Nat) {s : AuthCacheManager keys}
    (linked : AuthTable.Linked s.view) (distinct : AuthTable.Distinct s.view)
    (enough : s.authCacheLRUList.length ≤ fuel)
    (agree : ∀ id ∈ s.authCacheLRUList, ∀ node, s.authCacheNodePool.find? id = some node →
      p id = decide (node.lastUsedTimestampMS < sub64 s.ticker authCacheNodeTimeoutMS)) (id : Nat) :
    (expireLRU fuel s).1.authCacheNodePool.find? id =
      if id ∈ s.authCacheLRUList.takeWhile p then none else s.authCacheNodePool.find? id := by
  induction fuel generalizing s with
  | zero =>
    have empty : s.authCacheLRUList = [] := List.length_eq_zero_iff.mp (by omega)
    simp [expireLRU,empty]
  | succ fuel ih =>
    unfold expireLRU
    split
    · rename_i empty
      simp [empty]
    · rename_i first rest list
      obtain ⟨node,there⟩ := first_used linked list
      have here := agree first (by simp [list]) node there
      have alone : s.authCacheLRUList.Nodup := distinct.used
      rw [list,List.nodup_cons] at alone
      rw [there]
      dsimp only
      split
      · rename_i unused
        have turn := expireUnused_turn linked there unused
        have tail : (s.expireUnused first node).1.authCacheLRUList = rest := by
          change without s.authCacheLRUList first = rest
          rw [list,without_head alone.1]
        have dropped (other : Nat) : (s.expireUnused first node).1.authCacheNodePool.find? other =
            if other = first then none else s.authCacheNodePool.find? other :=
          Storage.find?_release _ first other
        have nodes := ih (s := (s.expireUnused first node).1)
          (AuthTable.linked_step linked (.evicted turn)) (AuthTable.distinct_step distinct (.evicted turn))
          (length_without_head list enough) (by
            intro other member node' found'
            rw [tail] at member
            have apart : other ≠ first := fun same => alone.1 (same ▸ member)
            rw [dropped,if_neg apart] at found'
            exact agree other (by simp [list,member]) node' found')
        have front : s.authCacheLRUList.takeWhile p = first :: rest.takeWhile p := by
          rw [list,List.takeWhile_cons_of_pos (by simpa [here] using unused)]
        rw [tail] at nodes
        rw [nodes,dropped,front]
        by_cases same : id = first
        · simp [same]
        · simp [same]
      · rename_i recent
        have front : s.authCacheLRUList.takeWhile p = [] := by
          rw [list,List.takeWhile_cons_of_neg (by simpa [here] using recent)]
        simp [front]

/-- Every request in the list is answered with the verdict of its node, or with none where the
node is gone; no other is answered. -/
theorem dispatchResults_answers (fuel : Nat) {s : AuthCacheManager keys}
    (linked : AuthTable.Linked s.view) (enough : s.dispatchResultList.length ≤ fuel) :
    (∀ rid ∈ s.dispatchResultList, ∀ r, s.requestPool.find? rid = some r →
      .result rid r.requestSourceId ((s.authCacheNodePool.find? r.cacheNodeId).map AuthCacheNode.result) ∈
        (dispatchResults fuel s).2) ∧
    ∀ rid source v, .result rid source v ∈ (dispatchResults fuel s).2 →
      ∃ r, s.requestPool.find? rid = some r ∧ source = r.requestSourceId ∧
        v = (s.authCacheNodePool.find? r.cacheNodeId).map AuthCacheNode.result := by
  induction fuel generalizing s with
  | zero =>
    have empty : s.dispatchResultList = [] := List.length_eq_zero_iff.mp (by omega)
    simp [dispatchResults,empty]
  | succ fuel ih =>
    unfold dispatchResults
    split
    · rename_i empty
      simp [empty]
    · rename_i first rest list
      have listed : first ∈ s.dispatchResultList := by simp [list]
      obtain ⟨request,there⟩ := first_dispatched linked list
      have turn := dispatchResult_turn there listed
      obtain ⟨answered,only⟩ := ih (s := (s.dispatchResult first request).1)
        (AuthTable.linked_step linked (.dispatched turn)) (length_without_head list enough)
      have requests (rid : Nat) : (s.dispatchResult first request).1.requestPool.find? rid =
          if rid = first then none else s.requestPool.find? rid := Storage.find?_release _ first rid
      rw [there]
      dsimp only
      constructor
      · intro rid member r here
        by_cases same : rid = first
        · rw [same,there] at here
          obtain rfl := Option.some.inj here
          rw [same]
          exact List.mem_append_left _ (List.mem_singleton.mpr rfl)
        · apply List.mem_append_right
          apply answered rid (mem_without.mpr ⟨member,same⟩) r
          rw [requests,if_neg same,here]
      · intro rid source v member
        rcases List.mem_append.mp member with now | later
        · cases List.mem_singleton.mp now
          exact ⟨request,there,rfl,rfl⟩
        · obtain ⟨r,here,rest⟩ := only rid source v later
          rw [requests] at here
          split at here
          · cases here
          · exact ⟨r,here,rest⟩

/-! ## A tick as a whole -/

section Nodes

variable {s : AuthCacheManager keys} (linked : AuthTable.Linked s.view)
  (distinct : AuthTable.Distinct s.view) (nowMS : Nat)

include linked distinct

theorem afterExpiry_nodes :
    (∀ id, (s.afterExpiry nowMS).authCacheNodePool.find? id =
      if id ∈ s.late nowMS then none else s.authCacheNodePool.find? id) ∧
    (s.afterExpiry nowMS).authCacheLRUList = s.authCacheLRUList.filter (fun id => id ∉ s.late nowMS) ∧
    AuthTable.Distinct (s.afterExpiry nowMS).view ∧ (s.afterExpiry nowMS).ticker = nowMS := by
  apply expireUpdates_nodes (s := s.clocked nowMS) s.authCacheUpdateList.length
  · exact AuthTable.linked_step linked (.tick nowMS)
  · exact ⟨distinct.used,distinct.asked⟩
  · exact Nat.le_refl _
  · intro id _ node found
    have there : s.authCacheNodePool.find? id = some node := found
    rw [there]
    rfl

theorem find?_afterEviction (id : Nat) :
    (s.afterEviction nowMS).authCacheNodePool.find? id =
      if id ∈ s.late nowMS ∨ id ∈ s.unused nowMS then none else s.authCacheNodePool.find? id := by
  obtain ⟨nodes,used,distinct',ticker⟩ := afterExpiry_nodes linked distinct nowMS
  have left := expireLRU_nodes (p := fun id => (s.authCacheNodePool.find? id).any
      (fun node => node.lastUsedTimestampMS < sub64 nowMS authCacheNodeTimeoutMS)) _
    (linked_afterExpiry linked nowMS) distinct' (Nat.le_refl _) (by
      intro other _ node found
      rw [nodes] at found
      split at found
      · cases found
      · rw [found,ticker]
        rfl) id
  have gone : (s.afterExpiry nowMS).authCacheLRUList.takeWhile
      (fun id => (s.authCacheNodePool.find? id).any
        (fun node => node.lastUsedTimestampMS < sub64 nowMS authCacheNodeTimeoutMS)) = s.unused nowMS := by
    rw [used]
    rfl
  rw [gone,nodes] at left
  apply left.trans
  by_cases first : id ∈ s.late nowMS
  · rw [if_pos first,ite_self,if_pos (.inl first)]
  · by_cases second : id ∈ s.unused nowMS
    · rw [if_pos second,if_pos (.inr second)]
    · rw [if_neg second,if_neg first,if_neg (not_or.mpr ⟨first,second⟩)]

omit distinct in
/-- The two loops drop no request, and dispatch none. -/
theorem afterEviction_requests :
    (s.afterEviction nowMS).view.request = s.view.request ∧
      ∀ rid ∈ s.view.dispatch, rid ∈ (s.afterEviction nowMS).view.dispatch := by
  have first : (s.afterExpiry nowMS).view.request = s.view.request ∧
      ∀ rid ∈ s.view.dispatch, rid ∈ (s.afterExpiry nowMS).view.dispatch := by
    apply (afterExpiry_path linked nowMS).keeps
      (I := fun t => t.request = s.view.request ∧ ∀ rid ∈ s.view.dispatch, rid ∈ t.dispatch)
    · rintro t out t' ⟨id,node,-,-,-,rfl⟩ before
      exact ⟨before.1,fun rid member => List.mem_append_left _ (before.2 rid member)⟩
    · exact ⟨rfl,fun rid member => member⟩
  apply (afterEviction_path linked nowMS).keeps
    (I := fun t => t.request = s.view.request ∧ ∀ rid ∈ s.view.dispatch, rid ∈ t.dispatch)
  · rintro t out t' ⟨id,node,-,-,-,rfl⟩ before
    exact before
  · exact first

/-- A tick answers each listed request: with nothing, if it removes the node. -/
theorem onTick_answers {rid : Nat} (listed : rid ∈ s.dispatchResultList) {r : AuthRequestNode}
    (found : s.requestPool.find? rid = some r) :
    let v := if r.cacheNodeId ∈ s.late nowMS ∨ r.cacheNodeId ∈ s.unused nowMS then none
      else (s.authCacheNodePool.find? r.cacheNodeId).map AuthCacheNode.result
    .result rid r.requestSourceId v ∈ (s.onTick nowMS).2 ∧
      ∀ source v', .result rid source v' ∈ (s.onTick nowMS).2 → source = r.requestSourceId ∧ v' = v := by
  have linked' := linked_afterEviction linked nowMS
  obtain ⟨requests,dispatch⟩ := afterEviction_requests linked nowMS
  have there : (s.afterEviction nowMS).requestPool.find? rid = some r := (congrFun requests rid).trans found
  obtain ⟨answered,only⟩ := dispatchResults_answers _ linked' (Nat.le_refl _)
  have split : (s.onTick nowMS).2 =
      (expireUpdates s.authCacheUpdateList.length (s.clocked nowMS)).2 ++
      (expireLRU (s.afterExpiry nowMS).authCacheLRUList.length (s.afterExpiry nowMS)).2 ++
      (dispatchResults (s.afterEviction nowMS).dispatchResultList.length (s.afterEviction nowMS)).2 := rfl
  have verdict : ((s.afterEviction nowMS).authCacheNodePool.find? r.cacheNodeId).map AuthCacheNode.result =
      if r.cacheNodeId ∈ s.late nowMS ∨ r.cacheNodeId ∈ s.unused nowMS then none
      else (s.authCacheNodePool.find? r.cacheNodeId).map AuthCacheNode.result := by
    rw [find?_afterEviction linked distinct]
    split <;> rfl
  rw [split,← verdict]
  constructor
  · exact List.mem_append_right _ (answered rid (dispatch rid listed) r there)
  · intro source v' member
    rcases List.mem_append.mp member with before | now
    · rcases List.mem_append.mp before with first | second
      · have silent : ∀ a ∈ (expireUpdates s.authCacheUpdateList.length (s.clocked nowMS)).2,
            ¬ a.isAnswer rid := (afterExpiry_path linked nowMS).forall_mem (by
          rintro t out t' ⟨_,_,_,_,rfl,_⟩
          simp)
        exact absurd (by simp [AuthAction.isAnswer]) (silent _ first)
      · have silent : ∀ a ∈ (expireLRU (s.afterExpiry nowMS).authCacheLRUList.length (s.afterExpiry nowMS)).2,
            ¬ a.isAnswer rid := (afterEviction_path linked nowMS).forall_mem (by
          rintro t out t' ⟨_,_,_,_,rfl,_⟩
          split <;> simp [AuthAction.isAnswer])
        exact absurd (by simp [AuthAction.isAnswer]) (silent _ second)
    · obtain ⟨r',here,same,answer⟩ := only rid source v' now
      rw [there] at here
      obtain rfl := Option.some.inj here
      exact ⟨same,answer⟩

end Nodes

end AuthCacheManager

/-! ## Hits -/

/-- A call of `RequestAuth` that found a verdict. -/
structure CacheHit where
  requestId : Nat
  source : Nat
  userPass : Bytes
  deriving DecidableEq, Repr

/-- The request ids that a call of `RequestAuth` was accepted under. -/
def AuthAction.acceptedId : AuthAction → Option Nat
  | .requestAuth _ _ _ requestId => requestId
  | _ => none

/-- The hit that an event is. -/
def AuthCacheManager.hit (s : AuthCacheManager keys) : AuthEvent → List CacheHit
  | .requestAuth source userPass =>
    match (s.findKey userPass).bind s.authCacheNodePool.find? with
    | some node =>
      if node.result.ready then ((s.requestAuth source userPass).2.filterMap AuthAction.acceptedId).map
        (fun requestId => { requestId, source, userPass })
      else []
    | none => []
  | _ => []

/-- The hits that no tick has followed. -/
def pendingHits (s : AuthCacheManager keys) (e : AuthEvent) (hits : List CacheHit) : List CacheHit :=
  match e with
  | .tick _ => []
  | _ => hits ++ s.hit e

def hitMachine (keys : KeySource) : Machine (AuthCacheManager keys × List CacheHit) AuthEvent AuthAction :=
  (authMachine keys).withGhost [] pendingHits

/-- The next tick answers a hit, with a verdict for its key; nothing answers it without one. -/
def Honoured (c : AuthCacheManager keys × List CacheHit) (log : List AuthAction) (e : AuthEvent) : Prop :=
  let out := ((authMachine keys).step c.1 e).2
  ∀ hit ∈ c.2,
    ((∃ nowMS, e = .tick nowMS) → ∃ v, .result hit.requestId hit.source v ∈ out) ∧
    ∀ source v, .result hit.requestId source v ∈ out →
      ∃ given, v = some given ∧ Verdict hit.userPass given log

/-- A tick does not remove the node of a hit. -/
def Spared (c : AuthCacheManager keys × List CacheHit) (_ : List AuthAction) (e : AuthEvent) : Prop :=
  ∀ nowMS, e = .tick nowMS → ∀ hit ∈ c.2, ∀ id, c.1.findKey hit.userPass = some id →
    id ∉ c.1.late nowMS ∧ id ∉ c.1.unused nowMS

namespace AuthTable

/-- A hit waits to be dispatched, and its node has the verdict. -/
def Waits (t : AuthTable) (hit : CacheHit) : Prop :=
  hit.requestId ∈ t.dispatch ∧ ∃ r node, t.request hit.requestId = some r ∧
    r.requestSourceId = hit.source ∧ t.byKey hit.userPass = some r.cacheNodeId ∧
    t.node r.cacheNodeId = some node ∧ node.userPass = hit.userPass ∧ node.result.ready = true

/-- Between ticks a hit waits on: a call changes neither its request nor the key of its node. -/
theorem waits_placed {t : AuthTable} (linked : Linked t) {hit : CacheHit} (waits : t.Waits hit)
    (source rid id : Nat) (key : Bytes) (node : AuthCacheNode) (fresh : ¬ t.requestIds rid)
    (found : t.NodeFor key id node) : (t.place source rid id node key).Waits hit := by
  obtain ⟨listed,r,node',request,own,mapped,live,keyed,ready⟩ := waits
  have apart : hit.requestId ≠ rid := linked.apart fresh request
  refine ⟨?_,?_⟩
  · simp only [place]
    split
    · exact List.mem_append_left _ listed
    · exact listed
  · have request' : (t.place source rid id node key).request hit.requestId = some r :=
      (update_of_ne apart _ _).trans request
    by_cases same : r.cacheNodeId = id
    · -- The call is for the node of the hit, which keeps its verdict.
      rcases found with ⟨live',mapped'⟩ | ⟨fresh',-⟩
      · have equal : node' = node := Option.some.inj (live.symm.trans (same ▸ live'))
        have key' : hit.userPass = key := by
          obtain ⟨node'',live'',keyed'⟩ := linked.known key id mapped'
          rw [live'] at live''
          rw [← keyed,equal,Option.some.inj live'',keyed']
        refine ⟨r,t.joined rid node,request',own,?_,?_,?_,?_⟩
        · simp [place,key',same]
        · simp [place,same,joined]
        · exact equal ▸ keyed
        · exact equal ▸ ready
      · exact absurd (linked.nodeIds _ node' live) (same ▸ fresh')
    · have key' : hit.userPass ≠ key := by
        rintro rfl
        rcases found with ⟨-,mapped'⟩ | ⟨-,-,free,-⟩
        · rw [mapped] at mapped'
          exact same (Option.some.inj mapped')
        · rw [mapped] at free
          cases free
      exact ⟨r,node',request',own,(update_of_ne key' _ _).trans mapped,
        (update_of_ne same _ _).trans live,keyed,ready⟩

theorem waits_unplaced {t : AuthTable} (linked : Linked t) {hit : CacheHit} (waits : t.Waits hit)
    (source rid : Nat) (fresh : ¬ t.requestIds rid) : (t.unplace source rid).Waits hit := by
  obtain ⟨listed,r,node,request,rest⟩ := waits
  have apart : hit.requestId ≠ rid := linked.apart fresh request
  exact ⟨List.mem_append_left _ listed,r,node,(update_of_ne apart _ _).trans request,rest⟩

theorem waits_answered {t : AuthTable} {hit : CacheHit} (waits : t.Waits hit) (id : Nat)
    (resp : QueryAuthCacheResp) (node : AuthCacheNode) (found : t.node id = some node) :
    (t.answer id resp node).Waits hit := by
  obtain ⟨listed,r,node',request,own,mapped,live,keyed,ready⟩ := waits
  refine ⟨List.mem_append_left _ listed,?_⟩
  by_cases same : r.cacheNodeId = id
  · have equal : node' = node := Option.some.inj (live.symm.trans (same ▸ found))
    refine ⟨r,t.settled resp node,request,own,mapped,?_,equal ▸ keyed,rfl⟩
    rw [same,answer_self]
  · exact ⟨r,node',request,own,mapped,(answer_of_ne t same resp node).trans live,keyed,ready⟩

/-- Calls and replies leave the hits waiting. -/
theorem waits_step {t t' : AuthTable} {out : List AuthAction} (linked : Linked t) {hit : CacheHit}
    (waits : t.Waits hit) (step : Step t out t')
    (called : (∃ source key timestamp rid, .requestAuth source key timestamp rid ∈ out) ∨
      ∃ id resp, .reply id resp ∈ out) : t'.Waits hit := by
  cases step with
  | refused => exact waits
  | unplaced source rid key fresh => exact waits_unplaced linked waits source rid fresh
  | placed source rid id key node fresh found =>
    exact waits_placed linked waits source rid id key node fresh found
  | ignored => exact waits
  | answered id resp node found => exact waits_answered waits id resp node found
  | expired turn =>
    obtain ⟨_,_,-,-,rfl,-⟩ := turn
    simp at called
  | evicted turn =>
    obtain ⟨_,_,-,-,rfl,-⟩ := turn
    split at called <;> simp at called
  | dispatched turn =>
    obtain ⟨_,_,-,-,rfl,-⟩ := turn
    simp at called
  | tick => simp at called

end AuthTable

/-- A call that finds a verdict waits for the next tick. -/
theorem waits_hit {s : AuthCacheManager keys} (linked : AuthTable.Linked s.view) (source : Nat)
    (key : Bytes) {hit : CacheHit} (member : hit ∈ s.hit (.requestAuth source key)) :
    (s.requestAuth source key).1.view.Waits hit := by
  simp only [AuthCacheManager.hit] at member
  split at member
  · rename_i node bound
    obtain ⟨id,mapped,found⟩ := Option.bind_eq_some_iff.mp bound
    split at member
    · rename_i ready
      obtain ⟨rid,inside,rfl⟩ := List.mem_map.mp member
      rcases s.requestAuth_known mapped found source with ⟨-,actions⟩ | ⟨rid',fresh,placed,actions⟩
      · rw [actions] at inside
        simp [AuthAction.acceptedId] at inside
      · have only : (s.requestAuth source key).2.filterMap AuthAction.acceptedId = [rid'] := by
          rw [actions]
          split <;> rfl
        rw [only] at inside
        obtain rfl := List.mem_singleton.mp inside
        obtain ⟨node',live,keyed⟩ := linked.known key id mapped
        obtain rfl : node' = node := Option.some.inj (live.symm.trans found)
        rw [placed]
        refine ⟨by simp [AuthTable.place,ready],_,s.view.joined rid node',update_self _ _ _,rfl,
          update_self _ _ _,update_self _ _ _,keyed,ready⟩
    · cases member
  · cases member

structure HitInvariant (c : AuthCacheManager keys × List CacheHit) : Prop where
  linked : AuthTable.Linked c.1.view
  distinct : AuthTable.Distinct c.1.view
  waits : ∀ hit ∈ c.2, c.1.view.Waits hit

theorem hitInvariant_step {c : AuthCacheManager keys × List CacheHit} (valid : HitInvariant c)
    (e : AuthEvent) : HitInvariant ((hitMachine keys).step c e).1 := by
  have path := authStep_path valid.linked e
  have linked := AuthTable.linked_path (fun _ _ _ step => step) valid.linked path
  have both := path.keeps (I := fun t => AuthTable.Distinct t)
    (fun t out t' step distinct => AuthTable.distinct_step distinct step) valid.distinct
  refine ⟨linked,both,?_⟩
  intro hit member
  cases e with
  | requestAuth source key =>
    rcases List.mem_append.mp member with old | new
    · have step := c.1.requestAuth_step valid.linked source key
      apply AuthTable.waits_step valid.linked (valid.waits hit old) step
      obtain ⟨rid,rest,actions,-⟩ := c.1.requestAuth_actions source key
      exact .inl ⟨source,key,c.1.ticker,rid,by simp [actions]⟩
    · exact waits_hit valid.linked source key new
  | serverPacket id resp =>
    rcases List.mem_append.mp member with old | new
    · have step := c.1.onServerPacket_step id resp
      apply AuthTable.waits_step valid.linked (valid.waits hit old) step
      exact .inr ⟨id,resp,by simp [c.1.onServerPacket_actions id resp]⟩
    · cases new
  | tick nowMS => cases member

/-- A call of `RequestAuth` and a reply answer nothing. -/
theorem no_answer_between {s : AuthCacheManager keys} {e : AuthEvent} (between : ∀ nowMS, e ≠ .tick nowMS)
    (rid source : Nat) (v : Option AuthResult) : .result rid source v ∉ ((authMachine keys).step s e).2 := by
  intro member
  cases e with
  | requestAuth source' key =>
    obtain ⟨rid',rest,actions,others⟩ := s.requestAuth_actions source' key
    have inside : AuthAction.result rid source v ∈ (s.requestAuth source' key).2 := member
    rw [actions] at inside
    rcases List.mem_cons.mp inside with same | later
    · cases same
    · rcases others _ later with ⟨id,same⟩ | same
      · cases same
      · cases same
  | serverPacket id resp =>
    have inside : AuthAction.result rid source v ∈ (s.onServerPacket id resp).2 := member
    rw [s.onServerPacket_actions] at inside
    cases List.mem_singleton.mp inside
  | tick nowMS => exact between nowMS rfl

/-- A tick honours the hits exactly when it spares their nodes. -/
theorem honoured_iff_spared {c : AuthCacheManager keys × List CacheHit} {log : List AuthAction}
    (valid : HitInvariant c) (recorded : AuthTable.Recorded c.1.view log) (e : AuthEvent) :
    Honoured c log e ↔ Spared c log e := by
  by_cases between : ∀ nowMS, e ≠ .tick nowMS
  · constructor
    · intro _ nowMS tick
      exact absurd tick (between nowMS)
    · intro _ hit _
      refine ⟨fun ⟨nowMS,tick⟩ => absurd tick (between nowMS),?_⟩
      intro source v member
      exact absurd member (no_answer_between between _ _ _)
  · obtain ⟨nowMS,tick⟩ := Classical.not_forall_not.mp between
    subst tick
    constructor
    · intro honoured nowMS' same hit member id mapped
      cases same
      obtain ⟨listed,r,node,request,own,mapped',live,keyed,ready⟩ := valid.waits hit member
      obtain ⟨answered,-⟩ := c.1.onTick_answers valid.linked valid.distinct nowMS listed request
      obtain ⟨given,same,-⟩ := (honoured hit member).2 _ _ answered
      have there : r.cacheNodeId = id := Option.some.inj (mapped'.symm.trans mapped)
      rw [there] at same
      split at same
      · cases same
      · rename_i spared
        exact not_or.mp spared
    · intro spared hit member
      obtain ⟨listed,r,node,request,own,mapped,live,keyed,ready⟩ := valid.waits hit member
      obtain ⟨answered,only⟩ := c.1.onTick_answers valid.linked valid.distinct nowMS listed request
      have left := not_or.mpr (spared nowMS rfl hit member r.cacheNodeId mapped)
      have there : c.1.authCacheNodePool.find? r.cacheNodeId = some node := live
      rw [if_neg left,there] at answered only
      refine ⟨fun _ => ⟨_,own ▸ answered⟩,?_⟩
      intro source v inside
      obtain ⟨-,rfl⟩ := only source v inside
      exact ⟨node.result,rfl,keyed ▸ recorded.verdicts _ node live ready⟩

/-- In a run of calls, replies and ticks of any clock, every hit is answered at the next tick
with a verdict for its key, and never without one, exactly when no tick removes the node of a
hit that is still to be answered. -/
theorem hits_honoured (ticker cachePoolSize : Nat) (events : List AuthEvent) :
    (hitMachine keys).Allowed Honoured (.init keys ticker cachePoolSize,[]) [] events ↔
      (hitMachine keys).Allowed Spared (.init keys ticker cachePoolSize,[]) [] events := by
  have start : (hitMachine keys).Reach Honoured (.init keys ticker cachePoolSize,[]) [] :=
    .start ⟨⟨ticker,cachePoolSize,rfl⟩,rfl⟩
  refine Machine.allowed_iff ?_ start events
  intro c log e reach
  obtain ⟨-,recorded⟩ := auth_invariant (Machine.Reach.forget reach)
  apply honoured_iff_spared ?_ recorded
  apply reach.invariant (I := fun c _ => HitInvariant c)
  · rintro ⟨s,hits⟩ ⟨⟨ticker,cachePoolSize,rfl⟩,blank⟩
    obtain rfl : hits = [] := blank
    exact ⟨linked_init ticker cachePoolSize,⟨List.nodup_nil,List.nodup_nil⟩,by simp⟩
  · intro c log e _ _ valid
    exact hitInvariant_step valid e

/-- A verdict is asked about again when it is five minutes old. The new query stays open; fifteen
seconds later the verdict is found once more, and the tick one millisecond later removes it. -/
def lostHit : List AuthEvent :=
  [.requestAuth 7 (ascii "u:p"),.serverPacket 1
    { countryId := 1, stateId := 0, cityId := 0, isBlocked := false, requireIpv6 := false
      requireUdp := false, requireRemoteDns := false, autoChangeIp := false },
    .tick 1300000,.requestAuth 8 (ascii "u:p"),.tick 1315000,.requestAuth 9 (ascii "u:p"),.tick 1315001]

theorem hit_answered_without_verdict :
    ¬ (hitMachine .sequential).Allowed Honoured (.init .sequential 1000000 8,[]) [] lostHit := by
  intro honoured
  obtain ⟨-,-,-,-,-,-,last,-⟩ := honoured
  have hit : (⟨3,9,ascii "u:p"⟩ : CacheHit) ∈
      ((hitMachine .sequential).run (.init .sequential 1000000 8,[]) (lostHit.take 6)).1.2 := by decide
  obtain ⟨given,same,-⟩ := (last _ hit).2 9 none (by decide)
  cases same

end MiniPP.Proxy
