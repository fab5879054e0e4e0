import MiniPP.Proxy.AuthAnswers

/-! The auth cache is an auth table: every operation of the manager is a path of the
table's steps. -/
namespace MiniPP.Proxy

open Function (update)

variable {keys : KeySource}

namespace AuthCacheManager

def view (s : AuthCacheManager keys) : AuthTable where
  now := s.ticker
  reconfirm := s.reconfirmTimePointMS
  request := s.requestPool.find?
  node := s.authCacheNodePool.find?
  byKey := s.findKey
  used := s.authCacheLRUList
  asked := s.authCacheUpdateList
  dispatch := s.dispatchResultList
  requestIds := s.requestPool.Issued
  nodeIds := s.authCacheNodePool.Issued

theorem modify_eq_update {α : Type} (pool : Storage keys α) (id : Nat) (f : α → α) {value : α}
    (found : pool.find? id = some value) :
    (pool.modify id f).find? = update pool.find? id (some (f value)) := by
  funext other
  rw [Storage.find?_modify,Function.update_apply,found]
  rfl

theorem release_eq_update {α : Type} (pool : Storage keys α) (id : Nat) :
    (pool.release id).find? = update pool.find? id none := by
  funext other
  rw [Storage.find?_release,Function.update_apply]

theorem acquire_eq_update {α : Type} {pool pool' : Storage keys α} {value : Nat → α} {id : Nat}
    (acquired : pool.acquire value = some (id,pool')) :
    pool'.find? = update pool.find? id (some (value id)) ∧
      pool'.Issued = fun other => other = id ∨ pool.Issued other := by
  constructor
  · funext other
    rw [Storage.find?_acquire acquired,Function.update_apply]
  · funext other
    exact propext (Storage.issued_acquire acquired other)

theorem findKey_cons (s : AuthCacheManager keys) (key : Bytes) (id : Nat) :
    { s with authMap := (key,id) :: s.authMap }.findKey = update s.findKey key (some id) := by
  funext other
  rw [Function.update_apply]
  unfold findKey
  rw [List.find?_cons]
  by_cases same : other = key
  · simp [same]
  · have : (key == other) = false := by simpa using Ne.symm same
    simp [same,this]

theorem findKey_erase (map : List (Bytes × Nat)) (key other : Bytes) :
    ((map.filter (fun entry => !(entry.1 == key))).find? (fun entry => entry.1 == other)).map Prod.snd =
      if other = key then none
      else (map.find? (fun entry => entry.1 == other)).map Prod.snd := by
  induction map with
  | nil => simp
  | cons entry map ih =>
    by_cases same : entry.1 = key
    · rw [List.filter_cons_of_neg (by simp [same]),ih]
      by_cases here : other = key
      · simp [here]
      · have : (entry.1 == other) = false := by simpa [same] using Ne.symm here
        simp [here,this]
    · rw [List.filter_cons_of_pos (by simp [same]),List.find?_cons]
      by_cases here : entry.1 = other
      · have : other ≠ key := fun h => same (here.trans h)
        simp [here,this]
      · have : (entry.1 == other) = false := by simpa using here
        simpa [this] using ih

theorem view_release (s : AuthCacheManager keys) (id : Nat) (node : AuthCacheNode) :
    (s.releaseCacheNode id node).1.view = s.view.drop id node := by
  unfold view releaseCacheNode AuthTable.drop
  simp only [release_eq_update,AuthTable.mk.injEq,true_and]
  constructor
  · funext other
    rw [Function.update_apply]
    exact findKey_erase s.authMap node.userPass other
  · rfl

/-- The asserts of `ReleaseCacheNode` hold. -/
theorem release_silent {s : AuthCacheManager keys} (linked : AuthTable.Linked s.view) {id : Nat}
    {node : AuthCacheNode} (found : s.authCacheNodePool.find? id = some node) :
    (s.releaseCacheNode id node).2 = [] := by
  have mapped : s.findKey node.userPass = some id := linked.mapped id node found
  simp [releaseCacheNode,mapped]

theorem attach_actions (s : AuthCacheManager keys) (rid id : Nat) (node : AuthCacheNode)
    (key : Bytes) :
    (s.attachRequest rid id node key).2 =
      if node.lastUpdateTimestampMS ≤ s.reconfirmTimePointMS then [.query id key] else [] := by
  unfold attachRequest performAuthRequest setNode
  cases node.result.ready
  all_goals
    dsimp only
    by_cases renew : node.lastUpdateTimestampMS ≤ s.reconfirmTimePointMS
    all_goals simp [renew]

theorem view_attach (s : AuthCacheManager keys) (rid id : Nat) (node : AuthCacheNode) (key : Bytes)
    (r : AuthRequestNode) (found : s.authCacheNodePool.find? id = some node)
    (request : s.requestPool.find? rid = some r) :
    (s.attachRequest rid id node key).1.view = { s.view with
      request := update s.view.request rid (some { r with cacheNodeId := id })
      node := update s.view.node id (some { node with
        lastUsedTimestampMS := s.ticker
        lastUpdateTimestampMS :=
          if node.lastUpdateTimestampMS ≤ s.reconfirmTimePointMS then s.ticker
          else node.lastUpdateTimestampMS
        requestList := if node.result.ready then node.requestList else node.requestList ++ [rid] })
      used := toTail s.view.used id
      asked := if node.lastUpdateTimestampMS ≤ s.reconfirmTimePointMS then toTail s.view.asked id
        else s.view.asked
      dispatch := if node.result.ready then s.view.dispatch ++ [rid] else s.view.dispatch } := by
  have requests := modify_eq_update s.requestPool rid (fun r => { r with cacheNodeId := id }) request
  have nodes (f : AuthCacheNode → AuthCacheNode) (other : Nat) :
      (s.authCacheNodePool.modify id f).find? other =
        if other = id then some (f node) else s.authCacheNodePool.find? other := by
    rw [Storage.find?_modify,found]
    rfl
  unfold attachRequest performAuthRequest hitCache setNode view
  cases ready : node.result.ready
  all_goals
    dsimp only
    by_cases renew : node.lastUpdateTimestampMS ≤ s.reconfirmTimePointMS
    all_goals simp only [renew,if_true,if_false,Bool.false_eq_true,AuthTable.mk.injEq,true_and]
    all_goals refine ⟨requests,?_,rfl,rfl,rfl⟩
    all_goals funext other
    all_goals rw [Function.update_apply]
    all_goals simp only [Storage.find?_modify,nodes,found]
    all_goals by_cases same : other = id
    all_goals simp [same]

/-- A call is logged first, under its own arguments. -/
theorem requestAuth_actions (s : AuthCacheManager keys) (source : Nat) (key : Bytes) :
    ∃ rid rest, (s.requestAuth source key).2 = .requestAuth source key s.ticker rid :: rest ∧
      ∀ a ∈ rest, (∃ id, a = .query id key) ∨ a = .assertFailed := by
  have attached (s : AuthCacheManager keys) (rid id : Nat) (node : AuthCacheNode) :
      ∀ a ∈ (s.attachRequest rid id node key).2, (∃ id, a = .query id key) ∨ a = .assertFailed := by
    rw [attach_actions]
    split <;> simp
  unfold requestAuth
  split
  · split
    · exact ⟨_,_,rfl,by simp⟩
    · dsimp only
      split
      · split
        · exact ⟨_,_,rfl,by simp⟩
        · exact ⟨_,_,rfl,attached _ _ _ _⟩
      · split
        · exact ⟨_,_,rfl,by simp⟩
        · exact ⟨_,_,rfl,attached _ _ _ _⟩
  · exact ⟨_,_,rfl,by simp⟩

/-- Everything an acquired node changes. -/
theorem acquireCacheNode_spec {s s' : AuthCacheManager keys} {key : Bytes} {id : Nat}
    (acquired : s.acquireCacheNode key = some (id,s')) :
    s'.view = { s.view with
      node := update s.view.node id (some { userPass := key })
      byKey := update s.view.byKey key (some id)
      nodeIds := fun other => other = id ∨ s.view.nodeIds other } ∧
    s'.requestPool = s.requestPool ∧ ¬ s.view.nodeIds id ∧ id ≠ 0 := by
  unfold acquireCacheNode at acquired
  split at acquired
  · cases acquired
  · rename_i id' pool given
    obtain ⟨rfl,rfl⟩ := Prod.mk.inj (Option.some.inj acquired)
    obtain ⟨nodes,issued⟩ := acquire_eq_update given
    have fresh := (Storage.acquired_fresh given).2
    obtain ⟨key',-⟩ := Storage.acquire_spec given
    refine ⟨?_,rfl,fresh,key' ▸ Storage.nextKey_ne_zero _⟩
    unfold view
    simp only [AuthTable.mk.injEq,true_and]
    exact ⟨nodes,findKey_cons _ _ _,issued⟩

/-- Attaching the request, once the pools hold the request and its node, places it. -/
theorem attach_placed {s : AuthCacheManager keys} (t : AuthTable) (source rid id : Nat)
    (node : AuthCacheNode) (key : Bytes)
    (held : s.view = { t with
      request := update t.request rid (some { requestTimestamp := t.now, requestSourceId := source })
      requestIds := fun other => other = rid ∨ t.requestIds other
      node := update t.node id (some node)
      nodeIds := fun other => other = id ∨ t.nodeIds other
      byKey := update t.byKey key (some id) }) :
    (s.attachRequest rid id node key).1.view = t.place source rid id node key ∧
      (s.attachRequest rid id node key).2 =
        if node.lastUpdateTimestampMS ≤ t.reconfirm then [.query id key] else [] := by
  have found : s.authCacheNodePool.find? id = some node := by
    have : s.view.node id = some node := by simp [held]
    exact this
  have request : s.requestPool.find? rid = some
      { requestTimestamp := t.now, requestSourceId := source } := by
    have : s.view.request rid = some { requestTimestamp := t.now, requestSourceId := source } := by
      simp [held]
    exact this
  have now : s.ticker = t.now := congrArg AuthTable.now held
  have reconfirm : s.reconfirmTimePointMS = t.reconfirm := congrArg AuthTable.reconfirm held
  constructor
  · rw [view_attach s rid id node key _ found request,held,now,reconfirm]
    simp only [Function.update_idem]
    rfl
  · rw [attach_actions,reconfirm]

/-- The pools once a request was acquired. -/
theorem view_acquired {s : AuthCacheManager keys} {source rid : Nat}
    {pool : Storage keys AuthRequestNode} (acquired : s.requestPool.acquire
      (fun _ => { requestTimestamp := s.ticker, requestSourceId := source }) = some (rid,pool)) :
    ¬ s.view.requestIds rid ∧ { s with requestPool := pool }.view = { s.view with
      request := update s.view.request rid (some
        { requestTimestamp := s.ticker, requestSourceId := source })
      requestIds := fun other => other = rid ∨ s.view.requestIds other } := by
  obtain ⟨requests,issued⟩ := acquire_eq_update acquired
  refine ⟨(Storage.acquired_fresh acquired).2,?_⟩
  unfold view
  rw [requests,issued]
  rfl

/-- A call for a key that has a node: it is placed there, unless it gets no request. -/
theorem requestAuth_known {s : AuthCacheManager keys} {key : Bytes} {id : Nat} {node : AuthCacheNode}
    (mapped : s.findKey key = some id) (found : s.authCacheNodePool.find? id = some node) (source : Nat) :
    ((s.requestAuth source key).1 = s ∧
      (s.requestAuth source key).2 = [.requestAuth source key s.ticker none]) ∨
    ∃ rid, ¬ s.view.requestIds rid ∧
      (s.requestAuth source key).1.view = s.view.place source rid id node key ∧
      (s.requestAuth source key).2 = .requestAuth source key s.ticker (some rid) ::
        if node.lastUpdateTimestampMS ≤ s.reconfirmTimePointMS then [.query id key] else [] := by
  unfold requestAuth
  split
  · split
    · exact .inl ⟨rfl,rfl⟩
    · rename_i rid pool acquired
      obtain ⟨fresh,given⟩ := view_acquired acquired
      have there : { s with requestPool := pool }.findKey key = some id := mapped
      have nodeIds : s.view.nodeIds = fun other => other = id ∨ s.view.nodeIds other := by
        funext other
        refine propext ⟨.inr,?_⟩
        rintro (rfl | old)
        · exact Storage.issued_of_find? found
        · exact old
      have sameNode : update s.view.node id (some node) = s.view.node :=
        Function.update_eq_self_iff.mpr found.symm
      have sameKey : update s.view.byKey key (some id) = s.view.byKey :=
        Function.update_eq_self_iff.mpr mapped.symm
      have attached := attach_placed (s := { s with requestPool := pool }) s.view source rid id
        node key (by
          rw [given,sameNode,sameKey,← nodeIds]
          rfl)
      simp only [there,found]
      exact .inr ⟨rid,fresh,attached.1,congrArg _ attached.2⟩
  · exact .inl ⟨rfl,rfl⟩

/-- A call of `RequestAuth` is one step. -/
theorem requestAuth_step {s : AuthCacheManager keys} (linked : AuthTable.Linked s.view)
    (source : Nat) (key : Bytes) :
    AuthTable.Step s.view (s.requestAuth source key).2 (s.requestAuth source key).1.view := by
  cases mapped : s.findKey key with
  | some id =>
    obtain ⟨node,found,-⟩ := linked.known key id mapped
    rcases requestAuth_known mapped found source with ⟨same,actions⟩ | ⟨rid,fresh,placed,actions⟩
    · rw [same,actions]
      exact .refused source key
    · rw [placed,actions]
      exact .placed source rid id key node fresh (.inl ⟨found,mapped⟩)
  | none =>
    unfold requestAuth
    split
    · split
      · exact .refused source key
      · rename_i rid pool acquired
        obtain ⟨fresh,given⟩ := view_acquired acquired
        have free : { s with requestPool := pool }.findKey key = none := mapped
        simp only [free]
        split
        · have same : { s with
              requestPool := pool
              dispatchResultList := s.dispatchResultList ++ [rid] }.view =
              { { s with requestPool := pool }.view with dispatch := s.dispatchResultList ++ [rid] } := rfl
          rw [same,given]
          exact .unplaced source rid key fresh
        · rename_i id s' node
          obtain ⟨added,-,new,nonzero⟩ := acquireCacheNode_spec node
          have attached := attach_placed (s := s') s.view source rid id { userPass := key } key (by
            rw [added,given]
            rfl)
          dsimp only
          rw [attached.1,attached.2]
          exact .placed source rid id key _ fresh (.inr ⟨new,nonzero,mapped,rfl⟩)
    · exact .refused source key

theorem onServerPacket_actions (s : AuthCacheManager keys) (id : Nat) (resp : QueryAuthCacheResp) :
    (s.onServerPacket id resp).2 = [.reply id resp] := by
  unfold onServerPacket
  split <;> rfl

/-- A packet of the auth service is one step. -/
theorem onServerPacket_step (s : AuthCacheManager keys) (id : Nat) (resp : QueryAuthCacheResp) :
    AuthTable.Step s.view (s.onServerPacket id resp).2 (s.onServerPacket id resp).1.view := by
  unfold onServerPacket
  split
  · rename_i gone
    exact .ignored id resp gone
  · rename_i node found
    have step := AuthTable.Step.answered (t := s.view) id resp node found
    have nodes (f g : AuthCacheNode → AuthCacheNode) :
        ((s.authCacheNodePool.modify id f).modify id g).find? =
          update s.authCacheNodePool.find? id (some (g (f node))) := by
      have first := modify_eq_update s.authCacheNodePool id f found
      have second : (s.authCacheNodePool.modify id f).find? id = some (f node) := by simp [first]
      rw [modify_eq_update _ id g second,first,Function.update_idem]
    convert step using 1
    unfold view hitCache setNode
    dsimp only
    rw [nodes]
    rfl

/-! ## The three loops of a tick -/

/-- What is first on a list exists. -/
theorem first_asked {s : AuthCacheManager keys} (linked : AuthTable.Linked s.view) {id : Nat} {rest : List Nat}
    (list : s.authCacheUpdateList = id :: rest) : ∃ node, s.authCacheNodePool.find? id = some node :=
  Option.isSome_iff_exists.mp (linked.asked id (by simp [view,list]))

theorem first_used {s : AuthCacheManager keys} (linked : AuthTable.Linked s.view) {id : Nat} {rest : List Nat}
    (list : s.authCacheLRUList = id :: rest) : ∃ node, s.authCacheNodePool.find? id = some node :=
  Option.isSome_iff_exists.mp (linked.used id (by simp [view,list]))

theorem first_dispatched {s : AuthCacheManager keys} (linked : AuthTable.Linked s.view) {rid : Nat}
    {rest : List Nat} (list : s.dispatchResultList = rid :: rest) : ∃ r, s.requestPool.find? rid = some r := by
  obtain ⟨r,found,-⟩ := linked.dispatched rid (by simp [view,list])
  exact ⟨r,found⟩

/-- What holds of the first node of a list, said as a loop that stops there leaves it. -/
theorem head_holds {s : AuthCacheManager keys} {P : AuthCacheNode → Prop} {id : Nat} {list rest : List Nat}
    (head : list = id :: rest) {node : AuthCacheNode} (found : s.authCacheNodePool.find? id = some node)
    (holds : P node) : ∀ other ∈ list.head?, ∀ node', s.authCacheNodePool.find? other = some node' → P node' := by
  rw [head]
  intro other same node' found'
  obtain rfl : id = other := by simpa using same
  rw [found] at found'
  obtain rfl := Option.some.inj found'
  exact holds

theorem expireUpdate_turn {s : AuthCacheManager keys} (linked : AuthTable.Linked s.view) {id : Nat}
    {node : AuthCacheNode} (found : s.authCacheNodePool.find? id = some node)
    (late : node.lastUpdateTimestampMS < sub64 s.ticker authCacheRequestTimeoutMS) :
    AuthTable.Expire s.view (s.expireUpdate id node).2 (s.expireUpdate id node).1.view := by
  refine ⟨id,node,found,late,?_,?_⟩
  · have mapped : s.findKey node.userPass = some id := linked.mapped id node found
    exact if_pos mapped
  · unfold expireUpdate
    rw [view_release]
    unfold AuthTable.drop view setNode
    dsimp only
    rw [modify_eq_update _ id _ found,Function.update_idem]
    rfl

theorem expireUpdates_path {s : AuthCacheManager keys} (linked : AuthTable.Linked s.view) (fuel : Nat) :
    Path AuthTable.Expire s.view (expireUpdates fuel s).2 (expireUpdates fuel s).1.view := by
  induction fuel generalizing s with
  | zero => exact .nil _
  | succ fuel ih =>
    unfold expireUpdates
    split
    · exact .nil _
    · rename_i id rest list
      obtain ⟨node,there⟩ := first_asked linked list
      rw [there]
      dsimp only
      split
      · have turn := expireUpdate_turn linked there ‹_›
        exact .cons turn (ih (AuthTable.linked_step linked (.expired turn)))
      · exact .nil _

/-- A turn of a loop that takes the first of its list away needs one unit of fuel less. -/
theorem length_without_head {list rest : List Nat} {id fuel : Nat} (head : list = id :: rest)
    (enough : list.length ≤ fuel + 1) : (without list id).length ≤ fuel := by
  subst head
  have shorter : (without (id :: rest) id).length ≤ rest.length := by
    unfold without
    rw [List.filter_cons_of_neg (by simp)]
    exact List.length_filter_le _ _
  simp only [List.length_cons] at enough
  omega

/-- The loop stops at an empty list or at a node that is not late. -/
theorem expireUpdates_done {s : AuthCacheManager keys} (linked : AuthTable.Linked s.view) {fuel : Nat}
    (enough : s.authCacheUpdateList.length ≤ fuel) :
    ∀ id ∈ (expireUpdates fuel s).1.authCacheUpdateList.head?, ∀ node,
      (expireUpdates fuel s).1.authCacheNodePool.find? id = some node →
      ¬ node.lastUpdateTimestampMS <
        sub64 (expireUpdates fuel s).1.ticker authCacheRequestTimeoutMS := by
  induction fuel generalizing s with
  | zero =>
    have empty : s.authCacheUpdateList = [] := List.length_eq_zero_iff.mp (by omega)
    simp [expireUpdates,empty]
  | succ fuel ih =>
    unfold expireUpdates
    split
    · rename_i empty
      simp [empty]
    · rename_i id rest list
      obtain ⟨node,there⟩ := first_asked linked list
      rw [there]
      dsimp only
      split
      · have turn := expireUpdate_turn linked there ‹_›
        apply ih (AuthTable.linked_step linked (.expired turn))
        exact length_without_head list enough
      · rename_i fresh
        exact head_holds list there fresh

theorem expireUnused_turn {s : AuthCacheManager keys} (linked : AuthTable.Linked s.view) {id : Nat}
    {node : AuthCacheNode} (found : s.authCacheNodePool.find? id = some node)
    (unused : node.lastUsedTimestampMS < sub64 s.ticker authCacheNodeTimeoutMS) :
    AuthTable.Evict s.view (s.expireUnused id node).2 (s.expireUnused id node).1.view := by
  refine ⟨id,node,found,unused,?_,view_release s id node⟩
  unfold expireUnused
  simp [release_silent linked found]

theorem expireLRU_path {s : AuthCacheManager keys} (linked : AuthTable.Linked s.view) (fuel : Nat) :
    Path AuthTable.Evict s.view (expireLRU fuel s).2 (expireLRU fuel s).1.view := by
  induction fuel generalizing s with
  | zero => exact .nil _
  | succ fuel ih =>
    unfold expireLRU
    split
    · exact .nil _
    · rename_i id rest list
      obtain ⟨node,there⟩ := first_used linked list
      rw [there]
      dsimp only
      split
      · have turn := expireUnused_turn linked there ‹_›
        exact .cons turn (ih (AuthTable.linked_step linked (.evicted turn)))
      · exact .nil _

theorem dispatchResult_turn {s : AuthCacheManager keys} {rid : Nat} {r : AuthRequestNode}
    (found : s.requestPool.find? rid = some r) (listed : rid ∈ s.dispatchResultList) :
    AuthTable.Dispatch s.view (s.dispatchResult rid r).2 (s.dispatchResult rid r).1.view := by
  refine ⟨rid,r,found,listed,rfl,?_⟩
  unfold dispatchResult view
  dsimp only
  rw [release_eq_update]
  rfl

theorem dispatchResults_path {s : AuthCacheManager keys} (linked : AuthTable.Linked s.view)
    (fuel : Nat) :
    Path AuthTable.Dispatch s.view (dispatchResults fuel s).2 (dispatchResults fuel s).1.view := by
  induction fuel generalizing s with
  | zero => exact .nil _
  | succ fuel ih =>
    unfold dispatchResults
    split
    · exact .nil _
    · rename_i rid rest list
      have listed : rid ∈ s.dispatchResultList := by simp [list]
      obtain ⟨r,there⟩ := first_dispatched linked list
      have turn := dispatchResult_turn there listed
      rw [there]
      dsimp only
      exact .cons turn (ih (AuthTable.linked_step linked (.dispatched turn)))

theorem dispatchResults_done {s : AuthCacheManager keys} (linked : AuthTable.Linked s.view)
    {fuel : Nat} (enough : s.dispatchResultList.length ≤ fuel) :
    (dispatchResults fuel s).1.dispatchResultList = [] := by
  induction fuel generalizing s with
  | zero => exact List.length_eq_zero_iff.mp (by simpa [dispatchResults] using enough)
  | succ fuel ih =>
    unfold dispatchResults
    split
    · rename_i empty
      exact empty
    · rename_i rid rest list
      have listed : rid ∈ s.dispatchResultList := by simp [list]
      obtain ⟨r,there⟩ := first_dispatched linked list
      have turn := dispatchResult_turn there listed
      rw [there]
      dsimp only
      apply ih (AuthTable.linked_step linked (.dispatched turn))
      exact length_without_head list enough

/-- The manager when the clock has moved and the loops are still to run. -/
def clocked (s : AuthCacheManager keys) (nowMS : Nat) : AuthCacheManager keys :=
  { s with
    ticker := nowMS
    reconfirmTimePointMS := sub64 nowMS authCacheReconfirmTimeoutMS }

/-- A tick moves the clock and runs the three loops, each to its end. -/
structure Ticked (s : AuthCacheManager keys) (nowMS : Nat) (late old results : List AuthAction)
    (expired unused s' : AuthCacheManager keys) : Prop where
  expires : Path AuthTable.Expire (s.clocked nowMS).view late expired.view
  evicts : Path AuthTable.Evict expired.view old unused.view
  dispatches : Path AuthTable.Dispatch unused.view results s'.view
  fresh : ∀ id ∈ expired.authCacheUpdateList.head?, ∀ node,
    expired.authCacheNodePool.find? id = some node →
      ¬ node.lastUpdateTimestampMS < sub64 expired.ticker authCacheRequestTimeoutMS
  done : s'.dispatchResultList = []

end AuthCacheManager

namespace AuthTable

theorem linked_path {t t' : AuthTable} {out : List AuthAction}
    {step : AuthTable → List AuthAction → AuthTable → Prop} (weaker : ∀ t out t', step t out t' → Step t out t')
    (linked : Linked t) (path : Path step t out t') : Linked t' := by
  apply path.keeps (I := Linked) ?_ linked
  intro t out t' step linked
  exact linked_step linked (weaker t out t' step)

end AuthTable

namespace AuthCacheManager

def afterExpiry (s : AuthCacheManager keys) (nowMS : Nat) : AuthCacheManager keys :=
  (expireUpdates s.authCacheUpdateList.length (s.clocked nowMS)).1

def afterEviction (s : AuthCacheManager keys) (nowMS : Nat) : AuthCacheManager keys :=
  (expireLRU (s.afterExpiry nowMS).authCacheLRUList.length (s.afterExpiry nowMS)).1

theorem afterExpiry_path {s : AuthCacheManager keys} (linked : AuthTable.Linked s.view) (nowMS : Nat) :
    Path AuthTable.Expire (s.clocked nowMS).view
      (expireUpdates s.authCacheUpdateList.length (s.clocked nowMS)).2 (s.afterExpiry nowMS).view :=
  expireUpdates_path (s := s.clocked nowMS) (AuthTable.linked_step linked (.tick nowMS)) _

theorem linked_afterExpiry {s : AuthCacheManager keys} (linked : AuthTable.Linked s.view) (nowMS : Nat) :
    AuthTable.Linked (s.afterExpiry nowMS).view :=
  AuthTable.linked_path (fun _ _ _ => .expired) (AuthTable.linked_step linked (.tick nowMS))
    (afterExpiry_path linked nowMS)

theorem afterEviction_path {s : AuthCacheManager keys} (linked : AuthTable.Linked s.view) (nowMS : Nat) :
    Path AuthTable.Evict (s.afterExpiry nowMS).view
      (expireLRU (s.afterExpiry nowMS).authCacheLRUList.length (s.afterExpiry nowMS)).2
      (s.afterEviction nowMS).view :=
  expireLRU_path (linked_afterExpiry linked nowMS) _

theorem linked_afterEviction {s : AuthCacheManager keys} (linked : AuthTable.Linked s.view) (nowMS : Nat) :
    AuthTable.Linked (s.afterEviction nowMS).view :=
  AuthTable.linked_path (fun _ _ _ => .evicted) (linked_afterExpiry linked nowMS)
    (afterEviction_path linked nowMS)

theorem onTick_ticked {s : AuthCacheManager keys} (linked : AuthTable.Linked s.view) (nowMS : Nat) :
    ∃ late old results expired unused, (s.onTick nowMS).2 = late ++ old ++ results ∧
      Ticked s nowMS late old results expired unused (s.onTick nowMS).1 := by
  have clocked : AuthTable.Linked (s.clocked nowMS).view := AuthTable.linked_step linked (.tick nowMS)
  have unused := linked_afterEviction linked nowMS
  refine ⟨_,_,_,s.afterExpiry nowMS,s.afterEviction nowMS,rfl,?_⟩
  constructor
  · exact afterExpiry_path linked nowMS
  · exact afterEviction_path linked nowMS
  · exact dispatchResults_path unused _
  · exact expireUpdates_done clocked (Nat.le_refl _)
  · exact dispatchResults_done unused (Nat.le_refl _)

/-- What all three loops keep. -/
theorem Ticked.keeps {I : AuthTable → Prop} {s s' expired unused : AuthCacheManager keys} {nowMS : Nat}
    {late old results : List AuthAction} (ticked : Ticked s nowMS late old results expired unused s')
    (clocked : I (s.clocked nowMS).view) (expire : ∀ t out t', AuthTable.Expire t out t' → I t → I t')
    (evict : ∀ t out t', AuthTable.Evict t out t' → I t → I t')
    (dispatch : ∀ t out t', AuthTable.Dispatch t out t' → I t → I t') : I s'.view := by
  have first : I expired.view := ticked.expires.keeps expire clocked
  have second : I unused.view := ticked.evicts.keeps evict first
  exact ticked.dispatches.keeps dispatch second

theorem onTick_ticker {s : AuthCacheManager keys} (linked : AuthTable.Linked s.view) (nowMS : Nat) :
    (s.onTick nowMS).1.ticker = nowMS := by
  obtain ⟨late,old,results,expired,unused,-,ticked⟩ := onTick_ticked linked nowMS
  apply ticked.keeps (I := fun t => t.now = nowMS)
  · rfl
  · rintro t out t' ⟨_,_,_,_,_,rfl⟩ now
    exact now
  · rintro t out t' ⟨_,_,_,_,_,rfl⟩ now
    exact now
  · rintro t out t' ⟨_,_,_,_,_,rfl⟩ now
    exact now

/-- A tick only answers requests. -/
theorem onTick_actions {s : AuthCacheManager keys} (linked : AuthTable.Linked s.view) (nowMS : Nat) :
    ∀ a ∈ (s.onTick nowMS).2, (∃ rid source verdict, a = .result rid source verdict) ∨
      a = .assertFailed := by
  let Answer (a : AuthAction) : Prop :=
    (∃ rid source verdict, a = .result rid source verdict) ∨ a = .assertFailed
  obtain ⟨late,old,results,expired,unused,split,ticked⟩ := onTick_ticked linked nowMS
  have first : ∀ a ∈ late, Answer a := ticked.expires.forall_mem (by
    rintro t out t' ⟨_,_,_,_,rfl,_⟩
    simp)
  have second : ∀ a ∈ old, Answer a := ticked.evicts.forall_mem (by
    rintro t out t' ⟨_,_,_,_,rfl,_⟩
    split <;> simp [Answer])
  have third : ∀ a ∈ results, Answer a := ticked.dispatches.forall_mem (by
    rintro t out t' ⟨_,_,_,_,rfl,_⟩
    simp [Answer])
  intro a member
  rw [split] at member
  rcases List.mem_append.mp member with member | member
  · rcases List.mem_append.mp member with member | member
    · exact first a member
    · exact second a member
  · exact third a member

theorem onTick_path {s : AuthCacheManager keys} (linked : AuthTable.Linked s.view) (nowMS : Nat) :
    Path AuthTable.Step s.view (s.onTick nowMS).2 (s.onTick nowMS).1.view := by
  obtain ⟨late,old,results,expired,unused,split,ticked⟩ := onTick_ticked linked nowMS
  rw [split]
  have clock : Path AuthTable.Step s.view [] (s.clocked nowMS).view := .single (.tick nowMS)
  have expires := ticked.expires.mono (fun _ _ _ => AuthTable.Step.expired)
  have evicts := ticked.evicts.mono (fun _ _ _ => AuthTable.Step.evicted)
  have dispatches := ticked.dispatches.mono (fun _ _ _ => AuthTable.Step.dispatched)
  exact ((clock.append expires).append evicts).append dispatches

end AuthCacheManager

theorem authStep_path {s : AuthCacheManager keys} (linked : AuthTable.Linked s.view) (e : AuthEvent) :
    Path AuthTable.Step s.view ((authMachine keys).step s e).2 ((authMachine keys).step s e).1.view := by
  cases e with
  | requestAuth source key => exact .single (s.requestAuth_step linked source key)
  | serverPacket id resp => exact .single (s.onServerPacket_step id resp)
  | tick nowMS => exact s.onTick_path linked nowMS

theorem linked_init (ticker cachePoolSize : Nat) :
    AuthTable.Linked (AuthCacheManager.init keys ticker cachePoolSize).view := by
  constructor <;> simp [AuthCacheManager.view,AuthCacheManager.init,AuthCacheManager.findKey]

theorem recorded_init (ticker cachePoolSize : Nat) :
    AuthTable.Recorded (AuthCacheManager.init keys ticker cachePoolSize).view [] := by
  constructor <;> simp [AuthCacheManager.view,AuthCacheManager.init,accepted,answers]

/-- The cache stays linked and recorded, whatever is asked of it and whenever. -/
theorem auth_invariant {s : AuthCacheManager keys} {log : List AuthAction}
    {ok : AuthCacheManager keys → List AuthAction → AuthEvent → Prop}
    (reach : (authMachine keys).Reach ok s log) : AuthTable.Linked s.view ∧ AuthTable.Recorded s.view log := by
  apply reach.invariant (I := fun s log => AuthTable.Linked s.view ∧ AuthTable.Recorded s.view log)
  · rintro _ ⟨ticker,cachePoolSize,rfl⟩
    exact ⟨linked_init ticker cachePoolSize,recorded_init ticker cachePoolSize⟩
  · intro s log e _ _ valid
    refine (authStep_path valid.1 e).invariant (I := fun t log => AuthTable.Linked t ∧ AuthTable.Recorded t log)
      ?_ valid
    intro t out t' log step valid
    exact ⟨AuthTable.linked_step valid.1 step,AuthTable.recorded_step valid.2 valid.1 step⟩

end MiniPP.Proxy
