import MiniPP.Coalescing.Contract

/-! Which requests the cache serves as it should: one step at a time, and for whole runs. -/
namespace MiniPP.Coalescing

variable {keys : KeySource} {κ γ δ : Type} [DecidableEq κ] {m : CacheManager keys κ γ δ}
  {log out : List (CacheAction κ γ δ)} {id : Nat} {node : CacheNode κ γ δ}

/-! ## What the calls do with a node -/

omit [DecidableEq κ] in
theorem setResultData_eq (here : m.cacheNodePool.find? id = some node) (data : Option δ) :
    m.setResultData id data =
      (m.popRequests id (fun node => { node with dataPtr := data, state := .result }) node,
        releases node.cacheNodeId node.dataPtr ++
          .stored node.key data :: replies node.pendingRequestList data) := by
  rw [CacheManager.setResultData,here]
  rfl

omit [DecidableEq κ] in
theorem releaseCacheNode_eq (here : m.cacheNodePool.find? id = some node) :
    m.releaseCacheNode id = (m.popRequests id (fun node => node) node,
      replies node.pendingRequestList none ++ releases node.cacheNodeId node.dataPtr) := by
  rw [CacheManager.releaseCacheNode,here]
  rfl

/-- The pool when the query for one more request was accepted. -/
def pushRequest (m : CacheManager keys κ γ δ) (id : Nat) (context : γ) : CacheManager keys κ γ δ :=
  { m with
    cacheNodePool := m.cacheNodePool.modify id (fun node =>
      { node with pendingRequestList := node.pendingRequestList ++ [context] })
    cacheRequestsInUse := m.cacheRequestsInUse + 1 }

section RequestFrom

variable (here : m.cacheNodePool.find? id = some node) (fresh : node.state = .init) (key : κ) (context : γ)
include here fresh

omit [DecidableEq κ] in
theorem requestFrom_full (accepted : Bool) (full : m.cacheRequestPoolSize ≤ m.cacheRequestsInUse) :
    m.requestFrom id key context accepted = (m,[.onResultData context none]) := by
  rw [CacheManager.requestFrom,here]
  dsimp only
  rw [if_neg (by rw [fresh]; decide),if_pos full]

omit [DecidableEq κ] in
theorem requestFrom_accepted (room : ¬ m.cacheRequestPoolSize ≤ m.cacheRequestsInUse) :
    m.requestFrom id key context true =
      (pushRequest m id context,[.makeAsyncQuery node.cacheNodeId key true]) := by
  rw [CacheManager.requestFrom,here]
  dsimp only
  rw [if_neg (by rw [fresh]; decide),if_neg room,if_neg (by rw [fresh]; decide)]
  rfl

omit [DecidableEq κ] in
/-- The refused request gets its answer with the others that waited. -/
theorem requestFrom_refused (room : ¬ m.cacheRequestPoolSize ≤ m.cacheRequestsInUse)
    (named : node.cacheNodeId = id) : m.requestFrom id key context false =
      (m.popRequests id (fun node => { node with dataPtr := none, state := .result }) node,
        .makeAsyncQuery node.cacheNodeId key false :: (releases node.cacheNodeId node.dataPtr ++
          .stored node.key none :: replies (node.pendingRequestList ++ [context]) none)) := by
  have pushed : (pushRequest m id context).cacheNodePool.find? id =
      some { node with pendingRequestList := node.pendingRequestList ++ [context] } := by
    rw [pushRequest,Storage.find?_modify,if_pos rfl,here]
    rfl
  have result := setResultData_eq pushed none
  have same : (pushRequest m id context).popRequests id
      (fun node => { node with dataPtr := none, state := .result })
      { node with pendingRequestList := node.pendingRequestList ++ [context] } =
        m.popRequests id (fun node => { node with dataPtr := none, state := .result }) node := by
    simp only [CacheManager.popRequests,pushRequest,Storage.modify_modify,List.length_append,
      List.length_singleton,Nat.add_sub_add_right]
  rw [same] at result
  rw [CacheManager.requestFrom,here]
  dsimp only
  rw [if_neg (by rw [fresh]; decide),if_neg room,if_neg (by rw [fresh]; decide),if_pos (by rfl),named]
  change (((pushRequest m id context).setResultData id none).1,_ ::
    ((pushRequest m id context).setResultData id none).2) = _
  rw [result]
  dsimp only
  rw [named]

end RequestFrom

/-! ## Longer logs -/

def IsPost : CacheAction κ γ δ → Prop
  | .posted _ _ => True
  | _ => False

def IsQuery : CacheAction κ γ δ → Prop
  | .makeAsyncQuery _ _ _ => True
  | _ => False

/-- What was posted finds its answer behind it. -/
def Hits (log : List (CacheAction κ γ δ)) : Prop :=
  ∀ before key context after data, log = before ++ .posted key context :: after →
    storedResult before key = some data → ∃ rest, after = .onResultData context data :: rest

def Queries (log : List (CacheAction κ γ δ)) : Prop :=
  Log.Always (fun before action => ∀ id key accepted,
    action = .makeAsyncQuery id key accepted → outstanding before key = false) log

theorem Hits.append (hits : Hits log) (none : ∀ a ∈ out, ¬ IsPost a) : Hits (log ++ out) := by
  intro before key context after data split stored
  rcases List.append_eq_append_iff.mp split with ⟨middle,rfl,rest⟩ | ⟨middle,rfl,rest⟩
  · exact (none (.posted key context) (by rw [rest]; simp) trivial).elim
  · cases middle with
    | nil =>
      rw [List.nil_append] at rest
      exact (none (.posted key context) (by rw [← rest]; simp) trivial).elim
    | cons a middle =>
      simp only [List.cons_append,List.cons.injEq] at rest
      obtain ⟨rfl,rfl⟩ := rest
      obtain ⟨later,answered⟩ := hits before key context middle data rfl stored
      exact ⟨later ++ out,by rw [answered,List.cons_append]⟩

theorem Hits.post (hits : Hits log) {key : κ} {context : γ} (none : ∀ a ∈ out, ¬ IsPost a)
    (answered : ∀ data, storedResult log key = some data → ∃ rest, out = .onResultData context data :: rest) :
    Hits (log ++ .posted key context :: out) := by
  intro before other context' after data split stored
  rcases List.append_eq_append_iff.mp split with ⟨middle,rfl,rest⟩ | ⟨middle,rfl,rest⟩
  · cases middle with
    | nil =>
      simp only [List.nil_append,List.cons.injEq,CacheAction.posted.injEq] at rest
      obtain ⟨⟨rfl,rfl⟩,rfl⟩ := rest
      rw [List.append_nil] at stored
      exact answered data stored
    | cons a middle =>
      simp only [List.cons_append,List.cons.injEq] at rest
      exact (none (.posted other context') (by rw [rest.2]; simp) trivial).elim
  · cases middle with
    | nil =>
      simp only [List.nil_append,List.cons.injEq,CacheAction.posted.injEq] at rest
      obtain ⟨⟨rfl,rfl⟩,rfl⟩ := rest
      exact answered data (by simpa using stored)
    | cons a middle =>
      simp only [List.cons_append,List.cons.injEq] at rest
      obtain ⟨rfl,rfl⟩ := rest
      obtain ⟨later,found⟩ := hits before other context' middle data rfl stored
      exact ⟨_,by rw [found,List.cons_append]⟩

theorem Queries.append (queries : Queries log) (none : ∀ a ∈ out, ¬ IsQuery a) : Queries (log ++ out) := by
  refine Log.always_append.mpr ⟨queries,Log.always_of_mem fun a member before id key accepted same => ?_⟩
  rw [same] at member
  exact (none _ member trivial).elim

theorem outstanding_posted (key : κ) (context : γ) :
    outstanding (log ++ [.posted key context]) = outstanding log :=
  (histories_inert _ (fun a member => by rw [List.mem_singleton.mp member]; exact inert_posted _ _)).1

/-- A query is made behind a request. -/
theorem Queries.post (queries : Queries log) {key : κ} (quiet : outstanding log key = false) {context : γ}
    {accepted : Bool} (none : ∀ a ∈ out, ¬ IsQuery a) :
    Queries (log ++ .posted key context :: .makeAsyncQuery id key accepted :: out) := by
  have posted : Queries (log ++ [.posted key context]) :=
    queries.append (fun a member => by rw [List.mem_singleton.mp member]; exact fun h => h)
  have asked : Queries (log ++ [.posted key context] ++ [.makeAsyncQuery id key accepted]) := by
    refine Log.always_append.mpr ⟨posted,Log.always_cons.mpr ⟨?_,Log.always_nil _⟩⟩
    intro id' key' accepted' same
    cases same
    rw [List.append_nil,outstanding_posted]
    exact quiet
  have all := asked.append none
  simpa using all

omit [DecidableEq κ] in
theorem quiet_replies (waiting : List γ) (data : Option δ) :
    ∀ a ∈ (replies waiting data : List (CacheAction κ γ δ)), ¬ IsPost a ∧ ¬ IsQuery a := by
  intro a member
  obtain ⟨context,-,rfl⟩ := List.mem_map.mp member
  exact ⟨fun h => h,fun h => h⟩

omit [DecidableEq κ] in
theorem quiet_releases (id : Nat) (data : Option δ) :
    ∀ a ∈ (releases id data : List (CacheAction κ γ δ)), ¬ IsPost a ∧ ¬ IsQuery a := by
  intro a member
  obtain ⟨old,-,rfl⟩ := List.mem_map.mp member
  exact ⟨fun h => h,fun h => h⟩

/-! ## One step -/

abbrev GoodAt (m : CacheManager keys κ γ δ) (log : List (CacheAction κ γ δ)) : Prop :=
  Good m (outstanding log) (storedResult log)

theorem contract_of (good : GoodAt m log)
    (once : (log.filterMap posts).Perm (log.filterMap answers ++ pending m)) (hits : Hits log)
    (queries : Queries log) : Contract m log :=
  ⟨once,good.waits,hits,queries⟩

omit [DecidableEq κ] in
/-- The requests of a node are answered, whoever else waits. -/
theorem once_popRequests (here : m.cacheNodePool.find? id = some node)
    {f : CacheNode κ γ δ → CacheNode κ γ δ}
    (cleared : ∀ node : CacheNode κ γ δ, (f node).pendingRequestList = node.pendingRequestList)
    {asked answered : List γ} (once : asked.Perm (answered ++ pending m)) :
    asked.Perm (answered ++ node.pendingRequestList ++ pending (m.popRequests id f node)) := by
  have before := pending_perm here
  have after := pending_modify here (fun node => f { node with pendingRequestList := [] })
    (m.cacheRequestsInUse - node.pendingRequestList.length)
  rw [cleared,List.nil_append] at after
  refine once.trans ?_
  rw [List.append_assoc]
  exact (before.trans (after.symm.append_left _)).append_left _

omit [DecidableEq κ] in
theorem quiet_result (id : Nat) (key : κ) (old data : Option δ) (waiting : List γ) :
    ∀ a ∈ (releases id old ++ .stored key data :: replies waiting data : List (CacheAction κ γ δ)),
      ¬ IsPost a ∧ ¬ IsQuery a := by
  intro a member
  rcases List.mem_append.mp member with released | member
  · exact quiet_releases id old a released
  rcases List.mem_cons.mp member with rfl | replied
  · exact ⟨fun h => h,fun h => h⟩
  · exact quiet_replies waiting data a replied

omit [DecidableEq κ] in
theorem filterMap_result (id : Nat) (key : κ) (old data : Option δ) (waiting : List γ) :
    (releases id old ++ .stored key data :: replies waiting data : List (CacheAction κ γ δ)).filterMap posts = [] ∧
      (releases id old ++ .stored key data :: replies waiting data : List (CacheAction κ γ δ)).filterMap answers =
        waiting := by
  obtain ⟨posts₁,answers₁⟩ := filterMap_releases (κ := κ) (γ := γ) id old
  obtain ⟨posts₂,answers₂⟩ := filterMap_replies (κ := κ) waiting data
  constructor
  · rw [List.filterMap_append,posts₁,List.nil_append,List.filterMap_cons,posts₂]
    rfl
  · rw [List.filterMap_append,answers₁,List.nil_append,List.filterMap_cons,answers₂]
    rfl

omit [DecidableEq κ] in
theorem once_append {asked answered waiting : List γ} (ask : out.filterMap posts = asked)
    (answer : out.filterMap answers = answered)
    (once : (log.filterMap posts ++ asked).Perm (log.filterMap answers ++ answered ++ waiting)) :
    ((log ++ out).filterMap posts).Perm ((log ++ out).filterMap answers ++ waiting) := by
  rw [List.filterMap_append,List.filterMap_append,ask,answer]
  exact once

/-- Nothing is posted, and whoever was waiting is answered. -/
theorem step_setResultData (good : GoodAt m log) (contract : Contract m log) (id : Nat) (data : Option δ) :
    GoodAt (m.setResultData id data).1 (log ++ (m.setResultData id data).2) ∧
      Contract (m.setResultData id data).1 (log ++ (m.setResultData id data).2) := by
  cases here : m.cacheNodePool.find? id with
  | none =>
    have nothing : m.setResultData id data = (m,[]) := by rw [CacheManager.setResultData,here]
    rw [nothing,List.append_nil]
    exact ⟨good,contract⟩
  | some node =>
    rw [setResultData_eq here]
    dsimp only
    obtain ⟨waits,results⟩ := histories_stored log node.key
      (inert_releases node.cacheNodeId node.dataPtr) (inert_replies node.pendingRequestList data) data
    have after := good_result good here data
    rw [← waits,← results] at after
    have quiet := quiet_result node.cacheNodeId node.key node.dataPtr data node.pendingRequestList
    obtain ⟨asked,answered⟩ :=
      filterMap_result node.cacheNodeId node.key node.dataPtr data node.pendingRequestList
    refine ⟨after,contract_of after ?_ ?_ ?_⟩
    · refine once_append asked answered ?_
      rw [List.append_nil]
      exact once_popRequests here
        (f := fun node => { node with dataPtr := data, state := .result }) (fun _ => rfl) contract.once
    · exact Hits.append contract.hits (fun a member => (quiet a member).1)
    · exact Queries.append contract.queries (fun a member => (quiet a member).2)

theorem step_releaseCacheNode (good : GoodAt m log) (contract : Contract m log) (id : Nat) :
    GoodAt (m.releaseCacheNode id).1 (log ++ (m.releaseCacheNode id).2) ∧
      Contract (m.releaseCacheNode id).1 (log ++ (m.releaseCacheNode id).2) := by
  cases here : m.cacheNodePool.find? id with
  | none =>
    have nothing : m.releaseCacheNode id = (m,[]) := by rw [CacheManager.releaseCacheNode,here]
    rw [nothing,List.append_nil]
    exact ⟨good,contract⟩
  | some node =>
    rw [releaseCacheNode_eq here]
    dsimp only
    have inert : ∀ a ∈ (replies node.pendingRequestList none ++
        releases node.cacheNodeId node.dataPtr : List (CacheAction κ γ δ)), Inert a := fun a member =>
      (List.mem_append.mp member).elim (inert_replies _ _ a) (inert_releases _ _ a)
    have quiet : ∀ a ∈ (replies node.pendingRequestList none ++
        releases node.cacheNodeId node.dataPtr : List (CacheAction κ γ δ)), ¬ IsPost a ∧ ¬ IsQuery a :=
      fun a member => (List.mem_append.mp member).elim (quiet_replies _ _ a) (quiet_releases _ _ a)
    obtain ⟨waits,results⟩ := histories_inert log inert
    have after := good_release good here
    rw [← waits,← results] at after
    obtain ⟨posts₁,answers₁⟩ := filterMap_replies (κ := κ) (δ := δ) node.pendingRequestList none
    obtain ⟨posts₂,answers₂⟩ := filterMap_releases (κ := κ) (γ := γ) node.cacheNodeId node.dataPtr
    refine ⟨after,contract_of after ?_ ?_ ?_⟩
    · have asked : (replies node.pendingRequestList none ++ releases node.cacheNodeId node.dataPtr :
          List (CacheAction κ γ δ)).filterMap posts = [] := by
        rw [List.filterMap_append,posts₁,posts₂,List.append_nil]
      have answered : (replies node.pendingRequestList none ++ releases node.cacheNodeId node.dataPtr :
          List (CacheAction κ γ δ)).filterMap answers = node.pendingRequestList := by
        rw [List.filterMap_append,answers₁,answers₂,List.append_nil]
      refine once_append asked answered ?_
      rw [List.append_nil]
      exact once_popRequests here (fun _ => rfl) contract.once
    · exact Hits.append contract.hits (fun a member => (quiet a member).1)
    · exact Queries.append contract.queries (fun a member => (quiet a member).2)

/-! ### Requests -/

omit [DecidableEq κ] in
theorem perm_last (first second : List γ) (context : γ) :
    (first ++ second ++ [context]).Perm (first ++ [context] ++ second) := by
  rw [List.append_assoc,List.append_assoc]
  exact List.perm_append_comm.append_left _

theorem histories_posted (log : List (CacheAction κ γ δ)) (key : κ) (context : γ) (inert : ∀ a ∈ out, Inert a) :
    outstanding (log ++ .posted key context :: out) = outstanding log ∧
      storedResult (log ++ .posted key context :: out) = storedResult log := by
  refine histories_inert _ fun a member => ?_
  rcases List.mem_cons.mp member with rfl | member
  · exact inert_posted key context
  · exact inert a member

/-- A request that is answered at once. -/
theorem contract_answered (good : GoodAt m log) (contract : Contract m log) {key : κ}
    (nothing : storedResult log key = none) (context : γ) :
    GoodAt m (log ++ [.posted key context,.onResultData context none]) ∧
      Contract m (log ++ [.posted key context,.onResultData context none]) := by
  have inert : ∀ a ∈ ([.onResultData context none] : List (CacheAction κ γ δ)), Inert a := fun a member => by
    rw [List.mem_singleton.mp member]
    exact inert_onResultData context none
  obtain ⟨waits,results⟩ := histories_posted log key context inert
  have after : GoodAt m (log ++ [.posted key context,.onResultData context none]) := by
    rw [GoodAt,waits,results]
    exact good
  refine ⟨after,contract_of after ?_ ?_ ?_⟩
  · exact once_append rfl rfl ((contract.once.append_right [context]).trans (perm_last _ _ context))
  · refine Hits.post contract.hits (fun a member => ?_) (fun data stored => ?_)
    · rw [List.mem_singleton.mp member]
      exact fun h => h
    · rw [nothing] at stored
      cases stored
  · refine Queries.append contract.queries fun a member => ?_
    simp only [List.mem_cons,List.not_mem_nil,or_false] at member
    rcases member with rfl | rfl <;> exact fun h => h

section Asked

variable (good : GoodAt m log) (contract : Contract m log) (here : m.cacheNodePool.find? id = some node)
  (quiet : outstanding log node.key = false) (nothing : storedResult log node.key = none) (context : γ)
include good contract here quiet nothing

/-- A request that waits for the query it has started. -/
theorem contract_accepted :
    let log' := log ++ [.posted node.key context,.makeAsyncQuery node.cacheNodeId node.key true]
    GoodAt (pushRequest m id context) log' ∧ Contract (pushRequest m id context) log' := by
  have front : ∀ a ∈ ([.posted node.key context] : List (CacheAction κ γ δ)), Inert a := fun a member => by
    rw [List.mem_singleton.mp member]
    exact inert_posted _ _
  obtain ⟨waits,results⟩ :=
    histories_accepted log node.key front node.cacheNodeId
  have after : GoodAt (pushRequest m id context)
      (log ++ [.posted node.key context,.makeAsyncQuery node.cacheNodeId node.key true]) := by
    have pushed := good_push good here context (m.cacheRequestsInUse + 1)
    rw [← waits,← results] at pushed
    exact pushed
  have none : ∀ a ∈ ([] : List (CacheAction κ γ δ)), ¬ IsQuery a := fun a member => by cases member
  refine ⟨after,contract_of after ?_ ?_ ?_⟩
  · have pushed := pending_modify here (fun node =>
      { node with pendingRequestList := node.pendingRequestList ++ [context] }) (m.cacheRequestsInUse + 1)
    have one := ((pending_perm here).append_right [context]).trans (perm_last _ _ context)
    have all := (one.trans pushed.symm).append_left (log.filterMap answers)
    rw [← List.append_assoc] at all
    refine once_append rfl rfl ((contract.once.append_right [context]).trans ?_)
    change (log.filterMap answers ++ pending m ++ [context]).Perm
      (log.filterMap answers ++ [] ++ pending (pushRequest m id context))
    rw [List.append_nil]
    exact all
  · refine Hits.post contract.hits (fun a member => ?_) (fun data stored => ?_)
    · rw [List.mem_singleton.mp member]
      exact fun h => h
    · rw [nothing] at stored
      cases stored
  · exact Queries.post contract.queries quiet none

/-- A request whose query is refused: all that wait for the node are answered with nothing. -/
theorem contract_refused :
    let m' := m.popRequests id (fun node => { node with dataPtr := none, state := .result }) node
    let log' := log ++ .posted node.key context :: .makeAsyncQuery node.cacheNodeId node.key false ::
      (releases node.cacheNodeId node.dataPtr ++
        .stored node.key none :: replies (node.pendingRequestList ++ [context]) none)
    GoodAt m' log' ∧ Contract m' log' := by
  have front : ∀ a ∈ (.posted node.key context :: .makeAsyncQuery node.cacheNodeId node.key false ::
      releases node.cacheNodeId node.dataPtr : List (CacheAction κ γ δ)), Inert a := fun a member => by
    rcases List.mem_cons.mp member with rfl | member
    · exact inert_posted _ _
    rcases List.mem_cons.mp member with rfl | member
    · exact inert_refused _ _
    · exact inert_releases _ _ a member
  obtain ⟨waits,results⟩ := histories_stored log node.key front
    (inert_replies (node.pendingRequestList ++ [context]) none) none
  have after := good_result good here none
  rw [← waits,← results] at after
  have silent := quiet_result node.cacheNodeId node.key node.dataPtr none
    (node.pendingRequestList ++ [context])
  refine ⟨after,contract_of after ?_ ?_ ?_⟩
  · obtain ⟨asked,answered⟩ := filterMap_result node.cacheNodeId node.key node.dataPtr none
      (node.pendingRequestList ++ [context])
    have replied := once_popRequests here
      (f := fun node => { node with dataPtr := none, state := .result }) (fun _ => rfl) contract.once
    refine once_append (congrArg (List.cons context) asked) answered
      ((replied.append_right [context]).trans ?_)
    rw [← List.append_assoc]
    exact perm_last _ _ context
  · refine Hits.post contract.hits (fun a member => ?_) (fun data stored => ?_)
    · rcases List.mem_cons.mp member with rfl | member
      · exact fun h => h
      · exact (silent a member).1
    · rw [nothing] at stored
      cases stored
  · exact Queries.post contract.queries quiet (fun a member => (silent a member).2)

end Asked

/-- A node is made for the key. -/
theorem contract_insert (good : GoodAt m log) (contract : Contract m log) {key : κ}
    (new : m.cacheMap key = none) {cacheNodePool : Storage keys (CacheNode κ γ δ)}
    (acquired : m.acquireNode key = some (id,cacheNodePool)) :
    GoodAt (m.insert key id cacheNodePool) log ∧ Contract (m.insert key id cacheNodePool) log := by
  obtain ⟨-,entries,-⟩ := Storage.acquire_spec acquired
  have after : GoodAt (m.insert key id cacheNodePool) log := good_insert good new acquired
  have same : pending (m.insert key id cacheNodePool) = pending m := by
    rw [pending,CacheManager.insert]
    dsimp only
    rw [entries]
    rfl
  exact ⟨after,contract_of after (by rw [same]; exact contract.once) contract.hits contract.queries⟩

/-- A request for a new key that gets a node. -/
theorem step_fresh (good : GoodAt m log) (contract : Contract m log) {key : κ} (new : m.cacheMap key = none)
    {cacheNodePool : Storage keys (CacheNode κ γ δ)} (acquired : m.acquireNode key = some (id,cacheNodePool))
    (context : γ) (accepted : Bool) :
    let r := (m.insert key id cacheNodePool).requestFrom id key context accepted
    GoodAt r.1 (log ++ .posted key context :: r.2) ∧ Contract r.1 (log ++ .posted key context :: r.2) := by
  obtain ⟨quiet,nothing⟩ := good.unknown key new
  obtain ⟨inserted,still⟩ := contract_insert good contract new acquired
  have here : (m.insert key id cacheNodePool).cacheNodePool.find? id = some ⟨id,.init,key,[],none⟩ :=
    (Storage.find?_acquire acquired id).trans (if_pos rfl)
  by_cases full : (m.insert key id cacheNodePool).cacheRequestPoolSize ≤
      (m.insert key id cacheNodePool).cacheRequestsInUse
  · rw [requestFrom_full here rfl key context accepted full]
    exact contract_answered inserted still nothing context
  cases accepted with
  | true =>
    rw [requestFrom_accepted here rfl key context full]
    exact contract_accepted inserted still here quiet nothing context
  | false =>
    rw [requestFrom_refused here rfl key context full rfl]
    exact contract_refused inserted still here quiet nothing context

/-- A request that is neither answered nor kept. -/
theorem not_contract_dropped (contract : Contract m log) {m' : CacheManager keys κ γ δ}
    (same : pending m' = pending m) (key : κ) (context : γ) :
    ¬ Contract m' (log ++ [.posted key context]) := by
  intro dropped
  have before := contract.once.length_eq
  have after := dropped.once.length_eq
  rw [List.filterMap_append,List.filterMap_append,same] at after
  simp only [List.length_append] at before after
  have asked : (([.posted key context] : List (CacheAction κ γ δ)).filterMap posts).length = 1 := rfl
  have answered : (([.posted key context] : List (CacheAction κ γ δ)).filterMap answers).length = 0 := rfl
  omega

omit [DecidableEq κ] in
theorem acquireNode_some (key : κ) (room : m.cacheNodePool.entries.length < m.cacheNodePool.capacity) :
    ∃ id cacheNodePool, m.acquireNode key = some (id,cacheNodePool) := by
  cases acquired : m.acquireNode key with
  | none =>
    have full := Storage.acquire_eq_none.mp acquired
    omega
  | some slot => exact ⟨slot.1,slot.2,rfl⟩

theorem postAcquireCacheNodeRequest_fresh {key : κ} (new : m.cacheMap key = none)
    {cacheNodePool : Storage keys (CacheNode κ γ δ)} (acquired : m.acquireNode key = some (id,cacheNodePool))
    (context : γ) (accepted : Bool) : m.postAcquireCacheNodeRequest key context accepted =
      (m.insert key id cacheNodePool).requestFrom id key context accepted := by
  rw [CacheManager.postAcquireCacheNodeRequest,new]
  dsimp only
  rw [acquired]

theorem step_running (runs : m.crashed = false) (e : CacheEvent κ γ δ) :
    step m e = match e with
    | .postAcquireCacheNodeRequest key context accepted =>
      ((m.postAcquireCacheNodeRequest key context accepted).1,
        .posted key context :: (m.postAcquireCacheNodeRequest key context accepted).2)
    | .setResultData id data => m.setResultData id data
    | .releaseCacheNode id => m.releaseCacheNode id := by
  have alive : ¬ m.crashed = true := by
    rw [runs]
    exact Bool.false_ne_true
  cases e <;> exact if_neg alive

theorem step_keeps (good : GoodAt m log) (contract : Contract m log) (e : CacheEvent κ γ δ)
    (servable : Servable m log e) :
    GoodAt (step m e).1 (log ++ (step m e).2) ∧ Contract (step m e).1 (log ++ (step m e).2) := by
  rw [step_running good.runs]
  cases e with
  | postAcquireCacheNodeRequest key context accepted =>
    obtain ⟨new,room⟩ := servable
    obtain ⟨id,cacheNodePool,acquired⟩ := acquireNode_some key room
    dsimp only
    rw [postAcquireCacheNodeRequest_fresh new acquired]
    exact step_fresh good contract new acquired context accepted
  | setResultData id data => exact step_setResultData good contract id data
  | releaseCacheNode id => exact step_releaseCacheNode good contract id

/-- The process crashes on the request, or drops it. -/
theorem step_loses (good : GoodAt m log) (contract : Contract m log) (e : CacheEvent κ γ δ)
    (unservable : ¬ Servable m log e) : ¬ Contract (step m e).1 (log ++ (step m e).2) := by
  rw [step_running good.runs]
  cases e with
  | postAcquireCacheNodeRequest key context accepted =>
    dsimp only
    rw [CacheManager.postAcquireCacheNodeRequest]
    cases mapped : m.cacheMap key with
    | some id =>
      have same : pending { m with crashed := true } = pending m := rfl
      exact not_contract_dropped contract same key context
    | none =>
      have full : m.acquireNode key = none :=
        Storage.acquire_eq_none.mpr (Nat.le_of_not_lt fun room => unservable ⟨mapped,room⟩)
      dsimp only
      rw [full]
      exact not_contract_dropped contract rfl key context
  | setResultData id data => exact absurd trivial unservable
  | releaseCacheNode id => exact absurd trivial unservable

/-! ## The keys that have a node -/

def requestedKey : CacheEvent κ γ δ → Option κ
  | .postAcquireCacheNodeRequest key _ _ => some key
  | _ => none

/-- A node for each of these keys, in a pool of this size. -/
structure Holding (m : CacheManager keys κ γ δ) (taken : List κ) (capacity : Nat) : Prop where
  runs : m.crashed = false
  mapped : ∀ key, m.cacheMap key = none ↔ key ∉ taken
  counted : m.cacheNodePool.entries.length = taken.length
  sized : m.cacheNodePool.capacity = capacity

section Holding

variable {taken : List κ} {capacity : Nat}

omit [DecidableEq κ] in
theorem Holding.servable_iff (holding : Holding m taken capacity) (log : List (CacheAction κ γ δ)) (key : κ)
    (context : γ) (accepted : Bool) :
    Servable m log (.postAcquireCacheNodeRequest key context accepted) ↔
      key ∉ taken ∧ taken.length < capacity := by
  rw [Servable,holding.mapped,holding.counted,holding.sized]

omit [DecidableEq κ] in
/-- The nodes are changed, and no more. -/
theorem Holding.modify (holding : Holding m taken capacity) (id : Nat)
    (f : CacheNode κ γ δ → CacheNode κ γ δ) (inUse : Nat) : Holding { m with
      cacheNodePool := m.cacheNodePool.modify id f
      cacheRequestsInUse := inUse } taken capacity :=
  ⟨holding.runs,holding.mapped,(Storage.length_modify _ _ _).trans holding.counted,
    (Storage.capacity_modify _ _ _).trans holding.sized⟩

omit [DecidableEq κ] in
theorem Holding.setResultData (holding : Holding m taken capacity) (id : Nat) (data : Option δ) :
    Holding (m.setResultData id data).1 taken capacity := by
  cases here : m.cacheNodePool.find? id with
  | none =>
    rw [CacheManager.setResultData,here]
    exact holding
  | some node =>
    rw [setResultData_eq here]
    exact holding.modify id _ _

omit [DecidableEq κ] in
theorem Holding.releaseCacheNode (holding : Holding m taken capacity) (id : Nat) :
    Holding (m.releaseCacheNode id).1 taken capacity := by
  cases here : m.cacheNodePool.find? id with
  | none =>
    rw [CacheManager.releaseCacheNode,here]
    exact holding
  | some node =>
    rw [releaseCacheNode_eq here]
    exact holding.modify id _ _

theorem Holding.insert (holding : Holding m taken capacity) {key : κ}
    {cacheNodePool : Storage keys (CacheNode κ γ δ)} (acquired : m.acquireNode key = some (id,cacheNodePool)) :
    Holding (m.insert key id cacheNodePool) (taken ++ [key]) capacity := by
  obtain ⟨-,entries,-,capacity⟩ := Storage.acquire_spec acquired
  constructor
  case runs => exact holding.runs
  case mapped =>
    intro other
    rw [CacheManager.insert,List.mem_append,List.mem_singleton]
    dsimp only
    by_cases same : other = key
    · rw [same,Function.update_self]
      simp
    · rw [Function.update_of_ne same,holding.mapped]
      simp [same]
  case counted =>
    rw [CacheManager.insert,List.length_append,List.length_singleton,← holding.counted]
    exact congrArg List.length entries
  case sized => exact capacity.trans holding.sized

theorem Holding.fresh (holding : Holding m taken capacity) {key : κ} (new : m.cacheMap key = none)
    (room : m.cacheNodePool.entries.length < m.cacheNodePool.capacity) (context : γ) (accepted : Bool) :
    Holding (m.postAcquireCacheNodeRequest key context accepted).1 (taken ++ [key]) capacity := by
  obtain ⟨id,cacheNodePool,acquired⟩ := acquireNode_some key room
  have here : (m.insert key id cacheNodePool).cacheNodePool.find? id = some ⟨id,.init,key,[],none⟩ :=
    (Storage.find?_acquire acquired id).trans (if_pos rfl)
  have inserted := holding.insert acquired
  rw [postAcquireCacheNodeRequest_fresh new acquired]
  by_cases full : (m.insert key id cacheNodePool).cacheRequestPoolSize ≤
      (m.insert key id cacheNodePool).cacheRequestsInUse
  · rw [requestFrom_full here rfl key context accepted full]
    exact inserted
  cases accepted with
  | true =>
    rw [requestFrom_accepted here rfl key context full]
    exact inserted.modify id _ _
  | false =>
    rw [requestFrom_refused here rfl key context full rfl]
    exact inserted.modify id _ _

end Holding

/-! ## Any run -/

section Runs

variable {maxCacheNodeSize requestPoolSize : Nat}

theorem contract_init : Contract (.init keys κ γ δ maxCacheNodeSize requestPoolSize) [] where
  once := .refl _
  waits id node here := by cases here
  hits before key context after data split := by simp at split
  queries := Log.always_nil _

omit [DecidableEq κ] in
theorem holding_init : Holding (.init keys κ γ δ maxCacheNodeSize requestPoolSize) [] maxCacheNodeSize where
  runs := rfl
  mapped key := by simp [CacheManager.init]
  counted := rfl
  sized := rfl

/-- A key that comes again finds its node, and a node is never given back. -/
theorem servable_run {taken : List κ} (holding : Holding m taken maxCacheNodeSize) (once : taken.Nodup)
    (fits : taken.length ≤ maxCacheNodeSize) (events : List (CacheEvent κ γ δ)) :
    (cacheMachine keys κ γ δ maxCacheNodeSize requestPoolSize).Allowed Servable m log events ↔
      (taken ++ events.filterMap requestedKey).Nodup ∧
        (taken ++ events.filterMap requestedKey).length ≤ maxCacheNodeSize := by
  induction events generalizing m log taken with
  | nil =>
    rw [List.filterMap_nil,List.append_nil]
    exact ⟨fun _ => ⟨once,fits⟩,fun _ => trivial⟩
  | cons e events ih =>
    have step_eq : (cacheMachine keys κ γ δ maxCacheNodeSize requestPoolSize).step m e = step m e := rfl
    rw [Machine.Allowed,step_eq,step_running holding.runs]
    cases e with
    | postAcquireCacheNodeRequest key context accepted =>
      have asked : (CacheEvent.postAcquireCacheNodeRequest key context accepted :: events :
          List (CacheEvent κ γ δ)).filterMap requestedKey = key :: events.filterMap requestedKey := rfl
      rw [asked,holding.servable_iff]
      by_cases servable : key ∉ taken ∧ taken.length < maxCacheNodeSize
      · have fresh := holding.fresh ((holding.mapped key).mpr servable.1)
          (by rw [holding.counted,holding.sized]; exact servable.2) context accepted
        have once' : (taken ++ [key]).Nodup := by
          rw [← List.concat_eq_append,List.nodup_concat]
          exact ⟨servable.1,once⟩
        have fits' : (taken ++ [key]).length ≤ maxCacheNodeSize := by
          rw [List.length_append]
          exact servable.2
        have longer : taken ++ key :: events.filterMap requestedKey =
            (taken ++ [key]) ++ events.filterMap requestedKey := by rw [List.append_assoc,List.singleton_append]
        rw [longer]
        exact ⟨fun allowed => (ih fresh once' fits').mp allowed.2,
          fun fine => ⟨servable,(ih fresh once' fits').mpr fine⟩⟩
      · refine ⟨fun allowed => absurd allowed.1 servable,fun fine => ?_⟩
        obtain ⟨nodup,all⟩ := fine
        have absent : key ∉ taken := fun member =>
          List.disjoint_of_nodup_append nodup member List.mem_cons_self
        rw [List.length_append,List.length_cons] at all
        exact absurd ⟨absent,by omega⟩ servable
    | setResultData id data =>
      have kept := holding.setResultData id data
      exact ⟨fun allowed => (ih kept once fits).mp allowed.2,fun fine => ⟨trivial,(ih kept once fits).mpr fine⟩⟩
    | releaseCacheNode id =>
      have kept := holding.releaseCacheNode id
      exact ⟨fun allowed => (ih kept once fits).mp allowed.2,fun fine => ⟨trivial,(ih kept once fits).mpr fine⟩⟩

/-- Every state of a run keeps the contract if and only if no key is requested twice and there is a
node for each of them. -/
theorem coalescing_contract_iff (keys : KeySource) (κ γ δ : Type) [DecidableEq κ]
    (maxCacheNodeSize requestPoolSize : Nat) (events : List (CacheEvent κ γ δ)) :
    (cacheMachine keys κ γ δ maxCacheNodeSize requestPoolSize).Stays Contract
        (.init keys κ γ δ maxCacheNodeSize requestPoolSize) [] events ↔
      (events.filterMap requestedKey).Nodup ∧
        (events.filterMap requestedKey).length ≤ maxCacheNodeSize := by
  have allowed : (cacheMachine keys κ γ δ maxCacheNodeSize requestPoolSize).Allowed Servable
      (.init keys κ γ δ maxCacheNodeSize requestPoolSize) [] events ↔
        ([] ++ events.filterMap requestedKey).Nodup ∧
          ([] ++ events.filterMap requestedKey).length ≤ maxCacheNodeSize :=
    servable_run holding_init .nil (Nat.zero_le _) events
  rw [List.nil_append] at allowed
  rw [← allowed]
  exact Machine.stays_iff_allowed (I := fun m log => GoodAt m log ∧ Contract m log)
    (fun _ _ kept => kept.2) (fun m log e kept => step_keeps kept.1 kept.2 e)
    (fun m log e kept => step_loses kept.1 kept.2 e)
    ⟨good_init maxCacheNodeSize requestPoolSize,contract_init⟩ events

/-! ## Requests that are not served -/

/-- A second request for a key. -/
def repeated : List (CacheEvent Nat Nat Nat) :=
  [.postAcquireCacheNodeRequest 5 1 true,.setResultData 1 (some 7),.postAcquireCacheNodeRequest 5 2 true]

/-- A request for a second key where there is one node. -/
def crowded : List (CacheEvent Nat Nat Nat) :=
  [.postAcquireCacheNodeRequest 5 1 true,.postAcquireCacheNodeRequest 6 2 true]

theorem unserved_requests :
    ¬ (cacheMachine .sequential Nat Nat Nat 8 8).Stays Contract (.init .sequential Nat Nat Nat 8 8) []
      repeated ∧
    ¬ (cacheMachine .sequential Nat Nat Nat 1 8).Stays Contract (.init .sequential Nat Nat Nat 1 8) []
      crowded := by
  constructor
  · intro kept
    have contract := kept repeated [] (List.append_nil _).symm
    exact absurd contract.once.length_eq (by decide)
  · intro kept
    have contract := kept crowded [] (List.append_nil _).symm
    exact absurd contract.once.length_eq (by decide)

end Runs

end MiniPP.Coalescing
