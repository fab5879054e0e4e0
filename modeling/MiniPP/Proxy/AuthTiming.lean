import MiniPP.Proxy.AuthRefinement

/-! The auth cache under a clock that never goes back: no request waits past its timeout,
and no node with waiting requests is evicted. -/
namespace MiniPP.Proxy

open Function (update)

namespace AuthTable

/-- `a` was asked about no later than `b`, and the same for their last uses. -/
def AskedBefore (t : AuthTable) (a b : Nat) : Prop :=
  ∀ first second, t.node a = some first → t.node b = some second →
    first.lastUpdateTimestampMS ≤ second.lastUpdateTimestampMS

structure Punctual (t : AuthTable) : Prop where
  clock : authCacheNodeTimeoutMS ≤ t.now
  reconfirm : t.reconfirm = t.now - authCacheReconfirmTimeoutMS
  order : t.asked.Pairwise t.AskedBefore
  past : ∀ id node, t.node id = some node →
    node.lastUpdateTimestampMS ≤ node.lastUsedTimestampMS ∧ node.lastUsedTimestampMS ≤ t.now
  waited : ∀ id node, t.node id = some node → ∀ rid ∈ node.requestList, ∀ r,
    t.request rid = some r → node.lastUpdateTimestampMS ≤ r.requestTimestamp
  pending : ∀ id node, t.node id = some node → node.result.ready = false → id ∈ t.asked
  held : ∀ rid r, t.request rid = some r → rid ∈ t.dispatch ∨
    ∃ node, t.node r.cacheNodeId = some node ∧ rid ∈ node.requestList

/-- The queries that are still open are recent. Only the loops of a tick go without this. -/
def Timely (t : AuthTable) : Prop :=
  ∀ id ∈ t.asked, ∀ node, t.node id = some node →
    t.now ≤ node.lastUpdateTimestampMS + authCacheRequestTimeoutMS

/-- A node that requests wait at has been asked about recently. -/
theorem timely_waiting {t : AuthTable} (linked : Linked t) (punctual : Punctual t) (timely : Timely t)
    {id : Nat} {node : AuthCacheNode} (found : t.node id = some node)
    (waiting : node.requestList ≠ []) :
    t.now ≤ node.lastUpdateTimestampMS + authCacheRequestTimeoutMS := by
  have unready : node.result.ready = false := by
    cases ready : node.result.ready with
    | false => rfl
    | true => exact absurd (linked.answered id node found ready) waiting
  exact timely id (punctual.pending id node found unready) node found

theorem punctual_unplaced {t : AuthTable} (linked : Linked t) (punctual : Punctual t) (source rid : Nat)
    (fresh : ¬ t.requestIds rid) : Punctual (t.unplace source rid) := by
  have listed := linked.listed
  obtain ⟨clock,reconfirm,order,past,waited,pending,held⟩ := punctual
  refine ⟨clock,reconfirm,order,past,?_,pending,?_⟩
  · intro id node found rid' member r here
    rcases of_update_some here with ⟨same,-⟩ | ⟨-,before⟩
    · obtain ⟨r',old,-⟩ := listed id node found rid' member
      exact absurd same (linked.apart fresh old)
    · exact waited id node found rid' member r before
  · intro rid' r here
    rcases of_update_some here with ⟨same,-⟩ | ⟨-,before⟩
    · exact .inl (by simp [unplace,same])
    · rcases held rid' r before with old | old
      · exact .inl (List.mem_append_left _ old)
      · exact .inr old

/-- Where the update times stay as they are, so does their order. -/
theorem order_kept {t t' : AuthTable} {list list' : List Nat} (order : list.Pairwise t.AskedBefore)
    (fewer : list'.Sublist list)
    (same : ∀ a ∈ list', ∀ node', t'.node a = some node' → ∃ node, t.node a = some node ∧
      node.lastUpdateTimestampMS = node'.lastUpdateTimestampMS) :
    list'.Pairwise t'.AskedBefore := by
  apply (order.sublist fewer).imp_of_mem
  intro a b memberA memberB before first second foundA foundB
  obtain ⟨first',oldA,sameA⟩ := same a memberA first foundA
  obtain ⟨second',oldB,sameB⟩ := same b memberB second foundB
  have := before first' second' oldA oldB
  omega

/-- The node asked about last goes to the end. -/
theorem order_renewed {t t' : AuthTable} {id : Nat} (order : t.asked.Pairwise t.AskedBefore)
    (past : ∀ other node, t.node other = some node → node.lastUpdateTimestampMS ≤ t.now)
    (others : ∀ other, other ≠ id → t'.node other = t.node other)
    (newest : ∀ node, t'.node id = some node → node.lastUpdateTimestampMS = t.now) :
    (toTail t.asked id).Pairwise t'.AskedBefore := by
  unfold toTail
  rw [List.pairwise_append]
  refine ⟨?_,by simp,?_⟩
  · apply order_kept order List.filter_sublist
    intro a member node' found
    rw [others a (mem_without.mp member).2] at found
    exact ⟨node',found,rfl⟩
  · intro other member last isLast first second foundFirst foundLast
    have apart := (mem_without.mp member).2
    rw [List.mem_singleton.mp isLast] at foundLast
    rw [others other apart] at foundFirst
    rw [newest second foundLast]
    exact past other first foundFirst

/-! ## A request joins a node -/

section Placed

variable {t : AuthTable} {source rid id : Nat} {key : Bytes} {node : AuthCacheNode}

theorem Punctual.updated (punctual : Punctual t) (found : t.node id = some node) :
    node.lastUpdateTimestampMS ≤ t.now :=
  Nat.le_trans (punctual.past id node found).1 (punctual.past id node found).2

theorem updated_joined (punctual : Punctual t) (found : t.NodeFor key id node) :
    (t.joined rid node).lastUpdateTimestampMS ≤ t.now := by
  simp only [joined]
  split
  · exact Nat.le_refl _
  · rcases found with ⟨live,-⟩ | ⟨-,-,-,rfl⟩
    · exact punctual.updated live
    · exact Nat.zero_le _

/-- A node with waiting requests was asked about too recently to be asked about again. -/
theorem recent_of_waiting (linked : Linked t) (punctual : Punctual t) (timely : Timely t)
    (found : t.NodeFor key id node) (waiting : node.requestList ≠ []) :
    ¬ node.lastUpdateTimestampMS ≤ t.reconfirm := by
  rcases found with ⟨live,-⟩ | ⟨-,-,-,rfl⟩
  · have recent := timely_waiting linked punctual timely live waiting
    have clock := punctual.clock
    rw [punctual.reconfirm]
    simp only [authCacheRequestTimeoutMS,authCacheReconfirmTimeoutMS,authCacheNodeTimeoutMS] at *
    omega
  · exact absurd rfl waiting

/-- Only a node that exists is not asked about. -/
theorem live_of_recent (found : t.NodeFor key id node) (recent : ¬ node.lastUpdateTimestampMS ≤ t.reconfirm) :
    t.node id = some node := by
  rcases found with ⟨live,-⟩ | ⟨-,-,-,rfl⟩
  · exact live
  · exact absurd (Nat.zero_le _) recent

theorem order_placed (punctual : Punctual t) (found : t.NodeFor key id node) :
    (t.place source rid id node key).asked.Pairwise (t.place source rid id node key).AskedBefore := by
  simp only [place]
  split
  · apply order_renewed punctual.order (fun other node live => punctual.updated live)
    · intro other apart
      simp [apart]
    · intro node' found'
      simp only [Function.update_self] at found'
      rw [← Option.some.inj found']
  · rename_i recent
    apply order_kept punctual.order (List.Sublist.refl _)
    intro other member node' found'
    by_cases same : other = id
    · simp only [same,Function.update_self] at found'
      rw [← Option.some.inj found',same]
      exact ⟨node,live_of_recent found recent,rfl⟩
    · exact ⟨node',by simpa [same] using found',rfl⟩

theorem waited_placed (linked : Linked t) (punctual : Punctual t) (timely : Timely t)
    (found : t.NodeFor key id node) (other : Nat) (node' : AuthCacheNode)
    (found' : (t.place source rid id node key).node other = some node') (rid' : Nat)
    (member : rid' ∈ node'.requestList) (r : AuthRequestNode)
    (request : (t.place source rid id node key).request rid' = some r) :
    node'.lastUpdateTimestampMS ≤ r.requestTimestamp := by
  rcases place_request request with ⟨-,rfl⟩ | ⟨apart,before⟩
  · rcases place_node found' with ⟨-,rfl⟩ | ⟨-,old⟩
    · exact updated_joined punctual found
    · exact punctual.updated old
  · rcases place_node found' with ⟨-,rfl⟩ | ⟨-,old⟩
    · have inside : rid' ∈ node.requestList := by
        simp only [joined] at member
        split at member
        · exact member
        · simpa [apart] using member
      have recent := recent_of_waiting linked punctual timely found (List.ne_nil_of_mem inside)
      have kept : (t.joined rid node).lastUpdateTimestampMS = node.lastUpdateTimestampMS := if_neg recent
      rw [kept]
      exact punctual.waited id node (live_of_recent found recent) rid' inside r before
    · exact punctual.waited other node' old rid' member r before

theorem pending_placed (punctual : Punctual t) (found : t.NodeFor key id node) (other : Nat)
    (node' : AuthCacheNode) (found' : (t.place source rid id node key).node other = some node')
    (unready : node'.result.ready = false) : other ∈ (t.place source rid id node key).asked := by
  simp only [place]
  rcases place_node found' with ⟨rfl,rfl⟩ | ⟨apart,old⟩
  · split
    · simp
    · rename_i recent
      exact punctual.pending other node (live_of_recent found recent) unready
  · have member := punctual.pending other node' old unready
    split
    · simp [member,apart]
    · exact member

theorem held_placed (linked : Linked t) (punctual : Punctual t) (found : t.NodeFor key id node)
    (rid' : Nat) (r : AuthRequestNode)
    (request : (t.place source rid id node key).request rid' = some r) :
    rid' ∈ (t.place source rid id node key).dispatch ∨
      ∃ node', (t.place source rid id node key).node r.cacheNodeId = some node' ∧
        rid' ∈ node'.requestList := by
  have here : (t.place source rid id node key).node id = some (t.joined rid node) := by
    simp [place,joined]
  rcases place_request request with ⟨newest,rfl⟩ | ⟨-,before⟩
  · cases ready : node.result.ready with
    | true => exact .inl (by simp [place,ready,newest])
    | false =>
      refine .inr ⟨_,here,?_⟩
      simp [joined,ready,newest]
  · rcases punctual.held rid' r before with dispatched | ⟨node',old,member⟩
    · left
      simp only [place]
      split
      · exact List.mem_append_left _ dispatched
      · exact dispatched
    · right
      by_cases same : r.cacheNodeId = id
      · rw [same]
        refine ⟨_,here,?_⟩
        rcases found with ⟨live,-⟩ | ⟨fresh,nonzero,-⟩
        · rw [same,live] at old
          rw [← Option.some.inj old] at member
          simp only [joined]
          split
          · exact member
          · exact List.mem_append_left _ member
        · exact absurd same (linked.not_named fresh nonzero before)
      · exact ⟨node',by simpa [place,same] using old,member⟩

theorem timely_placed (timely : Timely t) (found : t.NodeFor key id node) :
    Timely (t.place source rid id node key) := by
  intro other member node' found'
  simp only [place] at member ⊢
  rcases place_node found' with ⟨rfl,rfl⟩ | ⟨apart,old⟩
  · simp only [joined]
    split
    · omega
    · rename_i recent
      rw [if_neg recent] at member
      exact timely other member node (live_of_recent found recent)
  · refine timely other ?_ node' old
    split at member
    · simpa [apart] using member
    · exact member

theorem punctual_placed (linked : Linked t) (punctual : Punctual t) (timely : Timely t)
    (found : t.NodeFor key id node) : Punctual (t.place source rid id node key) where
  clock := punctual.clock
  reconfirm := punctual.reconfirm
  order := order_placed punctual found
  past other node' found' := by
    rcases place_node found' with ⟨-,rfl⟩ | ⟨-,old⟩
    · exact ⟨updated_joined punctual found,Nat.le_refl _⟩
    · exact punctual.past other node' old
  waited := waited_placed linked punctual timely found
  pending := pending_placed punctual found
  held := held_placed linked punctual found

end Placed

/-! ## The other steps -/

theorem punctual_answered {t : AuthTable} (punctual : Punctual t) (timely : Timely t) (id : Nat)
    (resp : QueryAuthCacheResp) (node : AuthCacheNode) (found : t.node id = some node) :
    Punctual (t.answer id resp node) ∧ Timely (t.answer id resp node) := by
  constructor
  · refine ⟨punctual.clock,punctual.reconfirm,?_,?_,?_,?_,?_⟩
    · apply order_kept punctual.order List.filter_sublist
      intro a member node' found'
      rw [answer_of_ne t (mem_without.mp member).2] at found'
      exact ⟨node',found',rfl⟩
    · intro other node' found'
      rcases answer_node found' with ⟨-,rfl⟩ | ⟨-,old⟩
      · have past := punctual.past id node found
        exact ⟨Nat.le_trans past.1 past.2,Nat.le_refl _⟩
      · exact punctual.past other node' old
    · intro other node' found' rid member r request
      rcases answer_node found' with ⟨-,rfl⟩ | ⟨-,old⟩
      · cases member
      · exact punctual.waited other node' old rid member r request
    · intro other node' found' unready
      rcases answer_node found' with ⟨-,rfl⟩ | ⟨apart,old⟩
      · cases unready
      · exact mem_without.mpr ⟨punctual.pending other node' old unready,apart⟩
    · intro rid r request
      rcases punctual.held rid r request with dispatched | ⟨node',found',member⟩
      · exact .inl (List.mem_append_left _ dispatched)
      · by_cases same : r.cacheNodeId = id
        · rw [same,found] at found'
          rw [← Option.some.inj found'] at member
          exact .inl (List.mem_append_right _ member)
        · exact .inr ⟨node',(answer_of_ne t same resp node).trans found',member⟩
  · intro other member node' found'
    obtain ⟨inside,apart⟩ := mem_without.mp member
    rw [answer_of_ne t apart] at found'
    exact timely other inside node' found'

/-- Dropping a node, where `dispatch` keeps the requests that waited at it. -/
theorem punctual_drop {t : AuthTable} (punctual : Punctual t) (id : Nat) (node : AuthCacheNode)
    (found : t.node id = some node) (dispatch : List Nat) (more : ∀ rid ∈ t.dispatch, rid ∈ dispatch)
    (moved : ∀ rid ∈ node.requestList, rid ∈ dispatch) :
    Punctual { t.drop id node with dispatch := dispatch } := by
  refine ⟨punctual.clock,punctual.reconfirm,?_,?_,?_,?_,?_⟩
  · apply order_kept punctual.order List.filter_sublist
    intro a _ node' found'
    exact ⟨node',(drop_node id node found').2,rfl⟩
  · intro other node' found'
    exact punctual.past other node' (drop_node id node found').2
  · intro other node' found'
    exact punctual.waited other node' (drop_node id node found').2
  · intro other node' found' unready
    obtain ⟨apart,old⟩ := drop_node id node found'
    exact mem_without.mpr ⟨punctual.pending other node' old unready,apart⟩
  · intro rid r request
    rcases punctual.held rid r request with dispatched | ⟨node',found',member⟩
    · exact .inl (more rid dispatched)
    · by_cases same : r.cacheNodeId = id
      · rw [same,found] at found'
        rw [← Option.some.inj found'] at member
        exact .inl (moved rid member)
      · exact .inr ⟨node',(Function.update_of_ne same _ _).trans found',member⟩

theorem timely_drop {t : AuthTable} (timely : Timely t) (id : Nat) (node : AuthCacheNode)
    (dispatch : List Nat) : Timely { t.drop id node with dispatch := dispatch } := by
  intro other member node' found'
  exact timely other (mem_without.mp member).1 node' (drop_node id node found').2

theorem punctual_dispatched {t : AuthTable} (punctual : Punctual t) (rid : Nat) :
    Punctual { t with request := update t.request rid none, dispatch := without t.dispatch rid } := by
  refine ⟨punctual.clock,punctual.reconfirm,punctual.order,punctual.past,?_,punctual.pending,?_⟩
  · intro id node found other member r request
    exact punctual.waited id node found other member r (of_update_none request).2
  · intro other r request
    obtain ⟨apart,before⟩ := of_update_none request
    rcases punctual.held other r before with dispatched | waiting
    · exact .inl (by simp [dispatched,apart])
    · exact .inr waiting

theorem punctual_tick {t : AuthTable} (punctual : Punctual t) (now : Nat) (later : t.now ≤ now) :
    Punctual { t with now := now, reconfirm := sub64 now authCacheReconfirmTimeoutMS } := by
  have clock := punctual.clock
  refine ⟨Nat.le_trans clock later,?_,punctual.order,?_,punctual.waited,punctual.pending,
    punctual.held⟩
  · apply sub64_of_le
    simp only [authCacheNodeTimeoutMS,authCacheReconfirmTimeoutMS] at *
    omega
  · intro id node found
    have := punctual.past id node found
    dsimp only
    omega

/-- What every state between the turns of a tick satisfies. -/
structure Sound (t : AuthTable) (log : List AuthAction) : Prop where
  linked : Linked t
  recorded : Recorded t log
  punctual : Punctual t
  asserts : .assertFailed ∉ log

theorem sound_expire {t t' : AuthTable} {log out : List AuthAction} (sound : Sound t log)
    (turn : Expire t out t') : Sound t' (log ++ out) := by
  refine ⟨linked_step sound.linked (.expired turn),
    recorded_step sound.recorded sound.linked (.expired turn),?_,?_⟩
  all_goals obtain ⟨id,node,found,-,rfl,rfl⟩ := turn
  · apply punctual_drop sound.punctual id node found _
    · exact fun rid member => List.mem_append_left _ member
    · exact fun rid member => List.mem_append_right _ member
  · simpa using sound.asserts

theorem sound_evict {t t' : AuthTable} {log out : List AuthAction}
    (sound : Sound t log ∧ Timely t) (turn : Evict t out t') :
    Sound t' (log ++ out) ∧ Timely t' := by
  obtain ⟨sound,timely⟩ := sound
  have linked := linked_step sound.linked (.evicted turn)
  have recorded := recorded_step sound.recorded sound.linked (.evicted turn)
  obtain ⟨id,node,found,unused,rfl,rfl⟩ := turn
  have empty : node.requestList = [] := by
    apply Classical.byContradiction
    intro waiting
    have recent := timely_waiting sound.linked sound.punctual timely found waiting
    have past := sound.punctual.past id node found
    have clock := sound.punctual.clock
    rw [sub64_of_le clock] at unused
    simp only [authCacheRequestTimeoutMS,authCacheNodeTimeoutMS] at *
    omega
  refine ⟨⟨linked,recorded,?_,?_⟩,timely_drop timely id node t.dispatch⟩
  · apply punctual_drop sound.punctual id node found t.dispatch (fun _ member => member)
    simp [empty]
  · simpa [empty] using sound.asserts

theorem sound_dispatch {t t' : AuthTable} {log out : List AuthAction}
    (sound : Sound t log ∧ Timely t) (turn : Dispatch t out t') :
    Sound t' (log ++ out) ∧ Timely t' := by
  obtain ⟨sound,timely⟩ := sound
  have linked := linked_step sound.linked (.dispatched turn)
  have recorded := recorded_step sound.recorded sound.linked (.dispatched turn)
  obtain ⟨rid,r,-,-,rfl,rfl⟩ := turn
  refine ⟨⟨linked,recorded,punctual_dispatched sound.punctual rid,?_⟩,timely⟩
  simpa using sound.asserts

/-- Between ticks, a step that does something keeps the open queries recent. -/
theorem sound_step {t t' : AuthTable} {log out : List AuthAction} (sound : Sound t log ∧ Timely t)
    (step : Step t out t') (active : out ≠ []) : Sound t' (log ++ out) ∧ Timely t' := by
  have linked := linked_step sound.1.linked step
  have recorded := recorded_step sound.1.recorded sound.1.linked step
  cases step with
  | refused => exact ⟨⟨linked,recorded,sound.1.punctual,by simpa using sound.1.asserts⟩,sound.2⟩
  | unplaced source rid key fresh =>
    have punctual := punctual_unplaced sound.1.linked sound.1.punctual source rid fresh
    exact ⟨⟨linked,recorded,punctual,by simpa using sound.1.asserts⟩,sound.2⟩
  | placed source rid id key node fresh found =>
    have punctual : Punctual (t.place source rid id node key) :=
      punctual_placed sound.1.linked sound.1.punctual sound.2 found
    refine ⟨⟨linked,recorded,punctual,?_⟩,timely_placed sound.2 found⟩
    have := sound.1.asserts
    split <;> simpa using this
  | ignored => exact ⟨⟨linked,recorded,sound.1.punctual,by simpa using sound.1.asserts⟩,sound.2⟩
  | answered id resp node found =>
    obtain ⟨punctual,timely⟩ := punctual_answered sound.1.punctual sound.2 id resp node found
    exact ⟨⟨linked,recorded,punctual,by simpa using sound.1.asserts⟩,timely⟩
  | expired turn =>
    obtain ⟨-,-,-,-,empty,-⟩ := turn
    exact absurd empty active
  | evicted turn => exact sound_evict sound turn
  | dispatched turn => exact sound_dispatch sound turn
  | tick => exact absurd rfl active

/-- Once the first node in the order is recent, all are. -/
theorem timely_of_head {t : AuthTable} (linked : Linked t) (punctual : Punctual t)
    (fresh : ∀ id ∈ t.asked.head?, ∀ node, t.node id = some node →
      ¬ node.lastUpdateTimestampMS < sub64 t.now authCacheRequestTimeoutMS) : Timely t := by
  intro id member node found
  have order := punctual.order
  have alive := linked.asked
  have clock := punctual.clock
  rw [sub64_of_le (by simp only [authCacheNodeTimeoutMS,authCacheRequestTimeoutMS] at *; omega)] at fresh
  cases list : t.asked with
  | nil => simp [list] at member
  | cons first rest =>
    rw [list] at fresh member order alive
    obtain ⟨head,live⟩ := Option.isSome_iff_exists.mp (alive first (by simp))
    have recent := fresh first rfl head live
    have later : head.lastUpdateTimestampMS ≤ node.lastUpdateTimestampMS := by
      rcases List.mem_cons.mp member with rfl | behind
      · rw [found] at live
        exact Nat.le_of_eq (congrArg _ (Option.some.inj live.symm))
      · exact (List.pairwise_cons.mp order).1 id behind head node live found
    omega

end AuthTable

/-- A clock in epoch milliseconds that does not go back: no timeout reaches before zero. -/
def EpochClock (s : AuthCacheManager keys) (_ : List AuthAction) (e : AuthEvent) : Prop :=
  authCacheNodeTimeoutMS ≤ s.ticker ∧ ∀ nowMS, e = .tick nowMS → s.ticker ≤ nowMS

theorem requestAuth_active (s : AuthCacheManager keys) (source : Nat) (key : Bytes) :
    (s.requestAuth source key).2 ≠ [] := by
  obtain ⟨rid,rest,actions,-⟩ := s.requestAuth_actions source key
  simp [actions]

theorem onServerPacket_active (s : AuthCacheManager keys) (id : Nat) (resp : QueryAuthCacheResp) :
    (s.onServerPacket id resp).2 ≠ [] := by
  simp [s.onServerPacket_actions]

theorem sound_onTick {s : AuthCacheManager keys} {log : List AuthAction}
    (sound : AuthTable.Sound s.view log) (nowMS : Nat) (later : s.ticker ≤ nowMS) :
    AuthTable.Sound (s.onTick nowMS).1.view (log ++ (s.onTick nowMS).2) ∧
      AuthTable.Timely (s.onTick nowMS).1.view ∧ (s.onTick nowMS).1.dispatchResultList = [] := by
  obtain ⟨late,old,results,expired,unused,split,ticked⟩ := s.onTick_ticked sound.linked nowMS
  have recorded : AuthTable.Recorded (s.clocked nowMS).view (log ++ []) :=
    AuthTable.recorded_step sound.recorded sound.linked (.tick nowMS)
  rw [List.append_nil] at recorded
  have clocked : AuthTable.Sound (s.clocked nowMS).view log :=
    ⟨AuthTable.linked_step sound.linked (.tick nowMS),recorded,
      AuthTable.punctual_tick sound.punctual nowMS later,sound.asserts⟩
  have first := ticked.expires.invariant (I := AuthTable.Sound)
    (fun _ _ _ _ turn valid => AuthTable.sound_expire valid turn) clocked
  have timely := AuthTable.timely_of_head first.linked first.punctual ticked.fresh
  have second := ticked.evicts.invariant (I := fun t log => AuthTable.Sound t log ∧ AuthTable.Timely t)
    (fun _ _ _ _ turn valid => AuthTable.sound_evict valid turn) ⟨first,timely⟩
  have third := ticked.dispatches.invariant
    (I := fun t log => AuthTable.Sound t log ∧ AuthTable.Timely t)
    (fun _ _ _ _ turn valid => AuthTable.sound_dispatch valid turn) second
  rw [split]
  simp only [List.append_assoc] at third ⊢
  exact ⟨third.1,third.2,ticked.done⟩

theorem sound_init (ticker cachePoolSize : Nat) (clock : authCacheNodeTimeoutMS ≤ ticker) :
    AuthTable.Sound (AuthCacheManager.init keys ticker cachePoolSize).view [] ∧
      AuthTable.Timely (AuthCacheManager.init keys ticker cachePoolSize).view := by
  refine ⟨⟨linked_init ticker cachePoolSize,recorded_init ticker cachePoolSize,?_,by simp⟩,?_⟩
  · have reconfirm : sub64 ticker authCacheReconfirmTimeoutMS = ticker - authCacheReconfirmTimeoutMS := by
      apply sub64_of_le
      simp only [authCacheNodeTimeoutMS,authCacheReconfirmTimeoutMS] at *
      omega
    constructor <;> simp [AuthCacheManager.view,AuthCacheManager.init,clock,reconfirm]
  · intro id member
    simp [AuthCacheManager.view,AuthCacheManager.init] at member

theorem sound_event {s : AuthCacheManager keys} {log : List AuthAction} {e : AuthEvent}
    (sound : AuthTable.Sound s.view log ∧ AuthTable.Timely s.view) (allowed : EpochClock s log e) :
    AuthTable.Sound ((authMachine keys).step s e).1.view (log ++ ((authMachine keys).step s e).2) ∧
      AuthTable.Timely ((authMachine keys).step s e).1.view := by
  cases e with
  | requestAuth source key =>
    exact AuthTable.sound_step sound (s.requestAuth_step sound.1.linked source key)
      (requestAuth_active s source key)
  | serverPacket id resp =>
    exact AuthTable.sound_step sound (s.onServerPacket_step id resp) (onServerPacket_active s id resp)
  | tick nowMS =>
    obtain ⟨after,timely,-⟩ := sound_onTick sound.1 nowMS (allowed.2 nowMS rfl)
    exact ⟨after,timely⟩

/-- Under an epoch clock every state but the first is sound, with its open queries recent. -/
theorem epoch_invariant {s : AuthCacheManager keys} {log : List AuthAction}
    (reach : (authMachine keys).Reach EpochClock s log) :
    (log = [] ∧ (authCacheNodeTimeoutMS ≤ s.ticker →
      AuthTable.Sound s.view log ∧ AuthTable.Timely s.view)) ∨
    (AuthTable.Sound s.view log ∧ AuthTable.Timely s.view) := by
  refine reach.invariant (I := fun s log => (log = [] ∧ (authCacheNodeTimeoutMS ≤ s.ticker →
    AuthTable.Sound s.view log ∧ AuthTable.Timely s.view)) ∨
    (AuthTable.Sound s.view log ∧ AuthTable.Timely s.view)) ?_ ?_
  · rintro _ ⟨ticker,cachePoolSize,rfl⟩
    exact .inl ⟨rfl,sound_init ticker cachePoolSize⟩
  · intro s log e _ allowed valid
    refine .inr (sound_event ?_ allowed)
    rcases valid with ⟨-,valid⟩ | valid
    · exact valid allowed.1
    · exact valid

/-! ## Exactly one answer -/

/-- A request id stands for one call. -/
theorem call_unique {t : AuthTable} {log : List AuthAction} (recorded : AuthTable.Recorded t log)
    {source source' timestamp timestamp' rid : Nat} {key key' : Bytes}
    (call : .requestAuth source key timestamp (some rid) ∈ log)
    (call' : .requestAuth source' key' timestamp' (some rid) ∈ log) :
    source' = source ∧ key' = key ∧ timestamp' = timestamp := by
  have same := Log.eq_of_countP_le_one (recorded.once rid) call call' (by simp [AuthAction.isAccepted])
    (by simp [AuthAction.isAccepted])
  simpa [eq_comm] using same

/-- Every accepted call of `RequestAuth` gets one answer at most, after it, at its source,
with no verdict or one that the auth service gave for its key; a tick leaves no call
unanswered that is older than the timeout; and no assertion fails. Replies may be repeated
and may come for nodes that were never asked about. -/
theorem exactly_one_answer {s : AuthCacheManager keys} {log : List AuthAction}
    (reach : (authMachine keys).Reach EpochClock s log) :
    (∀ source key timestamp rid, .requestAuth source key timestamp (some rid) ∈ log →
      accepted rid log = 1 ∧ answers rid log ≤ 1 ∧
      (∀ before source' r after, log = before ++ .result rid source' r :: after →
        .requestAuth source key timestamp (some rid) ∈ before ∧ source' = source ∧
          ∀ given, r = some given → Verdict key given before) ∧
      ∀ nowMS, EpochClock s log (.tick nowMS) → timestamp + authCacheRequestTimeoutMS < nowMS →
        answers rid (log ++ (s.onTick nowMS).2) = 1) ∧
    .assertFailed ∉ log := by
  rcases epoch_invariant reach with ⟨rfl,-⟩ | ⟨sound,-⟩
  · simp
  refine ⟨?_,sound.asserts⟩
  intro source key timestamp rid call
  have recorded := sound.recorded
  have once : accepted rid log = 1 := by
    have positive : 0 < accepted rid log :=
      List.countP_pos_iff.mpr ⟨_,call,by simp [AuthAction.isAccepted]⟩
    have := recorded.once rid
    omega
  refine ⟨once,?_,?_,?_⟩
  · have := recorded.balance rid
    omega
  · intro before source' r after split
    obtain ⟨key',timestamp',call',verdict⟩ := recorded.answerable before _ after split
    have inside : .requestAuth source' key' timestamp' (some rid) ∈ log := by
      rw [split]
      exact List.mem_append_left _ call'
    obtain ⟨rfl,rfl,rfl⟩ := call_unique recorded call inside
    exact ⟨call',rfl,verdict⟩
  · intro nowMS clock late
    obtain ⟨after,timely,empty⟩ := sound_onTick sound nowMS (clock.2 nowMS rfl)
    have balance := after.recorded.balance rid
    have still : accepted rid (log ++ (s.onTick nowMS).2) = 1 := by
      have := after.recorded.once rid
      rw [accepted_append] at this ⊢
      omega
    cases held : (s.onTick nowMS).1.view.request rid with
    | none => simpa [still,held] using balance.symm
    | some r =>
      -- A request that is still held waits at a node that was asked about after it came.
      obtain ⟨key',call',-⟩ := after.recorded.requested rid r held
      obtain ⟨-,-,stamp⟩ := call_unique after.recorded (List.mem_append_left _ call) call'
      rcases after.punctual.held rid r held with dispatched | ⟨node,found,member⟩
      · rw [show (s.onTick nowMS).1.view.dispatch = [] from empty] at dispatched
        simp at dispatched
      · have recent := AuthTable.timely_waiting after.linked after.punctual timely found
          (List.ne_nil_of_mem member)
        have waited := after.punctual.waited _ node found rid member r held
        have now : (s.onTick nowMS).1.view.now = nowMS := s.onTick_ticker sound.linked nowMS
        omega

def openVerdict : QueryAuthCacheResp :=
  { countryId := 1, stateId := 0, cityId := 0, isBlocked := false, requireIpv6 := false
    requireUdp := false, requireRemoteDns := false, autoChangeIp := false }

/-- One request, its query answered, and a tick that dispatches the verdict. -/
def oneLogin : List AuthEvent :=
  [.requestAuth 7 (ascii "u:p"),.serverPacket 1 openVerdict,.tick 1000100]

theorem oneLogin_reach : (authMachine .sequential).Reach EpochClock
    ((authMachine .sequential).run (.init .sequential 1000000 8) oneLogin).1
    ((authMachine .sequential).run (.init .sequential 1000000 8) oneLogin).2 := by
  have start : (authMachine .sequential).Reach EpochClock (.init .sequential 1000000 8) [] :=
    .start ⟨_,_,rfl⟩
  refine start.run oneLogin ⟨?_,?_,?_,trivial⟩
  all_goals refine ⟨by decide,?_⟩
  all_goals intro nowMS tick
  all_goals cases tick
  decide

theorem exactly_one_answer_oneLogin :
    accepted 1 ((authMachine .sequential).run (.init .sequential 1000000 8) oneLogin).2 = 1 ∧
    .assertFailed ∉ ((authMachine .sequential).run (.init .sequential 1000000 8) oneLogin).2 := by
  obtain ⟨calls,asserts⟩ := exactly_one_answer oneLogin_reach
  exact ⟨(calls 7 (ascii "u:p") 1000000 1 (by decide)).1,asserts⟩

end MiniPP.Proxy
