import Mathlib.Logic.Function.Basic
import MiniPP.Proxy.AuthCache

/-! The auth cache as a table: the requests and the nodes by id, the node of each key, and
the three orders. `Step` says what can happen to it at a time; what holds of every table
that steps can reach is proved here once. -/
namespace MiniPP.Proxy

open Function (update update_self update_of_ne)

structure AuthTable where
  now : Nat
  reconfirm : Nat
  request : Nat → Option AuthRequestNode
  node : Nat → Option AuthCacheNode
  byKey : Bytes → Option Nat
  used : List Nat
  asked : List Nat
  dispatch : List Nat
  /-- The ids given out so far. -/
  requestIds : Nat → Prop
  nodeIds : Nat → Prop

namespace AuthTable

/-- The verdict that a reply is decoded to. -/
def verdict (resp : QueryAuthCacheResp) : AuthResult := { toQueryAuthCacheResp := resp, ready := true }

/-- The node `id` and its key stop to exist. -/
def drop (t : AuthTable) (id : Nat) (node : AuthCacheNode) : AuthTable :=
  { t with
    node := update t.node id none
    byKey := update t.byKey node.userPass none
    used := without t.used id
    asked := without t.asked id }

/-- Request `rid` joins the node `id`, which is asked about anew when its verdict is old. -/
def place (t : AuthTable) (source rid id : Nat) (node : AuthCacheNode) (key : Bytes) : AuthTable :=
  let renew := node.lastUpdateTimestampMS ≤ t.reconfirm
  { t with
    request := update t.request rid (some
      { requestTimestamp := t.now, requestSourceId := source, cacheNodeId := id })
    requestIds := fun other => other = rid ∨ t.requestIds other
    node := update t.node id (some { node with
      lastUsedTimestampMS := t.now
      lastUpdateTimestampMS := if renew then t.now else node.lastUpdateTimestampMS
      requestList := if node.result.ready then node.requestList else node.requestList ++ [rid] })
    nodeIds := fun other => other = id ∨ t.nodeIds other
    byKey := update t.byKey key (some id)
    used := toTail t.used id
    asked := if renew then toTail t.asked id else t.asked
    dispatch := if node.result.ready then t.dispatch ++ [rid] else t.dispatch }

/-- Request `rid` gets no node, and so will get no verdict. -/
def unplace (t : AuthTable) (source rid : Nat) : AuthTable :=
  { t with
    request := update t.request rid (some { requestTimestamp := t.now, requestSourceId := source })
    requestIds := fun other => other = rid ∨ t.requestIds other
    dispatch := t.dispatch ++ [rid] }

/-- The node `id` has a verdict, and the requests that waited for it are to be dispatched. -/
def answer (t : AuthTable) (id : Nat) (resp : QueryAuthCacheResp) (node : AuthCacheNode) : AuthTable :=
  { t with
    node := update t.node id (some { node with
      result := verdict resp
      requestList := []
      lastUsedTimestampMS := t.now })
    used := toTail t.used id
    asked := without t.asked id
    dispatch := t.dispatch ++ node.requestList }

/-- Node `id` is the one of `key`, or a new one for it. -/
def NodeFor (t : AuthTable) (key : Bytes) (id : Nat) (node : AuthCacheNode) : Prop :=
  (t.node id = some node ∧ t.byKey key = some id) ∨
    (¬ t.nodeIds id ∧ id ≠ 0 ∧ t.byKey key = none ∧ node = { userPass := key })

/-- The turns of the three loops of a tick. -/
def Expire (t : AuthTable) (out : List AuthAction) (t' : AuthTable) : Prop :=
  ∃ id node, t.node id = some node ∧
    node.lastUpdateTimestampMS < sub64 t.now authCacheRequestTimeoutMS ∧ out = [] ∧
    t' = { t.drop id node with dispatch := t.dispatch ++ node.requestList }

def Evict (t : AuthTable) (out : List AuthAction) (t' : AuthTable) : Prop :=
  ∃ id node, t.node id = some node ∧
    node.lastUsedTimestampMS < sub64 t.now authCacheNodeTimeoutMS ∧
    out = (if node.requestList = [] then [] else [.assertFailed]) ∧ t' = t.drop id node

def Dispatch (t : AuthTable) (out : List AuthAction) (t' : AuthTable) : Prop :=
  ∃ rid r, t.request rid = some r ∧ rid ∈ t.dispatch ∧
    out = [.result rid r.requestSourceId ((t.node r.cacheNodeId).map AuthCacheNode.result)] ∧
    t' = { t with request := update t.request rid none, dispatch := without t.dispatch rid }

inductive Step (t : AuthTable) : List AuthAction → AuthTable → Prop where
  | refused (source : Nat) (key : Bytes) :
      Step t [.requestAuth source key t.now none] t
  | unplaced (source rid : Nat) (key : Bytes) (fresh : ¬ t.requestIds rid) :
      Step t [.requestAuth source key t.now (some rid)] (t.unplace source rid)
  | placed (source rid id : Nat) (key : Bytes) (node : AuthCacheNode) (fresh : ¬ t.requestIds rid)
      (found : t.NodeFor key id node) :
      Step t (.requestAuth source key t.now (some rid) ::
          if node.lastUpdateTimestampMS ≤ t.reconfirm then [.query id key] else [])
        (t.place source rid id node key)
  | ignored (id : Nat) (resp : QueryAuthCacheResp) (gone : t.node id = none) :
      Step t [.reply id resp] t
  | answered (id : Nat) (resp : QueryAuthCacheResp) (node : AuthCacheNode)
      (found : t.node id = some node) :
      Step t [.reply id resp] (t.answer id resp node)
  | expired {out : List AuthAction} {t' : AuthTable} : Expire t out t' → Step t out t'
  | evicted {out : List AuthAction} {t' : AuthTable} : Evict t out t' → Step t out t'
  | dispatched {out : List AuthAction} {t' : AuthTable} : Dispatch t out t' → Step t out t'
  | tick (now : Nat) :
      Step t [] { t with now := now, reconfirm := sub64 now authCacheReconfirmTimeoutMS }

/-! ## What is linked to what -/

structure Linked (t : AuthTable) : Prop where
  mapped : ∀ id node, t.node id = some node → t.byKey node.userPass = some id
  known : ∀ key id, t.byKey key = some id → ∃ node, t.node id = some node ∧ node.userPass = key
  used : ∀ id ∈ t.used, (t.node id).isSome
  asked : ∀ id ∈ t.asked, (t.node id).isSome
  answered : ∀ id node, t.node id = some node → node.result.ready = true → node.requestList = []
  listed : ∀ id node, t.node id = some node → ∀ rid ∈ node.requestList,
    ∃ r, t.request rid = some r ∧ r.cacheNodeId = id
  dispatched : ∀ rid ∈ t.dispatch, ∃ r, t.request rid = some r ∧
    ∀ node, t.node r.cacheNodeId = some node → node.result.ready = true
  requestIds : ∀ rid r, t.request rid = some r → t.requestIds rid
  nodeIds : ∀ id node, t.node id = some node → t.nodeIds id
  named : ∀ rid r, t.request rid = some r → r.cacheNodeId = 0 ∨ t.nodeIds r.cacheNodeId
  zero : t.node 0 = none

/-- Two live nodes are of different keys. -/
theorem Linked.key_injective {t : AuthTable} (linked : Linked t) {id id' : Nat}
    {node node' : AuthCacheNode} (here : t.node id = some node) (there : t.node id' = some node')
    (key : node.userPass = node'.userPass) : id = id' := by
  have first := linked.mapped id node here
  have second := linked.mapped id' node' there
  rw [key,second] at first
  exact (Option.some.inj first).symm

theorem NodeFor.userPass {t : AuthTable} {key : Bytes} {id : Nat} {node : AuthCacheNode}
    (linked : Linked t) (found : t.NodeFor key id node) : node.userPass = key := by
  rcases found with ⟨live,mapped⟩ | ⟨-,-,-,rfl⟩
  · obtain ⟨node',live',key'⟩ := linked.known key id mapped
    rw [live] at live'
    rw [Option.some.inj live']
    exact key'
  · rfl

/-- The node of a request is one that lives, or a new one. -/
theorem NodeFor.live_or_new {t : AuthTable} {key : Bytes} {id : Nat} {node : AuthCacheNode}
    (found : t.NodeFor key id node) :
    t.node id = some node ∨ (node = { userPass := key } ∧ ¬ t.nodeIds id) := by
  rcases found with ⟨live,-⟩ | ⟨fresh,-,-,rfl⟩
  · exact .inl live
  · exact .inr ⟨rfl,fresh⟩

theorem NodeFor.nonzero {t : AuthTable} {key : Bytes} {id : Nat} {node : AuthCacheNode} (linked : Linked t)
    (found : t.NodeFor key id node) : id ≠ 0 := by
  rcases found with ⟨live,-⟩ | ⟨-,nonzero,-⟩
  · intro same
    rw [same,linked.zero] at live
    cases live
  · exact nonzero

/-- No other node has its key. -/
theorem NodeFor.only {t : AuthTable} {key : Bytes} {id id' : Nat} {node node' : AuthCacheNode} (linked : Linked t)
    (found : t.NodeFor key id node) (live : t.node id' = some node') (same : node'.userPass = key) : id' = id := by
  have mapped := linked.mapped id' node' live
  rw [same] at mapped
  rcases found with ⟨-,mapped'⟩ | ⟨-,-,free,-⟩
  · exact Option.some.inj (mapped.symm.trans mapped')
  · rw [free] at mapped
    cases mapped

theorem NodeFor.answered {t : AuthTable} {key : Bytes} {id : Nat} {node : AuthCacheNode} (linked : Linked t)
    (found : t.NodeFor key id node) (ready : node.result.ready = true) : node.requestList = [] := by
  rcases found.live_or_new with live | ⟨rfl,-⟩
  · exact linked.answered id node live ready
  · rfl

theorem NodeFor.listed {t : AuthTable} {key : Bytes} {id : Nat} {node : AuthCacheNode} (linked : Linked t)
    (found : t.NodeFor key id node) :
    ∀ rid ∈ node.requestList, ∃ r, t.request rid = some r ∧ r.cacheNodeId = id := by
  rcases found.live_or_new with live | ⟨rfl,-⟩
  · exact linked.listed id node live
  · simp

/-- Nothing names an id that was not given out. -/
theorem Linked.not_named {t : AuthTable} (linked : Linked t) {id : Nat} (fresh : ¬ t.nodeIds id)
    (nonzero : id ≠ 0) {rid : Nat} {r : AuthRequestNode} (found : t.request rid = some r) :
    r.cacheNodeId ≠ id := by
  intro same
  rcases linked.named rid r found with zero | given
  · exact nonzero (same.symm.trans zero)
  · exact fresh (same ▸ given)

theorem Linked.apart {t : AuthTable} (linked : Linked t) {rid rid' : Nat} (fresh : ¬ t.requestIds rid)
    {r : AuthRequestNode} (old : t.request rid' = some r) : rid' ≠ rid := by
  rintro rfl
  exact fresh (linked.requestIds rid' r old)

theorem Linked.no_request {t : AuthTable} (linked : Linked t) {rid : Nat} (fresh : ¬ t.requestIds rid) :
    t.request rid = none := by
  cases old : t.request rid with
  | none => rfl
  | some r => exact absurd rfl (linked.apart fresh old)

theorem linked_unplaced {t : AuthTable} (linked : Linked t) (source rid : Nat)
    (fresh : ¬ t.requestIds rid) : Linked (t.unplace source rid) := by
  have kept {rid' : Nat} {r : AuthRequestNode} (old : t.request rid' = some r) :
      (t.unplace source rid).request rid' = some r := (update_of_ne (linked.apart fresh old) _ _).trans old
  constructor
  case mapped => exact linked.mapped
  case known => exact linked.known
  case used => exact linked.used
  case asked => exact linked.asked
  case answered => exact linked.answered
  case listed =>
    intro id node live rid' member
    obtain ⟨r,request,here⟩ := linked.listed id node live rid' member
    exact ⟨r,kept request,here⟩
  case dispatched =>
    intro rid' member
    rcases List.mem_append.mp member with old | newest
    · obtain ⟨r,request,ready⟩ := linked.dispatched rid' old
      exact ⟨r,kept request,ready⟩
    · obtain rfl := List.mem_singleton.mp newest
      refine ⟨_,update_self _ _ _,fun node live => ?_⟩
      cases linked.zero.symm.trans live
  case requestIds =>
    intro rid' r request
    rcases of_update_some request with ⟨same,-⟩ | ⟨-,old⟩
    · exact .inl same
    · exact .inr (linked.requestIds rid' r old)
  case nodeIds => exact linked.nodeIds
  case named =>
    intro rid' r request
    rcases of_update_some request with ⟨-,rfl⟩ | ⟨-,old⟩
    · exact .inl rfl
    · exact linked.named rid' r old
  case zero => exact linked.zero

/-- The node as the request leaves it. -/
def joined (t : AuthTable) (rid : Nat) (node : AuthCacheNode) : AuthCacheNode :=
  { node with
    lastUsedTimestampMS := t.now
    lastUpdateTimestampMS :=
      if node.lastUpdateTimestampMS ≤ t.reconfirm then t.now else node.lastUpdateTimestampMS
    requestList := if node.result.ready then node.requestList else node.requestList ++ [rid] }

theorem place_node {t : AuthTable} {source rid id other : Nat} {key : Bytes} {node node' : AuthCacheNode}
    (found : (t.place source rid id node key).node other = some node') :
    (other = id ∧ node' = t.joined rid node) ∨ (other ≠ id ∧ t.node other = some node') :=
  of_update_some found

theorem place_request {t : AuthTable} {source rid id other : Nat} {key : Bytes} {node : AuthCacheNode}
    {r : AuthRequestNode} (found : (t.place source rid id node key).request other = some r) :
    (other = rid ∧ r = { requestTimestamp := t.now, requestSourceId := source, cacheNodeId := id }) ∨
      (other ≠ rid ∧ t.request other = some r) := of_update_some found

theorem linked_placed {t : AuthTable} (linked : Linked t) (source rid id : Nat) (key : Bytes)
    (node : AuthCacheNode) (fresh : ¬ t.requestIds rid) (found : t.NodeFor key id node) :
    Linked (t.place source rid id node key) := by
  have own := found.userPass linked
  have nonzero := found.nonzero linked
  have here : (t.place source rid id node key).node id = some (t.joined rid node) := update_self _ _ _
  have there {id' : Nat} (apart : id' ≠ id) : (t.place source rid id node key).node id' = t.node id' :=
    update_of_ne apart _ _
  have kept {rid' : Nat} {r : AuthRequestNode} (old : t.request rid' = some r) :
      (t.place source rid id node key).request rid' = some r :=
    (update_of_ne (linked.apart fresh old) _ _).trans old
  have newest : (t.place source rid id node key).request rid =
      some { requestTimestamp := t.now, requestSourceId := source, cacheNodeId := id } := update_self _ _ _
  have some_ {id' : Nat} (member : (t.node id').isSome ∨ id' = id) :
      ((t.place source rid id node key).node id').isSome := by
    by_cases same : id' = id
    · rw [same,here]
      rfl
    · rw [there same]
      exact member.resolve_right same
  constructor
  case mapped =>
    intro id' node' live'
    rcases place_node live' with ⟨rfl,rfl⟩ | ⟨apart,old⟩
    · exact own ▸ update_self _ _ _
    · have differs : node'.userPass ≠ key := fun same => apart (found.only linked old same)
      exact (update_of_ne differs _ _).trans (linked.mapped id' node' old)
  case known =>
    intro key' id' mapped
    by_cases same : key' = key
    · obtain rfl : id = id' := by simpa [place,same] using mapped
      exact ⟨_,here,own.trans same.symm⟩
    · obtain ⟨node',old,rfl⟩ := linked.known key' id' ((update_of_ne same _ _).symm.trans mapped)
      refine ⟨node',(there ?_).trans old,rfl⟩
      rintro rfl
      rcases found.live_or_new with live | ⟨-,fresh'⟩
      · rw [live] at old
        cases old
        exact same own
      · exact fresh' (linked.nodeIds _ _ old)
  case used =>
    intro id' member
    refine some_ ((mem_toTail.mp member).imp_left fun old => ?_)
    exact linked.used id' old.1
  case asked =>
    intro id' member
    simp only [place] at member
    split at member
    · exact some_ ((mem_toTail.mp member).imp_left fun old => linked.asked id' old.1)
    · exact some_ (.inl (linked.asked id' member))
  case answered =>
    intro id' node' live' ready
    rcases place_node live' with ⟨-,rfl⟩ | ⟨-,old⟩
    · exact (if_pos ready).trans (found.answered linked ready)
    · exact linked.answered id' node' old ready
  case listed =>
    intro id' node' live' rid' member
    rcases place_node live' with ⟨rfl,rfl⟩ | ⟨-,old⟩
    · have waits : rid' ∈ node.requestList ∨ rid' = rid := by
        simp only [joined] at member
        split at member
        · exact .inl member
        · simpa using member
      rcases waits with before | rfl
      · obtain ⟨r,old,names⟩ := found.listed linked rid' before
        exact ⟨r,kept old,names⟩
      · exact ⟨_,newest,rfl⟩
    · obtain ⟨r,old,names⟩ := linked.listed id' node' old rid' member
      exact ⟨r,kept old,names⟩
  case dispatched =>
    intro rid' member
    have comes : rid' ∈ t.dispatch ∨ (rid' = rid ∧ node.result.ready = true) := by
      simp only [place] at member
      split at member
      · rename_i ready
        exact (List.mem_append.mp member).imp_right fun last => ⟨List.mem_singleton.mp last,ready⟩
      · exact .inl member
    rcases comes with before | ⟨rfl,ready⟩
    · obtain ⟨r,old,answer⟩ := linked.dispatched rid' before
      refine ⟨r,kept old,fun node' live' => ?_⟩
      rcases place_node live' with ⟨same,rfl⟩ | ⟨-,old'⟩
      · -- A request that is dispatched names no node that is new.
        rcases found with ⟨old',-⟩ | ⟨fresh',-⟩
        · exact answer node (same ▸ old')
        · exact absurd same (linked.not_named fresh' nonzero old)
      · exact answer node' old'
    · refine ⟨_,newest,fun node' live' => ?_⟩
      rw [here] at live'
      cases live'
      exact ready
  case requestIds =>
    intro rid' r request
    rcases place_request request with ⟨same,-⟩ | ⟨-,old⟩
    · exact .inl same
    · exact .inr (linked.requestIds rid' r old)
  case nodeIds =>
    intro id' node' live'
    rcases place_node live' with ⟨same,-⟩ | ⟨-,old⟩
    · exact .inl same
    · exact .inr (linked.nodeIds id' node' old)
  case named =>
    intro rid' r request
    rcases place_request request with ⟨-,rfl⟩ | ⟨-,old⟩
    · exact .inr (.inl rfl)
    · exact (linked.named rid' r old).imp_right .inr
  case zero => exact (there nonzero.symm).trans linked.zero

/-- The node as a reply leaves it. -/
def settled (t : AuthTable) (resp : QueryAuthCacheResp) (node : AuthCacheNode) : AuthCacheNode :=
  { node with
    result := verdict resp
    requestList := []
    lastUsedTimestampMS := t.now }

theorem answer_self (t : AuthTable) (id : Nat) (resp : QueryAuthCacheResp) (node : AuthCacheNode) :
    (t.answer id resp node).node id = some (t.settled resp node) := update_self _ _ _

theorem answer_of_ne (t : AuthTable) {id other : Nat} (apart : other ≠ id) (resp : QueryAuthCacheResp)
    (node : AuthCacheNode) : (t.answer id resp node).node other = t.node other := update_of_ne apart _ _

theorem answer_node {t : AuthTable} {id other : Nat} {resp : QueryAuthCacheResp} {node node' : AuthCacheNode}
    (live : (t.answer id resp node).node other = some node') :
    (other = id ∧ node' = t.settled resp node) ∨ (other ≠ id ∧ t.node other = some node') :=
  of_update_some live

/-- Requests leave the node they waited at together, and are answered from then on. -/
theorem linked_answered {t : AuthTable} (linked : Linked t) (id : Nat) (resp : QueryAuthCacheResp)
    (node : AuthCacheNode) (found : t.node id = some node) : Linked (t.answer id resp node) := by
  have some_ {id' : Nat} (live : (t.node id').isSome) : ((t.answer id resp node).node id').isSome := by
    by_cases same : id' = id
    · rw [same,answer_self]
      rfl
    · rwa [answer_of_ne t same]
  constructor
  case mapped =>
    intro id' node' live
    rcases answer_node live with ⟨rfl,rfl⟩ | ⟨-,old⟩
    · exact linked.mapped id' node found
    · exact linked.mapped id' node' old
  case known =>
    intro key id' mapped
    obtain ⟨node',live,rfl⟩ := linked.known key id' mapped
    by_cases same : id' = id
    · subst same
      rw [found] at live
      cases live
      exact ⟨_,answer_self t id' resp node,rfl⟩
    · exact ⟨node',(answer_of_ne t same resp node).trans live,rfl⟩
  case used =>
    intro id' member
    rcases mem_toTail.mp member with ⟨old,-⟩ | rfl
    · exact some_ (linked.used id' old)
    · exact some_ (by rw [found]; rfl)
  case asked => exact fun id' member => some_ (linked.asked id' (mem_without.mp member).1)
  case answered =>
    intro id' node' live ready
    rcases answer_node live with ⟨-,rfl⟩ | ⟨-,old⟩
    · rfl
    · exact linked.answered id' node' old ready
  case listed =>
    intro id' node' live rid member
    rcases answer_node live with ⟨-,rfl⟩ | ⟨-,old⟩
    · cases member
    · exact linked.listed id' node' old rid member
  case dispatched =>
    intro rid member
    rcases List.mem_append.mp member with old | moved
    · obtain ⟨r,request,ready⟩ := linked.dispatched rid old
      refine ⟨r,request,fun node' live => ?_⟩
      rcases answer_node live with ⟨-,rfl⟩ | ⟨-,before⟩
      · rfl
      · exact ready node' before
    · obtain ⟨r,request,here⟩ := linked.listed id node found rid moved
      refine ⟨r,request,fun node' live => ?_⟩
      rcases answer_node live with ⟨-,rfl⟩ | ⟨apart,-⟩
      · rfl
      · exact absurd here apart
  case requestIds => exact linked.requestIds
  case nodeIds =>
    intro id' node' live
    rcases answer_node live with ⟨rfl,-⟩ | ⟨-,old⟩
    · exact linked.nodeIds id' node found
    · exact linked.nodeIds id' node' old
  case named => exact linked.named
  case zero =>
    refine (answer_of_ne t ?_ resp node).trans linked.zero
    rintro rfl
    rw [linked.zero] at found
    cases found

theorem drop_node {t : AuthTable} (id : Nat) (node : AuthCacheNode) {other : Nat} {node' : AuthCacheNode}
    (live : (t.drop id node).node other = some node') : other ≠ id ∧ t.node other = some node' :=
  of_update_none live

theorem linked_drop {t : AuthTable} (linked : Linked t) (id : Nat) (node : AuthCacheNode)
    (found : t.node id = some node) : Linked (t.drop id node) := by
  have there {id' : Nat} (apart : id' ≠ id) : (t.drop id node).node id' = t.node id' :=
    update_of_ne apart _ _
  constructor
  case mapped =>
    intro id' node' live
    obtain ⟨apart,old⟩ := drop_node id node live
    have differs : node'.userPass ≠ node.userPass := fun same => apart (linked.key_injective old found same)
    exact (update_of_ne differs _ _).trans (linked.mapped id' node' old)
  case known =>
    intro key id' mapped
    by_cases same : key = node.userPass
    · simp [AuthTable.drop,same] at mapped
    · obtain ⟨node',old,rfl⟩ := linked.known key id' ((update_of_ne same _ _).symm.trans mapped)
      refine ⟨node',(there ?_).trans old,rfl⟩
      rintro rfl
      rw [found] at old
      cases old
      exact same rfl
  case used =>
    intro id' member
    obtain ⟨old,apart⟩ := mem_without.mp member
    rw [there apart]
    exact linked.used id' old
  case asked =>
    intro id' member
    obtain ⟨old,apart⟩ := mem_without.mp member
    rw [there apart]
    exact linked.asked id' old
  case answered => exact fun id' node' live => linked.answered id' node' (drop_node id node live).2
  case listed => exact fun id' node' live => linked.listed id' node' (drop_node id node live).2
  case dispatched =>
    intro rid member
    obtain ⟨r,request,ready⟩ := linked.dispatched rid member
    exact ⟨r,request,fun node' live => ready node' (drop_node id node live).2⟩
  case requestIds => exact linked.requestIds
  case nodeIds => exact fun id' node' live => linked.nodeIds id' node' (drop_node id node live).2
  case named => exact linked.named
  case zero =>
    cases live : (t.drop id node).node 0 with
    | none => rfl
    | some node' =>
      have old := (drop_node id node live).2
      rw [linked.zero] at old
      cases old

theorem linked_expired {t : AuthTable} (linked : Linked t) (id : Nat) (node : AuthCacheNode)
    (found : t.node id = some node) :
    Linked { t.drop id node with dispatch := t.dispatch ++ node.requestList } := by
  have dropped := linked_drop linked id node found
  obtain ⟨mapped,known,used,asked,answered,listed,dispatched,requestIds,nodeIds,named,zero⟩ := dropped
  refine ⟨mapped,known,used,asked,answered,listed,?_,requestIds,nodeIds,named,zero⟩
  intro rid member
  rcases List.mem_append.mp member with old | moved
  · exact dispatched rid old
  · obtain ⟨r,request,here⟩ := linked.listed id node found rid moved
    refine ⟨r,request,?_⟩
    intro other live
    exact absurd here (drop_node id node live).1

theorem linked_dispatched {t : AuthTable} (linked : Linked t) (rid : Nat) (r : AuthRequestNode)
    (found : t.request rid = some r) (ready : rid ∈ t.dispatch) :
    Linked { t with
      request := update t.request rid none
      dispatch := without t.dispatch rid } := by
  constructor
  case mapped => exact linked.mapped
  case known => exact linked.known
  case used => exact linked.used
  case asked => exact linked.asked
  case answered => exact linked.answered
  case listed =>
    intro id node live rid' member
    obtain ⟨r',request,here⟩ := linked.listed id node live rid' member
    refine ⟨r',(update_of_ne ?_ _ _).trans request,here⟩
    -- A request that is dispatched has a node with an answer, which has no list any more.
    rintro rfl
    obtain ⟨r'',again,answer⟩ := linked.dispatched rid' ready
    obtain rfl := Option.some.inj (again.symm.trans request)
    have empty := linked.answered id node live (answer node (here ▸ live))
    rw [empty] at member
    cases member
  case dispatched =>
    intro rid' member
    obtain ⟨old,apart⟩ := mem_without.mp member
    obtain ⟨r',request,answer⟩ := linked.dispatched rid' old
    exact ⟨r',(update_of_ne apart _ _).trans request,answer⟩
  case requestIds => exact fun rid' r' request => linked.requestIds rid' r' (of_update_none request).2
  case nodeIds => exact linked.nodeIds
  case named => exact fun rid' r' request => linked.named rid' r' (of_update_none request).2
  case zero => exact linked.zero

theorem linked_step {t t' : AuthTable} {out : List AuthAction} (linked : Linked t)
    (step : Step t out t') : Linked t' := by
  cases step with
  | refused => exact linked
  | unplaced source rid key fresh => exact linked_unplaced linked source rid fresh
  | placed source rid id key node fresh found => exact linked_placed linked source rid id key node fresh found
  | ignored => exact linked
  | answered id resp node found => exact linked_answered linked id resp node found
  | expired turn =>
    obtain ⟨id,node,found,-,-,rfl⟩ := turn
    exact linked_expired linked id node found
  | evicted turn =>
    obtain ⟨id,node,found,-,-,rfl⟩ := turn
    exact linked_drop linked id node found
  | dispatched turn =>
    obtain ⟨rid,r,found,listed,-,rfl⟩ := turn
    exact linked_dispatched linked rid r found listed
  | tick => exact ⟨linked.mapped,linked.known,linked.used,linked.asked,linked.answered,linked.listed,
      linked.dispatched,linked.requestIds,linked.nodeIds,linked.named,linked.zero⟩

end AuthTable

end MiniPP.Proxy
