import MiniPP.Proxy.AuthTiming

/-! How old a verdict can be when it is served. Every reply is taken with the query that it
answers, so that the query behind each verdict is on record. -/
namespace MiniPP.Proxy

open Function (update update_self update_of_ne)

structure PostedQuery where
  node : Nat
  userPass : Bytes
  postedAt : Nat
  deriving DecidableEq, Repr

/-- The queries that have no reply yet, and the query and the reply that each node had last. -/
structure QueryRecord where
  waiting : List PostedQuery := []
  answer : Nat → Option (PostedQuery × QueryAuthCacheResp) := fun _ => none

inductive QueryEvent where
  | requestAuth (source : Nat) (userPass : Bytes)
  | reply (query : PostedQuery) (resp : QueryAuthCacheResp)
  | tick (nowMS : Nat)

/-- What the cache sees of an event: of the query it gets the id of the node. -/
def QueryEvent.seen : QueryEvent → AuthEvent
  | .requestAuth source userPass => .requestAuth source userPass
  | .reply query resp => .serverPacket query.node resp
  | .tick nowMS => .tick nowMS

def AuthAction.posted (now : Nat) : AuthAction → Option PostedQuery
  | .query node userPass => some { node, userPass, postedAt := now }
  | _ => none

namespace QueryRecord

def posts (record : QueryRecord) (now : Nat) (out : List AuthAction) : QueryRecord :=
  { record with waiting := record.waiting ++ out.filterMap (AuthAction.posted now) }

def replies (record : QueryRecord) (query : PostedQuery) (resp : QueryAuthCacheResp) : QueryRecord where
  waiting := record.waiting.erase query
  answer := update record.answer query.node (some (query,resp))

def note (record : QueryRecord) (now : Nat) (e : QueryEvent) (out : List AuthAction) : QueryRecord :=
  match e with
  | .reply query resp => record.replies query resp
  | _ => record.posts now out

end QueryRecord

/-- The auth cache with a record of its queries. -/
def queryMachine (keys : KeySource) : Machine (AuthCacheManager keys × QueryRecord) QueryEvent AuthAction where
  start c := (authMachine keys).start c.1 ∧ c.2 = {}
  step c e :=
    let (s,out) := (authMachine keys).step c.1 e.seen
    ((s,c.2.note c.1.ticker e out),out)

/-- An epoch clock that does not go back, and at most one reply for each posted query. -/
def OneReplyEach {keys : KeySource} (c : AuthCacheManager keys × QueryRecord) (log : List AuthAction)
    (e : QueryEvent) : Prop :=
  EpochClock c.1 log e.seen ∧ ∀ query resp, e = .reply query resp → query ∈ c.2.waiting

namespace AuthTable

/-- `a` was used no later than `b`. -/
def UsedBefore (t : AuthTable) (a b : Nat) : Prop :=
  ∀ first second, t.node a = some first → t.node b = some second →
    first.lastUsedTimestampMS ≤ second.lastUsedTimestampMS

/-- The query behind the verdict of a node. While a newer one is open, the verdict may be that
of the node's former life; else the node has not been used since it was time to ask anew. -/
def Behind (t : AuthTable) (id : Nat) (node : AuthCacheNode) (query : PostedQuery) : Prop :=
  (id ∈ t.asked ∧ node.lastUpdateTimestampMS <
    query.postedAt + authCacheReconfirmTimeoutMS + authCacheNodeTimeoutMS) ∨
  (id ∉ t.asked ∧ query.postedAt = node.lastUpdateTimestampMS ∧
    node.lastUsedTimestampMS < node.lastUpdateTimestampMS + authCacheReconfirmTimeoutMS)

theorem behind_same {t t' : AuthTable} {id : Nat} {node : AuthCacheNode} {query : PostedQuery}
    (asked : id ∈ t'.asked ↔ id ∈ t.asked) (behind : t.Behind id node query) : t'.Behind id node query := by
  rcases behind with ⟨member,bound⟩ | ⟨absent,rest⟩
  · exact .inl ⟨asked.mpr member,bound⟩
  · exact .inr ⟨mt asked.mp absent,rest⟩

structure Queried (t : AuthTable) (record : QueryRecord) : Prop where
  order : t.used.Pairwise t.UsedBefore
  listed : ∀ id node, t.node id = some node → id ∈ t.used
  given : ∀ query ∈ record.waiting, t.nodeIds query.node
  open_ : ∀ query ∈ record.waiting, ∀ node, t.node query.node = some node →
    query.node ∈ t.asked ∧ query.userPass = node.userPass ∧
      query.postedAt = node.lastUpdateTimestampMS
  once : ∀ id node, t.node id = some node → record.waiting.countP (fun query => query.node == id) ≤ 1
  behind : ∀ id node, t.node id = some node → node.result.ready = true →
    ∃ query resp, record.answer id = some (query,resp) ∧ query.userPass = node.userPass ∧
      node.result = verdict resp ∧ t.Behind id node query

/-- No node is left that was not used for long. Only the loops of a tick go without this. -/
def Fresh (t : AuthTable) : Prop :=
  ∀ id node, t.node id = some node → t.now ≤ node.lastUsedTimestampMS + authCacheNodeTimeoutMS

/-- Once the first node in the order was used lately, all were. -/
theorem fresh_of_head {t : AuthTable} {record : QueryRecord} (linked : Linked t) (punctual : Punctual t)
    (queried : Queried t record) (recent : ∀ id ∈ t.used.head?, ∀ node, t.node id = some node →
      ¬ node.lastUsedTimestampMS < sub64 t.now authCacheNodeTimeoutMS) : Fresh t := by
  intro id node found
  have member := queried.listed id node found
  have order := queried.order
  have alive := linked.used
  rw [sub64_of_le punctual.clock] at recent
  cases list : t.used with
  | nil => simp [list] at member
  | cons first rest =>
    rw [list] at recent member order alive
    obtain ⟨head,live⟩ := Option.isSome_iff_exists.mp (alive first (by simp))
    have lately := recent first rfl head live
    have later : head.lastUsedTimestampMS ≤ node.lastUsedTimestampMS := by
      rcases List.mem_cons.mp member with rfl | behind
      · rw [found] at live
        exact Nat.le_of_eq (congrArg _ (Option.some.inj live.symm))
      · exact (List.pairwise_cons.mp order).1 id behind head node live found
    omega

/-! ## A request -/

section Placed

variable {t : AuthTable} {record : QueryRecord} {source rid id : Nat} {key : Bytes} {node : AuthCacheNode}

/-- The node used last is at the tail. -/
theorem used_renewed {t' : AuthTable} (punctual : Punctual t) (order : t.used.Pairwise t.UsedBefore)
    (others : ∀ other, other ≠ id → t'.node other = t.node other)
    (newest : ∀ node, t'.node id = some node → node.lastUsedTimestampMS = t.now) :
    (toTail t.used id).Pairwise t'.UsedBefore := by
  apply pairwise_toTail order
  · intro a b apartA apartB before first second foundA foundB
    rw [others a apartA] at foundA
    rw [others b apartB] at foundB
    exact before first second foundA foundB
  · intro a _ apart first second foundA foundLast
    rw [others a apart] at foundA
    rw [newest second foundLast]
    exact (punctual.past a first foundA).2

/-- The query that a request adds to the open ones. -/
def asks (t : AuthTable) (id : Nat) (key : Bytes) (node : AuthCacheNode) : List PostedQuery :=
  if node.lastUpdateTimestampMS ≤ t.reconfirm then [{ node := id, userPass := key, postedAt := t.now }] else []

theorem posts_placed : record.posts t.now (.requestAuth source key t.now (some rid) ::
      if node.lastUpdateTimestampMS ≤ t.reconfirm then [.query id key] else []) =
    { record with waiting := record.waiting ++ t.asks id key node } := by
  unfold QueryRecord.posts asks
  split <;> rfl

/-- A query that is open for the node is the one it was asked about with last. -/
theorem not_open_of_renew (punctual : Punctual t) (timely : Timely t)
    (queried : Queried t record) (found : t.NodeFor key id node)
    (renew : node.lastUpdateTimestampMS ≤ t.reconfirm) (query : PostedQuery)
    (member : query ∈ record.waiting) : query.node ≠ id := by
  rintro rfl
  rcases found with ⟨live,-⟩ | ⟨fresh,-⟩
  · have asked := (queried.open_ query member node live).1
    have recent := timely _ asked node live
    have clock := punctual.clock
    rw [punctual.reconfirm] at renew
    simp only [authCacheRequestTimeoutMS,authCacheReconfirmTimeoutMS,authCacheNodeTimeoutMS] at *
    omega
  · exact fresh (queried.given query member)

theorem given_placed (queried : Queried t record) (query : PostedQuery)
    (member : query ∈ record.waiting ++ t.asks id key node) :
    (t.place source rid id node key).nodeIds query.node := by
  rcases List.mem_append.mp member with old | new
  · exact .inr (queried.given query old)
  · unfold asks at new
    split at new
    · obtain rfl := List.mem_singleton.mp new
      exact .inl rfl
    · cases new

theorem open_placed (linked : Linked t) (punctual : Punctual t) (timely : Timely t)
    (queried : Queried t record) (found : t.NodeFor key id node) (query : PostedQuery)
    (member : query ∈ record.waiting ++ t.asks id key node) (node' : AuthCacheNode)
    (live : (t.place source rid id node key).node query.node = some node') :
    query.node ∈ (t.place source rid id node key).asked ∧ query.userPass = node'.userPass ∧
      query.postedAt = node'.lastUpdateTimestampMS := by
  rw [List.mem_append] at member
  unfold asks at member
  by_cases renew : node.lastUpdateTimestampMS ≤ t.reconfirm
  · have asked : (t.place source rid id node key).asked = toTail t.asked id := if_pos renew
    rw [if_pos renew,List.mem_singleton] at member
    rw [asked,mem_toTail]
    rcases member with old | rfl
    · have apart := not_open_of_renew punctual timely queried found renew query old
      have before : t.node query.node = some node' := (update_of_ne apart _ _).symm.trans live
      obtain ⟨listed,own,stamp⟩ := queried.open_ query old node' before
      exact ⟨.inl ⟨listed,apart⟩,own,stamp⟩
    · rcases place_node live with ⟨-,rfl⟩ | ⟨apart,-⟩
      · exact ⟨.inr rfl,(found.userPass linked).symm,(if_pos renew).symm⟩
      · exact absurd rfl apart
  · have asked : (t.place source rid id node key).asked = t.asked := if_neg renew
    rw [if_neg renew] at member
    have old : query ∈ record.waiting := member.resolve_right List.not_mem_nil
    rw [asked]
    rcases place_node live with ⟨same,rfl⟩ | ⟨-,before⟩
    · have before : t.node query.node = some node := same ▸ live_of_recent found renew
      obtain ⟨listed,own,stamp⟩ := queried.open_ query old node before
      exact ⟨listed,own,stamp.trans (if_neg renew).symm⟩
    · exact queried.open_ query old node' before

theorem once_placed (punctual : Punctual t) (timely : Timely t)
    (queried : Queried t record) (found : t.NodeFor key id node) (other : Nat) (node' : AuthCacheNode)
    (live : (t.place source rid id node key).node other = some node') :
    (record.waiting ++ t.asks id key node).countP (fun query => query.node == other) ≤ 1 := by
  rw [List.countP_append]
  unfold asks
  by_cases renew : node.lastUpdateTimestampMS ≤ t.reconfirm
  · rw [if_pos renew]
    by_cases same : other = id
    · have none : record.waiting.countP (fun query => query.node == other) = 0 := by
        apply List.countP_eq_zero.mpr
        intro query member
        have apart := not_open_of_renew punctual timely queried found renew query member
        simpa [same] using apart
      rw [none,Nat.zero_add]
      exact List.countP_le_length
    · have before : t.node other = some node' := (update_of_ne same _ _).symm.trans live
      have apart : ¬ id = other := Ne.symm same
      simpa [apart] using queried.once other node' before
  · rw [if_neg renew]
    have before : ∃ old, t.node other = some old := by
      rcases place_node live with ⟨same,-⟩ | ⟨-,before⟩
      · exact ⟨node,same ▸ live_of_recent found renew⟩
      · exact ⟨node',before⟩
    obtain ⟨old,before⟩ := before
    simpa using queried.once other old before

/-- A query made anew finds a verdict that is at most a reconfirmation and a node's idle time old. -/
theorem behind_placed (punctual : Punctual t) (timely : Timely t) (fresh : Fresh t)
    (live : t.node id = some node) (query : PostedQuery) (behind : t.Behind id node query) :
    (t.place source rid id node key).Behind id (t.joined rid node) query := by
  have clock := punctual.clock
  have late := fresh id node live
  have past := punctual.past id node live
  by_cases renew : node.lastUpdateTimestampMS ≤ t.reconfirm
  · have asked : (t.place source rid id node key).asked = toTail t.asked id := if_pos renew
    have stamp : (t.joined rid node).lastUpdateTimestampMS = t.now := if_pos renew
    refine .inl ⟨by simp [asked],?_⟩
    rw [stamp]
    rcases behind with ⟨member,-⟩ | ⟨-,posted,used⟩
    · have recent := timely id member node live
      rw [punctual.reconfirm] at renew
      simp only [authCacheRequestTimeoutMS,authCacheReconfirmTimeoutMS,authCacheNodeTimeoutMS] at *
      omega
    · omega
  · have asked : (t.place source rid id node key).asked = t.asked := if_neg renew
    have stamp : (t.joined rid node).lastUpdateTimestampMS = node.lastUpdateTimestampMS := if_neg renew
    have used : (t.joined rid node).lastUsedTimestampMS = t.now := rfl
    unfold Behind
    rw [asked,stamp,used]
    rcases behind with ⟨member,bound⟩ | ⟨absent,posted,-⟩
    · exact .inl ⟨member,bound⟩
    · refine .inr ⟨absent,posted,?_⟩
      rw [punctual.reconfirm] at renew
      simp only [authCacheReconfirmTimeoutMS,authCacheNodeTimeoutMS] at *
      omega

theorem queried_placed (linked : Linked t) (punctual : Punctual t) (timely : Timely t) (fresh : Fresh t)
    (queried : Queried t record) (found : t.NodeFor key id node) :
    Queried (t.place source rid id node key) { record with waiting := record.waiting ++ t.asks id key node } where
  order := by
    apply used_renewed punctual queried.order
    · exact fun other apart => update_of_ne apart _ _
    · intro node' live
      have same : t.joined rid node = node' := Option.some.inj ((update_self id _ _).symm.trans live)
      exact congrArg AuthCacheNode.lastUsedTimestampMS same.symm
  listed other node' live := by
    rcases place_node live with ⟨rfl,-⟩ | ⟨apart,before⟩
    · exact mem_toTail.mpr (.inr rfl)
    · exact mem_toTail.mpr (.inl ⟨queried.listed other node' before,apart⟩)
  given := given_placed queried
  open_ := open_placed linked punctual timely queried found
  once := once_placed punctual timely queried found
  behind other node' live ready := by
    rcases place_node live with ⟨rfl,rfl⟩ | ⟨apart,before⟩
    · rcases found with ⟨old,-⟩ | ⟨-,-,-,rfl⟩
      · obtain ⟨query,resp,answer,own,same,behind⟩ := queried.behind other node old ready
        exact ⟨query,resp,answer,own,same,behind_placed punctual timely fresh old query behind⟩
      · cases ready
    · obtain ⟨query,resp,answer,own,same,behind⟩ := queried.behind other node' before ready
      have asked : other ∈ (t.place source rid id node key).asked ↔ other ∈ t.asked := by
        simp only [place]
        split
        · simp [apart]
        · exact Iff.rfl
      exact ⟨query,resp,answer,own,same,behind_same asked behind⟩

theorem fresh_placed (fresh : Fresh t) : Fresh (t.place source rid id node key) := by
  intro other node' live
  rcases place_node live with ⟨-,rfl⟩ | ⟨-,before⟩
  · exact Nat.le_add_right _ _
  · exact fresh other node' before

end Placed

/-! ## The other steps -/

section Answered

variable {t : AuthTable} {record : QueryRecord} {query : PostedQuery} {resp : QueryAuthCacheResp}
  {node : AuthCacheNode}

/-- No other query is open for the node that a reply comes for. -/
theorem not_open_of_reply (queried : Queried t record) (answers : query ∈ record.waiting)
    (found : t.node query.node = some node) (other : PostedQuery)
    (member : other ∈ record.waiting.erase query) : other.node ≠ query.node := by
  intro same
  have once := queried.once query.node node found
  have split := (List.perm_cons_erase answers).countP_eq (fun query' => query'.node == query.node)
  rw [List.countP_cons_of_pos (by simp)] at split
  have positive : 0 < (record.waiting.erase query).countP (fun query' => query'.node == query.node) :=
    List.countP_pos_iff.mpr ⟨other,member,by simp [same]⟩
  omega

theorem queried_answered (punctual : Punctual t) (timely : Timely t) (queried : Queried t record)
    (answers : query ∈ record.waiting) (found : t.node query.node = some node) :
    Queried (t.answer query.node resp node) (record.replies query resp) where
  order := by
    apply used_renewed punctual queried.order
    · exact fun other apart => answer_of_ne t apart resp node
    · intro node' live
      rw [answer_self] at live
      exact congrArg AuthCacheNode.lastUsedTimestampMS (Option.some.inj live).symm
  listed other node' live := by
    rcases answer_node live with ⟨rfl,-⟩ | ⟨apart,before⟩
    · exact mem_toTail.mpr (.inr rfl)
    · exact mem_toTail.mpr (.inl ⟨queried.listed other node' before,apart⟩)
  given other member := queried.given other (List.mem_of_mem_erase member)
  open_ other member node' live := by
    have apart := not_open_of_reply queried answers found other member
    rw [answer_of_ne t apart] at live
    obtain ⟨listed,own,stamp⟩ := queried.open_ other (List.mem_of_mem_erase member) node' live
    exact ⟨mem_without.mpr ⟨listed,apart⟩,own,stamp⟩
  once other node' live := by
    have before : ∃ old, t.node other = some old := by
      rcases answer_node live with ⟨rfl,-⟩ | ⟨-,before⟩
      · exact ⟨node,found⟩
      · exact ⟨node',before⟩
    obtain ⟨old,before⟩ := before
    exact Nat.le_trans (List.erase_sublist.countP_le) (queried.once other old before)
  behind other node' live ready := by
    rcases answer_node live with ⟨rfl,rfl⟩ | ⟨apart,before⟩
    · obtain ⟨listed,own,stamp⟩ := queried.open_ query answers node found
      refine ⟨query,resp,update_self _ _ _,own,rfl,.inr ⟨?_,stamp,?_⟩⟩
      · exact fun member => (mem_without.mp member).2 rfl
      · have recent := timely _ listed node found
        have used : (t.settled resp node).lastUsedTimestampMS = t.now := rfl
        have updated : (t.settled resp node).lastUpdateTimestampMS = node.lastUpdateTimestampMS := rfl
        rw [used,updated]
        simp only [authCacheRequestTimeoutMS,authCacheReconfirmTimeoutMS] at *
        omega
    · obtain ⟨query',resp',answer,own,same,behind⟩ := queried.behind other node' before ready
      have asked : other ∈ (t.answer query.node resp node).asked ↔ other ∈ t.asked := by
        simp [AuthTable.answer,apart]
      exact ⟨query',resp',(update_of_ne apart _ _).trans answer,own,same,behind_same asked behind⟩

theorem fresh_answered (fresh : Fresh t) (id : Nat) : Fresh (t.answer id resp node) := by
  intro other node' live
  rcases answer_node live with ⟨-,rfl⟩ | ⟨-,before⟩
  · exact Nat.le_add_right _ _
  · exact fresh other node' before

/-- A reply that comes too late finds no node. -/
theorem queried_ignored (queried : Queried t record) (gone : t.node query.node = none) :
    Queried t (record.replies query resp) where
  order := queried.order
  listed := queried.listed
  given other member := queried.given other (List.mem_of_mem_erase member)
  open_ other member := queried.open_ other (List.mem_of_mem_erase member)
  once other node live := Nat.le_trans (List.erase_sublist.countP_le) (queried.once other node live)
  behind other node live ready := by
    have apart : other ≠ query.node := by
      rintro rfl
      rw [gone] at live
      cases live
    obtain ⟨query',resp',answer,rest⟩ := queried.behind other node live ready
    exact ⟨query',resp',(update_of_ne apart _ _).trans answer,rest⟩

end Answered

/-- A node that is dropped leaves the others as they were. -/
theorem queried_drop {t : AuthTable} {record : QueryRecord} (queried : Queried t record) (id : Nat)
    (node : AuthCacheNode) (dispatch : List Nat) :
    Queried { t.drop id node with dispatch := dispatch } record where
  order := by
    apply (queried.order.sublist List.filter_sublist).imp
    intro a b before first second foundA foundB
    exact before first second (drop_node id node foundA).2 (drop_node id node foundB).2
  listed other node' live := by
    obtain ⟨apart,before⟩ := drop_node id node live
    exact mem_without.mpr ⟨queried.listed other node' before,apart⟩
  given := queried.given
  open_ query member node' live := by
    obtain ⟨apart,before⟩ := drop_node id node live
    obtain ⟨listed,rest⟩ := queried.open_ query member node' before
    exact ⟨mem_without.mpr ⟨listed,apart⟩,rest⟩
  once other node' live := queried.once other node' (drop_node id node live).2
  behind other node' live ready := by
    obtain ⟨apart,before⟩ := drop_node id node live
    obtain ⟨query,resp,answer,own,same,behind⟩ := queried.behind other node' before ready
    have asked : other ∈ without t.asked id ↔ other ∈ t.asked := by simp [apart]
    exact ⟨query,resp,answer,own,same,behind_same asked behind⟩

/-- What neither moves a node nor reorders the two lists keeps the record right. -/
theorem Queried.same {t t' : AuthTable} {record : QueryRecord} (queried : Queried t record)
    (node : t'.node = t.node) (used : t'.used = t.used) (asked : t'.asked = t.asked)
    (nodeIds : t'.nodeIds = t.nodeIds) : Queried t' record := by
  cases t
  cases t'
  cases node
  cases used
  cases asked
  cases nodeIds
  exact ⟨queried.order,queried.listed,queried.given,queried.open_,queried.once,queried.behind⟩

theorem posts_none {record : QueryRecord} {now : Nat} {out : List AuthAction}
    (none : out.filterMap (AuthAction.posted now) = []) : record.posts now out = record := by
  unfold QueryRecord.posts
  rw [none,List.append_nil]

theorem fresh_drop {t : AuthTable} (fresh : Fresh t) (id : Nat) (node : AuthCacheNode) :
    Fresh (t.drop id node) :=
  fun other node' live => fresh other node' (drop_node id node live).2

/-- A step between ticks that is no reply adds the queries that it posts. -/
theorem queried_step {t t' : AuthTable} {log out : List AuthAction} {record : QueryRecord}
    (sound : Sound t log ∧ Timely t) (valid : Queried t record ∧ Fresh t) (step : Step t out t')
    (active : out ≠ []) (noReply : ∀ id resp, .reply id resp ∉ out) :
    Queried t' (record.posts t.now out) ∧ Fresh t' := by
  obtain ⟨queried,fresh⟩ := valid
  cases step with
  | refused source key =>
    rw [posts_none rfl]
    exact ⟨queried,fresh⟩
  | unplaced source rid key =>
    rw [posts_none rfl]
    exact ⟨queried.same rfl rfl rfl rfl,fresh⟩
  | placed source rid id key node unused found =>
    rw [posts_placed]
    refine ⟨?_,fresh_placed fresh⟩
    exact queried_placed sound.1.linked sound.1.punctual sound.2 fresh queried found
  | ignored id resp => exact absurd (List.mem_singleton.mpr rfl) (noReply id resp)
  | answered id resp => exact absurd (List.mem_singleton.mpr rfl) (noReply id resp)
  | expired turn =>
    obtain ⟨-,-,-,-,empty,-⟩ := turn
    exact absurd empty active
  | evicted turn =>
    obtain ⟨id,node,-,-,rfl,rfl⟩ := turn
    rw [posts_none (by split <;> rfl)]
    exact ⟨queried_drop queried id node t.dispatch,fresh_drop fresh id node⟩
  | dispatched turn =>
    obtain ⟨rid,r,-,-,rfl,rfl⟩ := turn
    rw [posts_none rfl]
    exact ⟨queried.same rfl rfl rfl rfl,fresh⟩
  | tick => exact absurd rfl active

/-- What a reply comes to. -/
theorem reply_step {t t' : AuthTable} {id : Nat} {resp : QueryAuthCacheResp}
    (step : Step t [.reply id resp] t') :
    (t.node id = none ∧ t' = t) ∨ ∃ node, t.node id = some node ∧ t' = t.answer id resp node := by
  generalize same : [AuthAction.reply id resp] = out at step
  cases step with
  | ignored id' resp' gone =>
    cases same
    exact .inl ⟨gone,rfl⟩
  | answered id' resp' node found =>
    cases same
    exact .inr ⟨node,found,rfl⟩
  | evicted turn =>
    obtain ⟨_,_,-,-,rfl,-⟩ := turn
    split at same <;> cases same
  | expired turn =>
    obtain ⟨_,_,-,-,rfl,-⟩ := turn
    cases same
  | dispatched turn =>
    obtain ⟨_,_,-,-,rfl,-⟩ := turn
    cases same
  | refused => cases same
  | unplaced => cases same
  | placed => cases same
  | tick => cases same

end AuthTable

/-! ## Runs -/

namespace AuthCacheManager

/-- The loop stops at an empty list or at a node that was used lately. -/
theorem expireLRU_done {s : AuthCacheManager keys} (linked : AuthTable.Linked s.view) {fuel : Nat}
    (enough : s.authCacheLRUList.length ≤ fuel) :
    ∀ id ∈ (expireLRU fuel s).1.authCacheLRUList.head?, ∀ node,
      (expireLRU fuel s).1.authCacheNodePool.find? id = some node →
      ¬ node.lastUsedTimestampMS < sub64 (expireLRU fuel s).1.ticker authCacheNodeTimeoutMS := by
  induction fuel generalizing s with
  | zero =>
    have empty : s.authCacheLRUList = [] := List.length_eq_zero_iff.mp (by omega)
    simp [expireLRU,empty]
  | succ fuel ih =>
    unfold expireLRU
    split
    · rename_i empty
      simp [empty]
    · rename_i id rest list
      obtain ⟨node,there⟩ := first_used linked list
      rw [there]
      dsimp only
      split
      · have turn := expireUnused_turn linked there ‹_›
        apply ih (AuthTable.linked_step linked (.evicted turn))
        exact length_without_head list enough
      · rename_i recent
        exact head_holds list there recent

/-- Dispatching leaves the nodes and their orders alone. -/
theorem dispatchResults_nodes (fuel : Nat) (s : AuthCacheManager keys) :
    (dispatchResults fuel s).1.authCacheNodePool = s.authCacheNodePool ∧
      (dispatchResults fuel s).1.authCacheLRUList = s.authCacheLRUList ∧
      (dispatchResults fuel s).1.ticker = s.ticker := by
  induction fuel generalizing s with
  | zero => exact ⟨rfl,rfl,rfl⟩
  | succ fuel ih =>
    unfold dispatchResults
    split
    · exact ⟨rfl,rfl,rfl⟩
    · split
      · exact ⟨rfl,rfl,rfl⟩
      · exact ih _

theorem onTick_recent {s : AuthCacheManager keys} (linked : AuthTable.Linked s.view) (nowMS : Nat) :
    ∀ id ∈ (s.onTick nowMS).1.view.used.head?, ∀ node, (s.onTick nowMS).1.view.node id = some node →
      ¬ node.lastUsedTimestampMS < sub64 (s.onTick nowMS).1.view.now authCacheNodeTimeoutMS := by
  have done := expireLRU_done (linked_afterExpiry linked nowMS) (Nat.le_refl _)
  obtain ⟨nodes,used,now⟩ := dispatchResults_nodes (s.afterEviction nowMS).dispatchResultList.length
    (s.afterEviction nowMS)
  unfold afterEviction at nodes used now
  rw [← nodes,← used,← now] at done
  exact done

end AuthCacheManager

/-- A tick drops the nodes that are due, and keeps the record of the others. -/
theorem queried_onTick {s : AuthCacheManager keys} {log : List AuthAction} {record : QueryRecord}
    (sound : AuthTable.Sound s.view log) (queried : AuthTable.Queried s.view record) (nowMS : Nat)
    (later : s.ticker ≤ nowMS) :
    AuthTable.Queried (s.onTick nowMS).1.view record ∧ AuthTable.Fresh (s.onTick nowMS).1.view := by
  obtain ⟨after,-,-⟩ := sound_onTick sound nowMS later
  obtain ⟨late,old,results,expired,unused,-,ticked⟩ := s.onTick_ticked sound.linked nowMS
  have clocked : AuthTable.Queried (s.clocked nowMS).view record := queried.same rfl rfl rfl rfl
  have kept : AuthTable.Queried (s.onTick nowMS).1.view record := by
    apply ticked.keeps (I := fun t => AuthTable.Queried t record) clocked
    · rintro t out t' ⟨id,node,-,-,-,rfl⟩ valid
      exact AuthTable.queried_drop valid id node _
    · rintro t out t' ⟨id,node,-,-,-,rfl⟩ valid
      exact AuthTable.queried_drop valid id node t.dispatch
    · rintro t out t' ⟨rid,r,-,-,-,rfl⟩ valid
      exact valid.same rfl rfl rfl rfl
  exact ⟨kept,AuthTable.fresh_of_head after.linked after.punctual kept (s.onTick_recent sound.linked nowMS)⟩

/-- Without its record, a run is one of the cache. -/
theorem queryMachine_forget {c : AuthCacheManager keys × QueryRecord} {log : List AuthAction}
    (reach : (queryMachine keys).Reach OneReplyEach c log) :
    (authMachine keys).Reach EpochClock c.1 log := by
  induction reach with
  | start begins => exact .start begins.1
  | step e _ allowed ih => exact .step e.seen ih allowed.1

theorem queried_event {c : AuthCacheManager keys × QueryRecord} {log : List AuthAction} {e : QueryEvent}
    (sound : AuthTable.Sound c.1.view log ∧ AuthTable.Timely c.1.view) (allowed : OneReplyEach c log e)
    (valid : AuthTable.Queried c.1.view c.2 ∧ AuthTable.Fresh c.1.view) :
    AuthTable.Queried ((queryMachine keys).step c e).1.1.view ((queryMachine keys).step c e).1.2 ∧
      AuthTable.Fresh ((queryMachine keys).step c e).1.1.view := by
  obtain ⟨s,record⟩ := c
  cases e with
  | requestAuth source key =>
    apply AuthTable.queried_step sound valid (s.requestAuth_step sound.1.linked source key)
      (requestAuth_active s source key)
    obtain ⟨rid,rest,actions,others⟩ := s.requestAuth_actions source key
    intro id resp member
    rw [actions] at member
    rcases List.mem_cons.mp member with same | inside
    · cases same
    · rcases others _ inside with ⟨_,same⟩ | same <;> cases same
  | reply query resp =>
    have step := s.onServerPacket_step query.node resp
    rw [s.onServerPacket_actions] at step
    rcases AuthTable.reply_step step with ⟨gone,same⟩ | ⟨node,found,same⟩
    · change AuthTable.Queried (s.onServerPacket query.node resp).1.view _ ∧
        AuthTable.Fresh (s.onServerPacket query.node resp).1.view
      rw [same]
      exact ⟨AuthTable.queried_ignored valid.1 gone,valid.2⟩
    · change AuthTable.Queried (s.onServerPacket query.node resp).1.view _ ∧
        AuthTable.Fresh (s.onServerPacket query.node resp).1.view
      rw [same]
      refine ⟨?_,AuthTable.fresh_answered valid.2 query.node⟩
      exact AuthTable.queried_answered sound.1.punctual sound.2 valid.1 (allowed.2 query resp rfl) found
  | tick nowMS =>
    have silent : (s.onTick nowMS).2.filterMap (AuthAction.posted s.ticker) = [] := by
      apply List.filterMap_eq_nil_iff.mpr
      intro a member
      rcases s.onTick_actions sound.1.linked nowMS a member with ⟨_,_,_,rfl⟩ | rfl <;> rfl
    have record' : record.posts s.ticker (s.onTick nowMS).2 = record := AuthTable.posts_none silent
    change AuthTable.Queried (s.onTick nowMS).1.view (record.posts s.ticker (s.onTick nowMS).2) ∧
      AuthTable.Fresh (s.onTick nowMS).1.view
    rw [record']
    exact queried_onTick sound.1 valid.1 nowMS (allowed.1.2 nowMS rfl)

theorem queried_reach {c : AuthCacheManager keys × QueryRecord} {log : List AuthAction}
    (reach : (queryMachine keys).Reach OneReplyEach c log) :
    (AuthTable.Queried c.1.view c.2 ∧ AuthTable.Fresh c.1.view) ∧ AuthTable.Timely c.1.view := by
  induction reach with
  | start begins =>
    obtain ⟨⟨ticker,cachePoolSize,state⟩,blank⟩ := begins
    rw [state,blank]
    refine ⟨⟨?_,?_⟩,?_⟩
    · constructor <;> simp [AuthCacheManager.view,AuthCacheManager.init]
    · intro id node found
      cases found
    · intro id member
      cases member
  | step e before allowed ih =>
    have sound := (epoch_invariant (queryMachine_forget before)).elim
      (fun first => first.2 allowed.1.1) (fun later => later)
    exact ⟨queried_event sound allowed ih.1,(sound_event sound allowed.1).2⟩

/-- A verdict that the cache has for a key is the one of a reply to a query about this key,
and that query was posted a reconfirmation, a node's idle time and a request's timeout ago
at most. -/
theorem verdict_age_bounded {c : AuthCacheManager keys × QueryRecord} {log : List AuthAction}
    (reach : (queryMachine keys).Reach OneReplyEach c log) {key : Bytes} {id : Nat} {node : AuthCacheNode}
    (mapped : c.1.findKey key = some id) (found : c.1.authCacheNodePool.find? id = some node)
    (ready : node.result.ready = true) :
    ∃ query resp, c.2.answer id = some (query,resp) ∧ query.userPass = key ∧
      node.result = AuthTable.verdict resp ∧
      c.1.ticker ≤ query.postedAt +
        (authCacheReconfirmTimeoutMS + authCacheNodeTimeoutMS + authCacheRequestTimeoutMS) := by
  obtain ⟨⟨queried,fresh⟩,timely⟩ := queried_reach reach
  obtain ⟨linked,-⟩ := auth_invariant (queryMachine_forget reach)
  obtain ⟨node',live,own⟩ := linked.known key id mapped
  obtain rfl : node' = node := Option.some.inj (live.symm.trans found)
  obtain ⟨query,resp,answer,asked,same,behind⟩ := queried.behind id node' live ready
  refine ⟨query,resp,answer,asked.trans own,same,?_⟩
  have used := fresh id node' live
  have now : c.1.view.now = c.1.ticker := rfl
  rcases behind with ⟨member,bound⟩ | ⟨-,posted,bound⟩
  · have recent := timely id member node' live
    omega
  · omega

/-- A request, the reply to its query, and a tick that dispatches the verdict. -/
def repliedLogin : List QueryEvent :=
  [.requestAuth 7 (ascii "u:p"),
    .reply { node := 1, userPass := ascii "u:p", postedAt := 1000000 } openVerdict,.tick 1000100]

theorem repliedLogin_reach : (queryMachine .sequential).Reach OneReplyEach
    ((queryMachine .sequential).run (.init .sequential 1000000 8,{}) repliedLogin).1
    ((queryMachine .sequential).run (.init .sequential 1000000 8,{}) repliedLogin).2 := by
  have start : (queryMachine .sequential).Reach OneReplyEach (.init .sequential 1000000 8,{}) [] :=
    .start ⟨⟨_,_,rfl⟩,rfl⟩
  apply start.run repliedLogin
  refine ⟨⟨⟨by decide,?_⟩,?_⟩,⟨⟨by decide,?_⟩,?_⟩,⟨⟨by decide,?_⟩,?_⟩,trivial⟩
  · intro nowMS tick
    cases tick
  · intro query resp reply
    cases reply
  · intro nowMS tick
    cases tick
  · intro query resp reply
    cases reply
    decide
  · intro nowMS tick
    cases tick
    decide
  · intro query resp reply
    cases reply

theorem verdict_age_bounded_login :
    ∃ query resp, ((queryMachine .sequential).run (.init .sequential 1000000 8,{}) repliedLogin).1.2.answer 1 =
        some (query,resp) ∧ 1000100 ≤ query.postedAt + 795000 := by
  have mapped : ((queryMachine .sequential).run (.init .sequential 1000000 8,{}) repliedLogin).1.1.findKey
      (ascii "u:p") = some 1 := by decide
  obtain ⟨query,resp,answer,-,-,bound⟩ := verdict_age_bounded repliedLogin_reach mapped rfl rfl
  exact ⟨query,resp,answer,bound⟩

end MiniPP.Proxy
