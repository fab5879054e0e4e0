import MiniPP.Proxy.AuthRefinement

/-! The auth cache with the gauges that it keeps in the local audit, and the audit timer that
writes the audit out. -/
namespace MiniPP.Proxy

variable {keys : KeySource}

structure LocalAudit where
  blockedAuthNodeCount : UInt64 := 0
  authRequestCountPerMinute : UInt64 := 0
  actureAuthRequestCountPerMinute : UInt64 := 0
  deviceSelectionPerMinute : UInt64 := 0
  authCacheNodeCount : UInt64 := 0
  ongoingAuthRequestNumber : UInt64 := 0
  deriving DecidableEq, Repr

structure AuditedCache (keys : KeySource) where
  cache : AuthCacheManager keys
  audit : LocalAudit := {}

namespace AuditedCache

def acquireCacheNode (c : AuditedCache keys) (userPass : Bytes) : Option (Nat × AuditedCache keys) :=
  match c.cache.acquireCacheNode userPass with
  | none => none
  | some (id,cache) =>
    some (id,{ cache, audit := { c.audit with authCacheNodeCount := c.audit.authCacheNodeCount + 1 } })

def releaseCacheNode (c : AuditedCache keys) (id : Nat) (node : AuthCacheNode) : AuditedCache keys where
  cache := (c.cache.releaseCacheNode id node).1
  audit := { c.audit with authCacheNodeCount := c.audit.authCacheNodeCount - 1 }

def requestAuth (c : AuditedCache keys) (source : Nat) (userPass : Bytes) : AuditedCache keys :=
  if AuthCacheManager.validUserPass userPass then
    match c.cache.requestPool.acquire
      (fun _ => { requestTimestamp := c.cache.ticker, requestSourceId := source }) with
    | none => c
    | some (rid,requestPool) =>
      let c : AuditedCache keys := {
        cache := { c.cache with requestPool }
        audit := { c.audit with ongoingAuthRequestNumber := c.audit.ongoingAuthRequestNumber + 1 } }
      match c.cache.findKey userPass with
      | some id =>
        match c.cache.authCacheNodePool.find? id with
        | none => c
        | some node => { c with cache := (c.cache.attachRequest rid id node userPass).1 }
      | none =>
        match c.acquireCacheNode userPass with
        | none => { c with
            cache := { c.cache with dispatchResultList := c.cache.dispatchResultList ++ [rid] } }
        | some (id,c) => { c with cache := (c.cache.attachRequest rid id { userPass } userPass).1 }
  else c

def onServerPacket (c : AuditedCache keys) (id : Nat) (resp : QueryAuthCacheResp) : AuditedCache keys :=
  { c with cache := (c.cache.onServerPacket id resp).1 }

/-- One turn of the loop over the nodes whose query has not been answered. -/
def expireUpdate (c : AuditedCache keys) (id : Nat) (node : AuthCacheNode) : AuditedCache keys :=
  let cache := { c.cache with dispatchResultList := c.cache.dispatchResultList ++ node.requestList }
  let cache := cache.setNode id (fun node => { node with requestList := [] })
  { c with cache }.releaseCacheNode id node

def expireUpdates : Nat → AuditedCache keys → AuditedCache keys
  | 0, c => c
  | fuel + 1, c =>
    match c.cache.authCacheUpdateList with
    | [] => c
    | id :: _ =>
      match c.cache.authCacheNodePool.find? id with
      | none => c
      | some node =>
        if node.lastUpdateTimestampMS < sub64 c.cache.ticker authCacheRequestTimeoutMS then
          expireUpdates fuel (c.expireUpdate id node)
        else c

def expireLRU : Nat → AuditedCache keys → AuditedCache keys
  | 0, c => c
  | fuel + 1, c =>
    match c.cache.authCacheLRUList with
    | [] => c
    | id :: _ =>
      match c.cache.authCacheNodePool.find? id with
      | none => c
      | some node =>
        if node.lastUsedTimestampMS < sub64 c.cache.ticker authCacheNodeTimeoutMS then
          expireLRU fuel (c.releaseCacheNode id node)
        else c

/-- One turn of the loop over `DispatchResultList`. -/
def dispatchResult (c : AuditedCache keys) (rid : Nat) (request : AuthRequestNode) : AuditedCache keys where
  cache := (c.cache.dispatchResult rid request).1
  audit := { c.audit with ongoingAuthRequestNumber := c.audit.ongoingAuthRequestNumber - 1 }

def dispatchResults : Nat → AuditedCache keys → AuditedCache keys
  | 0, c => c
  | fuel + 1, c =>
    match c.cache.dispatchResultList with
    | [] => c
    | rid :: _ =>
      match c.cache.requestPool.find? rid with
      | none => c
      | some request => dispatchResults fuel (c.dispatchResult rid request)

def onTick (c : AuditedCache keys) (nowMS : Nat) : AuditedCache keys :=
  let c := { c with cache := c.cache.clocked nowMS }
  let c := expireUpdates c.cache.authCacheUpdateList.length c
  let c := expireLRU c.cache.authCacheLRUList.length c
  dispatchResults c.cache.dispatchResultList.length c

end AuditedCache

/-- `Steal`: the value is taken out, and a new one left behind. -/
def stealAudit (audit : LocalAudit) : LocalAudit × LocalAudit := (audit,{})

inductive AuditEvent where
  | requestAuth (source : Nat) (userPass : Bytes)
  | serverPacket (node : Nat) (resp : QueryAuthCacheResp)
  | tick (nowMS : Nat)
  | auditTimer
  deriving DecidableEq, Repr

/-- The main loop, as far as the gauges go; it logs the audits that are written out. -/
def auditMachine (keys : KeySource) : Machine (AuditedCache keys) AuditEvent LocalAudit where
  start c := ∃ (ticker : Nat) (cachePoolSize : UInt64),
    c = { cache := .init keys ticker cachePoolSize.toNat }
  step c e := match e with
    | .requestAuth source userPass => (c.requestAuth source userPass,[])
    | .serverPacket node resp => (c.onServerPacket node resp,[])
    | .tick nowMS => (c.onTick nowMS,[])
    | .auditTimer =>
      let (taken,left) := stealAudit c.audit
      ({ c with audit := left },[taken])

/-! ## The cache below the gauges -/

namespace AuditedCache

variable {c : AuditedCache keys}

theorem requestAuth_cache (c : AuditedCache keys) (source : Nat) (key : Bytes) :
    (c.requestAuth source key).cache = (c.cache.requestAuth source key).1 := by
  unfold requestAuth AuthCacheManager.requestAuth acquireCacheNode
  split
  · cases c.cache.requestPool.acquire
      (fun _ => { requestTimestamp := c.cache.ticker, requestSourceId := source }) with
    | none => rfl
    | some given =>
      dsimp only
      cases AuthCacheManager.findKey _ key with
      | some id =>
        dsimp only
        cases Storage.find? _ id with
        | none => rfl
        | some node => rfl
      | none =>
        dsimp only
        cases AuthCacheManager.acquireCacheNode _ key with
        | none => rfl
        | some node => rfl
  · rfl

theorem expireUpdates_cache (fuel : Nat) (c : AuditedCache keys) :
    (expireUpdates fuel c).cache = (AuthCacheManager.expireUpdates fuel c.cache).1 := by
  induction fuel generalizing c with
  | zero => rfl
  | succ fuel ih =>
    cases list : c.cache.authCacheUpdateList with
    | nil => simp only [expireUpdates,AuthCacheManager.expireUpdates,list]
    | cons first rest =>
      simp only [expireUpdates,AuthCacheManager.expireUpdates,list]
      cases found : c.cache.authCacheNodePool.find? first with
      | none => rfl
      | some node =>
        dsimp only
        split
        · exact ih _
        · rfl

theorem expireLRU_cache (fuel : Nat) (c : AuditedCache keys) :
    (expireLRU fuel c).cache = (AuthCacheManager.expireLRU fuel c.cache).1 := by
  induction fuel generalizing c with
  | zero => rfl
  | succ fuel ih =>
    cases list : c.cache.authCacheLRUList with
    | nil => simp only [expireLRU,AuthCacheManager.expireLRU,list]
    | cons first rest =>
      simp only [expireLRU,AuthCacheManager.expireLRU,list]
      cases found : c.cache.authCacheNodePool.find? first with
      | none => rfl
      | some node =>
        dsimp only
        split
        · exact ih _
        · rfl

theorem dispatchResults_cache (fuel : Nat) (c : AuditedCache keys) :
    (dispatchResults fuel c).cache = (AuthCacheManager.dispatchResults fuel c.cache).1 := by
  induction fuel generalizing c with
  | zero => rfl
  | succ fuel ih =>
    cases list : c.cache.dispatchResultList with
    | nil => simp only [dispatchResults,AuthCacheManager.dispatchResults,list]
    | cons first rest =>
      simp only [dispatchResults,AuthCacheManager.dispatchResults,list]
      cases found : c.cache.requestPool.find? first with
      | none => rfl
      | some r => exact ih _

theorem onTick_cache (c : AuditedCache keys) (nowMS : Nat) :
    (c.onTick nowMS).cache = (c.cache.onTick nowMS).1 := by
  unfold onTick AuthCacheManager.onTick
  rw [dispatchResults_cache,expireLRU_cache,expireUpdates_cache]
  rfl

/-! ## The gauges and what they count -/

/-- What keeps the counts in range and the two tables of nodes in step. -/
structure Tidy (s : AuthCacheManager keys) : Prop where
  distinct : (s.authMap.map Prod.fst).Nodup
  slots : s.authMap.length = s.authCacheNodePool.entries.length
  nodeRoom : s.authCacheNodePool.capacity < 2 ^ 64
  requestRoom : s.requestPool.capacity < 2 ^ 64

/-- Both gauges show what they are to show. -/
structure Gauged (c : AuditedCache keys) : Prop where
  nodes : c.audit.authCacheNodeCount.toNat = c.cache.authMap.length
  requests : c.audit.ongoingAuthRequestNumber.toNat = c.cache.requestPool.entries.length

theorem gauge_up {gauge : UInt64} {count : Nat} (shows : gauge.toNat = count) (room : count + 1 < 2 ^ 64) :
    (gauge + 1).toNat = count + 1 := by
  rw [UInt64.toNat_add,shows]
  exact Nat.mod_eq_of_lt room

theorem gauge_down {gauge : UInt64} {count : Nat} (shows : gauge.toNat = count + 1) :
    (gauge - 1).toNat = count := by
  have positive : (1 : UInt64) ≤ gauge := by
    rw [UInt64.le_iff_toNat_le,shows]
    exact Nat.le_add_left 1 count
  rw [UInt64.toNat_sub_of_le _ _ positive,shows]
  rfl

/-- What a step of the cache may do to the counts: nothing gets more. -/
structure Shrinks (s s' : AuthCacheManager keys) : Prop where
  nodes : s'.authMap.length ≤ s.authMap.length
  requests : s'.requestPool.entries.length ≤ s.requestPool.entries.length

theorem Shrinks.trans {s s' s'' : AuthCacheManager keys} (first : Shrinks s s') (second : Shrinks s' s'') :
    Shrinks s s'' :=
  ⟨Nat.le_trans second.nodes first.nodes,Nat.le_trans second.requests first.requests⟩

/-- What a turn of a tick's loops comes to. -/
structure Lowered (c c' : AuditedCache keys) : Prop where
  linked : AuthTable.Linked c'.cache.view
  tidy : Tidy c'.cache
  gauged : Gauged c'
  fewer : Shrinks c.cache c'.cache

theorem Lowered.refl (linked : AuthTable.Linked c.cache.view) (tidy : Tidy c.cache) (gauged : Gauged c) :
    Lowered c c :=
  ⟨linked,tidy,gauged,⟨Nat.le_refl _,Nat.le_refl _⟩⟩

theorem Lowered.trans {c' c'' : AuditedCache keys} (first : Lowered c c') (second : Lowered c' c'') :
    Lowered c c'' :=
  ⟨second.linked,second.tidy,second.gauged,first.fewer.trans second.fewer⟩

/-- A node that is released takes one entry off the map and one off its gauge. -/
theorem release_counts (tidy : Tidy c.cache) (gauged : Gauged c) {id : Nat} {node node' : AuthCacheNode}
    (mapped : c.cache.findKey node.userPass = some id)
    (found : c.cache.authCacheNodePool.find? id = some node') :
    Tidy (c.releaseCacheNode id node).cache ∧ Gauged (c.releaseCacheNode id node) ∧
      Shrinks c.cache (c.releaseCacheNode id node).cache := by
  have member : node.userPass ∈ c.cache.authMap.map Prod.fst := by
    obtain ⟨entry,here,-⟩ := Option.map_eq_some_iff.mp mapped
    have same : entry.1 = node.userPass := by simpa using List.find?_some here
    exact List.mem_map.mpr ⟨entry,List.mem_of_find?_eq_some here,same⟩
  have map : (c.releaseCacheNode id node).cache.authMap.length + 1 = c.cache.authMap.length :=
    length_without_key tidy.distinct member
  have pool : (c.releaseCacheNode id node).cache.authCacheNodePool.entries.length + 1 =
      c.cache.authCacheNodePool.entries.length := Storage.length_release found
  have slots := tidy.slots
  refine ⟨⟨?_,by omega,tidy.nodeRoom,tidy.requestRoom⟩,⟨?_,gauged.requests⟩,⟨by omega,Nat.le_refl _⟩⟩
  · exact tidy.distinct.sublist (List.filter_sublist.map _)
  · exact gauge_down (gauged.nodes.trans map.symm)

theorem expireUpdate_counts (linked : AuthTable.Linked c.cache.view) (tidy : Tidy c.cache)
    (gauged : Gauged c) {id : Nat} {node : AuthCacheNode}
    (found : c.cache.authCacheNodePool.find? id = some node)
    (late : node.lastUpdateTimestampMS < sub64 c.cache.ticker authCacheRequestTimeoutMS) :
    Lowered c (c.expireUpdate id node) := by
  have emptied : Storage.find? (c.cache.authCacheNodePool.modify id
      (fun node => { node with requestList := [] })) id = some { node with requestList := [] } := by
    rw [Storage.find?_modify,if_pos rfl,found]
    rfl
  have mapped : c.cache.findKey node.userPass = some id := linked.mapped id node found
  obtain ⟨tidy',gauged',fewer⟩ := release_counts
    (c := { c with cache := { c.cache.setNode id (fun node => { node with requestList := [] })
      with dispatchResultList := c.cache.dispatchResultList ++ node.requestList } })
    ⟨tidy.distinct,tidy.slots.trans (Storage.length_modify _ _ _).symm,tidy.nodeRoom,tidy.requestRoom⟩
    ⟨gauged.nodes,gauged.requests⟩ mapped emptied
  have turn := AuthCacheManager.expireUpdate_turn linked found late
  exact ⟨AuthTable.linked_step linked (.expired turn),tidy',gauged',fewer.nodes,fewer.requests⟩

theorem expireUpdates_counts (fuel : Nat) (linked : AuthTable.Linked c.cache.view) (tidy : Tidy c.cache)
    (gauged : Gauged c) : Lowered c (expireUpdates fuel c) := by
  induction fuel generalizing c with
  | zero => exact .refl linked tidy gauged
  | succ fuel ih =>
    unfold expireUpdates
    split
    · exact .refl linked tidy gauged
    · split
      · exact .refl linked tidy gauged
      · rename_i node found
        split
        · rename_i late
          have turn := expireUpdate_counts linked tidy gauged found late
          exact turn.trans (ih turn.linked turn.tidy turn.gauged)
        · exact .refl linked tidy gauged

theorem expireLRU_counts (fuel : Nat) (linked : AuthTable.Linked c.cache.view) (tidy : Tidy c.cache)
    (gauged : Gauged c) : Lowered c (expireLRU fuel c) := by
  induction fuel generalizing c with
  | zero => exact .refl linked tidy gauged
  | succ fuel ih =>
    unfold expireLRU
    split
    · exact .refl linked tidy gauged
    · rename_i id rest list
      split
      · exact .refl linked tidy gauged
      · rename_i node found
        split
        · rename_i unused
          obtain ⟨tidy',gauged',fewer⟩ := release_counts tidy gauged (linked.mapped _ node found) found
          have linked' := AuthTable.linked_step linked
            (.evicted (AuthCacheManager.expireUnused_turn linked found unused))
          have turn : Lowered c (c.releaseCacheNode id node) := ⟨linked',tidy',gauged',fewer⟩
          exact turn.trans (ih turn.linked turn.tidy turn.gauged)
        · exact .refl linked tidy gauged

/-- A request that is dispatched frees its slot and lowers its gauge. -/
theorem dispatchResult_counts (linked : AuthTable.Linked c.cache.view) (tidy : Tidy c.cache)
    (gauged : Gauged c) {rid : Nat} {r : AuthRequestNode} (found : c.cache.requestPool.find? rid = some r)
    (listed : rid ∈ c.cache.dispatchResultList) : Lowered c (c.dispatchResult rid r) := by
  have pool : (c.dispatchResult rid r).cache.requestPool.entries.length + 1 =
      c.cache.requestPool.entries.length := Storage.length_release found
  have turn := AuthCacheManager.dispatchResult_turn found listed
  constructor
  · exact AuthTable.linked_step linked (.dispatched turn)
  · exact ⟨tidy.distinct,tidy.slots,tidy.nodeRoom,tidy.requestRoom⟩
  · exact ⟨gauged.nodes,gauge_down (gauged.requests.trans pool.symm)⟩
  · exact ⟨Nat.le_refl _,by omega⟩

theorem dispatchResults_counts (fuel : Nat) (linked : AuthTable.Linked c.cache.view) (tidy : Tidy c.cache)
    (gauged : Gauged c) : Lowered c (dispatchResults fuel c) := by
  induction fuel generalizing c with
  | zero => exact .refl linked tidy gauged
  | succ fuel ih =>
    unfold dispatchResults
    split
    · exact .refl linked tidy gauged
    · rename_i rid rest list
      split
      · exact .refl linked tidy gauged
      · rename_i r found
        have turn := dispatchResult_counts linked tidy gauged found (by simp [list])
        exact turn.trans (ih turn.linked turn.tidy turn.gauged)

theorem onTick_counts (linked : AuthTable.Linked c.cache.view) (tidy : Tidy c.cache) (gauged : Gauged c)
    (nowMS : Nat) : Lowered c (c.onTick nowMS) := by
  have clocked : Lowered c { c with cache := c.cache.clocked nowMS } :=
    ⟨AuthTable.linked_step linked (.tick nowMS),⟨tidy.distinct,tidy.slots,tidy.nodeRoom,tidy.requestRoom⟩,
      ⟨gauged.nodes,gauged.requests⟩,⟨Nat.le_refl _,Nat.le_refl _⟩⟩
  have expired := clocked.trans (expireUpdates_counts c.cache.authCacheUpdateList.length
    clocked.linked clocked.tidy clocked.gauged)
  have unused := expired.trans (expireLRU_counts (expireUpdates c.cache.authCacheUpdateList.length
    { c with cache := c.cache.clocked nowMS }).cache.authCacheLRUList.length
    expired.linked expired.tidy expired.gauged)
  exact unused.trans (dispatchResults_counts _ unused.linked unused.tidy unused.gauged)

/-- Attaching a request moves objects between lists, and makes or frees none. -/
theorem attach_frame (s : AuthCacheManager keys) (rid id : Nat) (node : AuthCacheNode) (key : Bytes) :
    (s.attachRequest rid id node key).1.authMap = s.authMap ∧
    (s.attachRequest rid id node key).1.authCacheNodePool.entries.length =
      s.authCacheNodePool.entries.length ∧
    (s.attachRequest rid id node key).1.authCacheNodePool.capacity = s.authCacheNodePool.capacity ∧
    (s.attachRequest rid id node key).1.requestPool.entries.length = s.requestPool.entries.length ∧
    (s.attachRequest rid id node key).1.requestPool.capacity = s.requestPool.capacity := by
  unfold AuthCacheManager.attachRequest AuthCacheManager.performAuthRequest AuthCacheManager.hitCache
    AuthCacheManager.setNode
  cases node.result.ready
  all_goals
    dsimp only
    by_cases renew : node.lastUpdateTimestampMS ≤ s.reconfirmTimePointMS
    all_goals simp [renew]

theorem attached_counts (tidy : Tidy c.cache) (gauged : Gauged c) (rid id : Nat) (node : AuthCacheNode)
    (key : Bytes) :
    Tidy (c.cache.attachRequest rid id node key).1 ∧
      Gauged { c with cache := (c.cache.attachRequest rid id node key).1 } := by
  obtain ⟨map,nodes,nodeRoom,requests,requestRoom⟩ := attach_frame c.cache rid id node key
  refine ⟨⟨?_,?_,?_,?_⟩,?_,?_⟩
  · exact map ▸ tidy.distinct
  · rw [map,nodes]
    exact tidy.slots
  · exact nodeRoom ▸ tidy.nodeRoom
  · exact requestRoom ▸ tidy.requestRoom
  · exact gauged.nodes.trans (congrArg List.length map.symm)
  · exact gauged.requests.trans requests.symm

theorem acquire_room {α : Type} {pool pool' : Storage keys α} {value : Nat → α} {id : Nat}
    (acquired : pool.acquire value = some (id,pool')) (room : pool.capacity < 2 ^ 64) :
    pool'.entries.length = pool.entries.length + 1 ∧ pool.entries.length + 1 < 2 ^ 64 ∧
      pool'.capacity = pool.capacity := by
  obtain ⟨-,entries,-,capacity⟩ := Storage.acquire_spec acquired
  have some_ : ¬ pool.capacity ≤ pool.entries.length := by
    intro full
    rw [Storage.acquire_eq_none.mpr full] at acquired
    cases acquired
  refine ⟨by rw [entries]; rfl,by omega,capacity⟩

theorem acquireCacheNode_counts (tidy : Tidy c.cache) (gauged : Gauged c) {key : Bytes}
    (free : c.cache.findKey key = none) {id : Nat} {c' : AuditedCache keys}
    (acquired : c.acquireCacheNode key = some (id,c')) : Tidy c'.cache ∧ Gauged c' := by
  unfold acquireCacheNode AuthCacheManager.acquireCacheNode at acquired
  cases given : c.cache.authCacheNodePool.acquire (fun _ => { userPass := key }) with
  | none =>
    rw [given] at acquired
    cases acquired
  | some result =>
    obtain ⟨id',pool⟩ := result
    rw [given] at acquired
    obtain ⟨rfl,rfl⟩ := Prod.mk.inj (Option.some.inj acquired)
    obtain ⟨entries,room,capacity⟩ := acquire_room given tidy.nodeRoom
    have absent : key ∉ c.cache.authMap.map Prod.fst := by
      intro member
      obtain ⟨entry,inside,same⟩ := List.mem_map.mp member
      have missing := List.find?_eq_none.mp (Option.map_eq_none_iff.mp free) entry inside
      simp [same] at missing
    have slots := tidy.slots
    refine ⟨⟨List.nodup_cons.mpr ⟨absent,tidy.distinct⟩,?_,capacity ▸ tidy.nodeRoom,tidy.requestRoom⟩,
      ?_,gauged.requests⟩
    · simp only [List.length_cons]
      omega
    · exact gauge_up gauged.nodes (by omega)

theorem requestAuth_counts (tidy : Tidy c.cache) (gauged : Gauged c) (source : Nat) (key : Bytes) :
    Tidy (c.requestAuth source key).cache ∧ Gauged (c.requestAuth source key) := by
  unfold requestAuth
  split
  · split
    · exact ⟨tidy,gauged⟩
    · rename_i rid pool acquired
      obtain ⟨entries,room,capacity⟩ := acquire_room acquired tidy.requestRoom
      have tidy' : Tidy { c.cache with requestPool := pool } :=
        ⟨tidy.distinct,tidy.slots,tidy.nodeRoom,capacity ▸ tidy.requestRoom⟩
      have gauged' : Gauged { c with
          cache := { c.cache with requestPool := pool }
          audit := { c.audit with ongoingAuthRequestNumber := c.audit.ongoingAuthRequestNumber + 1 } } :=
        ⟨gauged.nodes,(gauge_up gauged.requests room).trans entries.symm⟩
      dsimp only
      split
      · split
        · exact ⟨tidy',gauged'⟩
        · exact attached_counts tidy' gauged' rid _ _ key
      · rename_i free
        split
        · exact ⟨⟨tidy'.distinct,tidy'.slots,tidy'.nodeRoom,tidy'.requestRoom⟩,gauged'.nodes,gauged'.requests⟩
        · rename_i id c' node
          obtain ⟨tidy'',gauged''⟩ := acquireCacheNode_counts tidy' gauged' free node
          exact attached_counts tidy'' gauged'' rid id { userPass := key } key
  · exact ⟨tidy,gauged⟩

theorem onServerPacket_counts (tidy : Tidy c.cache) (gauged : Gauged c) (id : Nat)
    (resp : QueryAuthCacheResp) :
    Tidy (c.onServerPacket id resp).cache ∧ Gauged (c.onServerPacket id resp) := by
  unfold onServerPacket AuthCacheManager.onServerPacket
  split
  · exact ⟨tidy,gauged⟩
  · refine ⟨⟨tidy.distinct,?_,tidy.nodeRoom,tidy.requestRoom⟩,gauged.nodes,gauged.requests⟩
    simp only [AuthCacheManager.hitCache,AuthCacheManager.setNode,Storage.length_modify]
    exact tidy.slots

end AuditedCache

/-! ## Runs -/

/-- After the event the gauges show the true counts, and a tick lets neither go up: so none wrapped. -/
def GaugesTrue (c : AuditedCache keys) (_ : List LocalAudit) (e : AuditEvent) : Prop :=
  let c' := ((auditMachine keys).step c e).1
  (c'.audit.authCacheNodeCount.toNat = c'.cache.authMap.length ∧
    c'.audit.ongoingAuthRequestNumber.toNat = c'.cache.requestPool.entries.length) ∧
  ((∃ nowMS, e = .tick nowMS) → c'.audit.authCacheNodeCount ≤ c.audit.authCacheNodeCount ∧
    c'.audit.ongoingAuthRequestNumber ≤ c.audit.ongoingAuthRequestNumber)

/-- The audit is written out while there is no node and no request. -/
def AuditedIdle (c : AuditedCache keys) (_ : List LocalAudit) (e : AuditEvent) : Prop :=
  e = .auditTimer → c.cache.authMap = [] ∧ c.cache.requestPool.entries = []

structure AuditInvariant (c : AuditedCache keys) : Prop where
  linked : AuthTable.Linked c.cache.view
  tidy : AuditedCache.Tidy c.cache
  gauged : AuditedCache.Gauged c

theorem auditInvariant_event {c : AuditedCache keys} (valid : AuditInvariant c) (log : List LocalAudit)
    (e : AuditEvent) (cache : e ≠ .auditTimer) :
    AuditInvariant ((auditMachine keys).step c e).1 ∧ GaugesTrue c log e := by
  obtain ⟨linked,tidy,gauged⟩ := valid
  cases e with
  | requestAuth source key =>
    obtain ⟨tidy',gauged'⟩ := AuditedCache.requestAuth_counts tidy gauged source key
    have linked' : AuthTable.Linked (c.requestAuth source key).cache.view := by
      rw [AuditedCache.requestAuth_cache]
      exact AuthTable.linked_step linked (c.cache.requestAuth_step linked source key)
    exact ⟨⟨linked',tidy',gauged'⟩,⟨gauged'.nodes,gauged'.requests⟩,nofun⟩
  | serverPacket id resp =>
    obtain ⟨tidy',gauged'⟩ := AuditedCache.onServerPacket_counts tidy gauged id resp
    have linked' := AuthTable.linked_step linked (c.cache.onServerPacket_step id resp)
    exact ⟨⟨linked',tidy',gauged'⟩,⟨gauged'.nodes,gauged'.requests⟩,nofun⟩
  | tick nowMS =>
    obtain ⟨linked',tidy',gauged',fewer⟩ := AuditedCache.onTick_counts linked tidy gauged nowMS
    refine ⟨⟨linked',tidy',gauged'⟩,⟨gauged'.nodes,gauged'.requests⟩,fun _ => ⟨?_,?_⟩⟩
    · apply UInt64.le_iff_toNat_le.mpr
      exact Nat.le_trans (Nat.le_of_eq gauged'.nodes) (Nat.le_trans fewer.nodes (Nat.le_of_eq gauged.nodes.symm))
    · apply UInt64.le_iff_toNat_le.mpr
      exact Nat.le_trans (Nat.le_of_eq gauged'.requests)
        (Nat.le_trans fewer.requests (Nat.le_of_eq gauged.requests.symm))
  | auditTimer => exact absurd rfl cache

theorem audit_true_iff_idle (c : AuditedCache keys) (log : List LocalAudit) :
    GaugesTrue c log .auditTimer ↔ AuditedIdle c log .auditTimer := by
  constructor
  · rintro ⟨⟨nodes,requests⟩,-⟩ -
    exact ⟨List.length_eq_zero_iff.mp nodes.symm,List.length_eq_zero_iff.mp requests.symm⟩
  · intro idle
    obtain ⟨nodes,requests⟩ := idle rfl
    refine ⟨⟨?_,?_⟩,nofun⟩
    · exact (congrArg List.length nodes).symm
    · exact (congrArg List.length requests).symm

theorem auditInvariant_reach {c : AuditedCache keys} {log : List LocalAudit}
    (reach : (auditMachine keys).Reach GaugesTrue c log) : AuditInvariant c := by
  induction reach with
  | start begins =>
    obtain ⟨ticker,cachePoolSize,rfl⟩ := begins
    refine ⟨linked_init ticker _,⟨List.nodup_nil,rfl,cachePoolSize.toNat_lt,?_⟩,rfl,rfl⟩
    exact (by decide : requestPoolSize < 2 ^ 64)
  | @step c log e before allowed ih =>
    by_cases timer : e = .auditTimer
    · subst timer
      exact ⟨ih.linked,ih.tidy,allowed.1.1,allowed.1.2⟩
    · exact (auditInvariant_event ih log e timer).1

/-- The gauges are true after every event of a run, and never wrap, exactly when the audit is
only ever written out while the cache holds no node and no request is open. -/
theorem gauges_true_iff_idle (ticker : Nat) (cachePoolSize : UInt64) (events : List AuditEvent) :
    (auditMachine keys).Allowed GaugesTrue { cache := .init keys ticker cachePoolSize.toNat } [] events ↔
      (auditMachine keys).Allowed AuditedIdle { cache := .init keys ticker cachePoolSize.toNat } [] events := by
  have start : (auditMachine keys).Reach GaugesTrue { cache := .init keys ticker cachePoolSize.toNat } [] :=
    .start ⟨ticker,cachePoolSize,rfl⟩
  refine Machine.allowed_iff ?_ start events
  intro c log e reach
  have valid := auditInvariant_reach reach
  by_cases timer : e = .auditTimer
  · subst timer
    exact audit_true_iff_idle c log
  · refine ⟨fun _ same => absurd same timer,fun _ => ?_⟩
    exact (auditInvariant_event valid log e timer).2

/-- The audit is written out while a request waits, which is answered afterwards. -/
def auditedLogin : List AuditEvent :=
  [.requestAuth 7 (ascii "u:p"),.auditTimer,.serverPacket 1
    { countryId := 1, stateId := 0, cityId := 0, isBlocked := false, requireIpv6 := false
      requireUdp := false, requireRemoteDns := false, autoChangeIp := false },.tick 1000100]

theorem gauges_wrap :
    ¬ (auditMachine .sequential).Allowed GaugesTrue { cache := .init .sequential 1000000 8 } [] auditedLogin ∧
    ((auditMachine .sequential).run { cache := .init .sequential 1000000 8 } auditedLogin).1.audit =
      { ongoingAuthRequestNumber := 18446744073709551615 } := by
  refine ⟨?_,by decide⟩
  rintro ⟨-,⟨⟨nodes,-⟩,-⟩,-⟩
  exact absurd nodes (by decide)

end MiniPP.Proxy
