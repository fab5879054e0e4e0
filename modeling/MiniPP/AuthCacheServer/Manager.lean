import MiniPP.Lib.Machine
import MiniPP.Lib.Storage
import MiniPP.Wire

/-! The map of the auth service. A node is in the pool, under its key in the map, and in one of two
lists, of which only the first is ever looked at for what is too old. -/
namespace MiniPP.AuthCacheServer

structure AuthCacheInfo where
  auditId : Nat := 0
  countryId : Nat := 0
  stateId : Nat := 0
  cityId : Nat := 0
  isBlocked : Bool := false
  requireIpv6 : Bool := false
  requireUdp : Bool := false
  requireRemoteDns : Bool := false
  autoChangeIp : Bool := false
  fixDeviceTimeout : Bool := false
  paToken : Bytes := []
  deriving DecidableEq, Repr

/-- `xAuthCacheNode`, less the flags, which nothing reads. A request node is named by a number. -/
structure AuthCacheNode where
  updateTimestamp : UInt64
  key : Bytes
  pendingRequestId : Nat := 0
  pendingRequests : List Nat := []
  infoOpt : AuthCacheInfo := {}
  deriving DecidableEq, Repr

structure LocalAudit where
  cacheHit : Nat := 0
  cacheMiss : Nat := 0
  cacheLimit : Nat := 0
  cacheUpdate : Nat := 0
  timeoutRequest : Nat := 0
  danglingResult : Nat := 0
  deriving DecidableEq, Repr

/-- The pool names its nodes; 0 is no node. `Init` does not reach it, so that how many it makes is the
library's choice. -/
structure AuthCacheManager (keys : KeySource) where
  serviceTicker : UInt64
  cacheNodePool : Storage keys AuthCacheNode
  cacheMap : Bytes → Option Nat
  cacheTimeoutList : List Nat
  cacheRequestTimeoutList : List Nat
  localAudit : LocalAudit

/-- An assertion about the arguments, one about the manager's own data, and what C++ does not define. -/
inductive Fault where
  | refused
  | assertion
  | undefined
  deriving DecidableEq, Repr

namespace AuthCacheManager

variable {keys : KeySource}

def new (keys : KeySource) (capacity : Nat) (serviceTicker : UInt64) : AuthCacheManager keys where
  serviceTicker := serviceTicker
  cacheNodePool := .empty keys _ capacity
  cacheMap _ := none
  cacheTimeoutList := []
  cacheRequestTimeoutList := []
  localAudit := {}

def Exhausted (m : AuthCacheManager keys) : Prop :=
  m.cacheNodePool.capacity ≤ m.cacheNodePool.entries.length

/-- `CacheTimeoutList.GrabTail`, which takes the node out of the list it is in. -/
def grabTimeout (m : AuthCacheManager keys) (np : Nat) : AuthCacheManager keys :=
  { m with
    cacheTimeoutList := toTail m.cacheTimeoutList np
    cacheRequestTimeoutList := without m.cacheRequestTimeoutList np }

def grabRequestTimeout (m : AuthCacheManager keys) (np : Nat) : AuthCacheManager keys :=
  { m with
    cacheTimeoutList := without m.cacheTimeoutList np
    cacheRequestTimeoutList := toTail m.cacheRequestTimeoutList np }

def modify (m : AuthCacheManager keys) (np : Nat) (change : AuthCacheNode → AuthCacheNode) :
    AuthCacheManager keys :=
  { m with cacheNodePool := m.cacheNodePool.modify np change }

/-! ## Keys -/

/-- What `AcquireCacheNode` does for a key that is not there, up to its return. -/
def createCacheNode (m : AuthCacheManager keys) (key : Bytes) : Option (AuthCacheManager keys) :=
  match m.cacheNodePool.acquire (fun _ => { updateTimestamp := m.serviceTicker, key }) with
  | none => none
  | some (np,cacheNodePool) =>
    some { m with
      cacheNodePool
      cacheMap := Function.update m.cacheMap key (some np)
      cacheTimeoutList := m.cacheTimeoutList ++ [np] }

def acquireCacheNode (m : AuthCacheManager keys) (key : Bytes) : Except Fault (AuthCacheManager keys × Nat) :=
  match m.cacheMap key with
  | some np => .ok (m,np)
  | none =>
    let m := { m with localAudit := { m.localAudit with cacheMiss := m.localAudit.cacheMiss + 1 } }
    match m.createCacheNode key with
    | none => .ok ({ m with localAudit := { m.localAudit with cacheLimit := m.localAudit.cacheLimit + 1 } },0)
    -- `Iter` is the end of the map, also after the key was added
    | some _ => .error .undefined

/-- Both overloads; `xNone` resets the info. -/
def updateCacheNode (m : AuthCacheManager keys) (key : Bytes) (dataSource : Option AuthCacheInfo) :
    Except Fault (AuthCacheManager keys × Nat) :=
  match m.cacheMap key with
  | none =>
    .ok ({ m with localAudit := { m.localAudit with danglingResult := m.localAudit.danglingResult + 1 } },0)
  | some np =>
    match m.cacheNodePool.find? np with
    | none => .error .undefined
    | some node =>
      let m := { m with localAudit := { m.localAudit with cacheUpdate := m.localAudit.cacheUpdate + 1 } }
      let m := m.modify np (fun node =>
        { node with infoOpt := dataSource.getD {}, updateTimestamp := m.serviceTicker, pendingRequestId := 0 })
      .ok (m.grabTimeout np,node.pendingRequestId)

/-! ## Requests -/

def bindRequestId (m : AuthCacheManager keys) (np requestId : Nat) : Except Fault (AuthCacheManager keys) :=
  match m.cacheNodePool.find? np with
  | none => .error .undefined
  | some node =>
    if node.pendingRequestId ≠ 0 then .error .refused
    else
      let m := m.modify np (fun node =>
        { node with pendingRequestId := requestId, updateTimestamp := m.serviceTicker })
      .ok (m.grabRequestTimeout np)

def isLinked (m : AuthCacheManager keys) (rn : Nat) : Bool :=
  m.cacheNodePool.entries.any (fun entry => decide (rn ∈ entry.2.pendingRequests))

def appendRequestNode (m : AuthCacheManager keys) (np rn : Nat) : Except Fault (AuthCacheManager keys) :=
  match m.cacheNodePool.find? np with
  | none => .error .undefined
  | some node =>
    if node.pendingRequestId = 0 ∨ m.isLinked rn = true then .error .refused
    else .ok (m.modify np (fun node => { node with pendingRequests := node.pendingRequests ++ [rn] }))

/-! ## Removal -/

/-- Its requests are in no list any more when the node is gone. -/
def removeCacheNode (m : AuthCacheManager keys) (np : Nat) : Except Fault (AuthCacheManager keys) :=
  match m.cacheNodePool.find? np with
  | none => .error .undefined
  | some node =>
    if m.cacheMap node.key = some np then
      .ok { m with
        cacheMap := Function.update m.cacheMap node.key none
        cacheNodePool := m.cacheNodePool.release np }
    else .error .assertion

def isExpired (m : AuthCacheManager keys) (killTimepoint : UInt64) (np : Nat) : Bool :=
  match m.cacheNodePool.find? np with
  | none => false
  | some node => decide (node.updateTimestamp ≤ killTimepoint)

/-- The loop over the list as it is. -/
def removeExpired (killTimepoint : UInt64) :
    List Nat → AuthCacheManager keys → Except Fault (AuthCacheManager keys)
  | [], m => .ok m
  | np :: rest, m =>
    if m.isExpired killTimepoint np then
      match { m with cacheTimeoutList := rest }.removeCacheNode np with
      | .error fault => .error fault
      | .ok m => removeExpired killTimepoint rest m
    else .ok m

/-- `KillTimepoint` wraps. -/
def removeTimeoutCacheNodes (m : AuthCacheManager keys) (timeoutMS : UInt64) :
    Except Fault (AuthCacheManager keys) :=
  removeExpired (m.serviceTicker - timeoutMS) m.cacheTimeoutList m

/-- The body is a comment. -/
def removeTimeoutCacheUpdateNodes (m : AuthCacheManager keys) (_ : UInt64) : AuthCacheManager keys := m

end AuthCacheManager

/-! ## Calls -/

inductive Call where
  | tick (serviceTicker : UInt64)
  | acquireCacheNode (key : Bytes)
  | updateCacheNode (key : Bytes) (dataSource : Option AuthCacheInfo)
  | bindRequestId (np requestId : Nat)
  | appendRequestNode (np rn : Nat)
  | removeTimeoutCacheNodes (timeoutMS : UInt64)
  | removeTimeoutCacheUpdateNodes (timeoutMS : UInt64)
  | getAndResetLocalAudit
  deriving DecidableEq, Repr

inductive Answer where
  | node (np : Nat)
  | requestId (id : Nat)
  | audit (localAudit : LocalAudit)
  | done
  deriving DecidableEq, Repr

variable {keys : KeySource}

/-- A pointer to a node that is gone is passed to nothing. -/
def AuthCacheManager.call (m : AuthCacheManager keys) : Call → Except Fault (AuthCacheManager keys × Answer)
  | .tick serviceTicker => .ok ({ m with serviceTicker },.done)
  | .acquireCacheNode key => (m.acquireCacheNode key).map (fun result => (result.1,.node result.2))
  | .updateCacheNode key dataSource =>
    (m.updateCacheNode key dataSource).map (fun result => (result.1,.requestId result.2))
  | .bindRequestId np requestId =>
    if m.cacheNodePool.find? np = none then .ok (m,.done) else (m.bindRequestId np requestId).map (·,.done)
  | .appendRequestNode np rn =>
    if m.cacheNodePool.find? np = none then .ok (m,.done) else (m.appendRequestNode np rn).map (·,.done)
  | .removeTimeoutCacheNodes timeoutMS => (m.removeTimeoutCacheNodes timeoutMS).map (·,.done)
  | .removeTimeoutCacheUpdateNodes timeoutMS => .ok (m.removeTimeoutCacheUpdateNodes timeoutMS,.done)
  | .getAndResetLocalAudit => .ok ({ m with localAudit := {} },.audit m.localAudit)

/-- Nothing is called after a fault. -/
def step (c : Except Fault (AuthCacheManager keys)) (e : Call) :
    Except Fault (AuthCacheManager keys) × List Answer :=
  match c with
  | .error fault => (.error fault,[])
  | .ok m =>
    match m.call e with
    | .error fault => (.error fault,[])
    | .ok (m,answer) => (.ok m,[answer])

def authCache (keys : KeySource) : Machine (Except Fault (AuthCacheManager keys)) Call Answer where
  start c := ∃ capacity serviceTicker, c = .ok (.new keys capacity serviceTicker)
  step := step

end MiniPP.AuthCacheServer
