import MiniPP.Lib.Machine
import MiniPP.Lib.Storage
import MiniPP.Proxy.Connection

/-! The auth cache: verdicts by user:pass key, the requests that wait for one, and the
requests whose answer goes out with the next tick. The intrusive lists are lists of
pool ids; an object that is destroyed leaves every list it is on. -/
namespace MiniPP.Proxy

def requestPoolSize : Nat := 50000
def authCacheRequestTimeoutMS : Nat := 15000
def authCacheReconfirmTimeoutMS : Nat := 5 * 60 * 1000
def authCacheNodeTimeoutMS : Nat := 8 * 60000

structure AuthRequestNode where
  requestTimestamp : Nat
  requestSourceId : Nat
  cacheNodeId : Nat := 0
  deriving DecidableEq, Repr

/-- The value `xPA_AuthResult` has before any verdict. -/
def AuthResult.unready : AuthResult :=
  { countryId := 0, stateId := 0, cityId := 0, isBlocked := false, requireIpv6 := false
    requireUdp := false, requireRemoteDns := false, autoChangeIp := false, ready := false }

structure AuthCacheNode where
  lastUsedTimestampMS : Nat := 0
  lastUpdateTimestampMS : Nat := 0
  userPass : Bytes
  result : AuthResult := .unready
  requestList : List Nat := []
  deriving DecidableEq, Repr

structure AuthCacheManager (keys : KeySource) where
  ticker : Nat
  reconfirmTimePointMS : Nat
  requestPool : Storage keys AuthRequestNode
  authCacheNodePool : Storage keys AuthCacheNode
  authMap : List (Bytes × Nat)
  authCacheLRUList : List Nat
  authCacheUpdateList : List Nat
  dispatchResultList : List Nat

/-- What the cache is asked and what it does: calls of `RequestAuth` with the request id
they got, queries to the auth service, its replies, calls of `OnAuthResult`, and an
`assert` that does not hold. A list or the map would fail one too by naming an object
that is gone. -/
inductive AuthAction where
  | requestAuth (source : Nat) (userPass : Bytes) (timestamp : Nat) (requestId : Option Nat)
  | query (node : Nat) (userPass : Bytes)
  | reply (node : Nat) (resp : QueryAuthCacheResp)
  | result (requestId source : Nat) (verdict : Option AuthResult)
  | assertFailed
  deriving DecidableEq, Repr

namespace AuthCacheManager

variable {keys : KeySource}

def init (keys : KeySource) (ticker cachePoolSize : Nat) : AuthCacheManager keys where
  ticker := ticker
  reconfirmTimePointMS := sub64 ticker authCacheReconfirmTimeoutMS
  requestPool := .empty keys _ requestPoolSize
  authCacheNodePool := .empty keys _ cachePoolSize
  authMap := []
  authCacheLRUList := []
  authCacheUpdateList := []
  dispatchResultList := []

/-- `AuthMap.find`. -/
def findKey (s : AuthCacheManager keys) (userPass : Bytes) : Option Nat :=
  (s.authMap.find? (fun entry => entry.1 == userPass)).map Prod.snd

def setNode (s : AuthCacheManager keys) (id : Nat) (f : AuthCacheNode → AuthCacheNode) :
    AuthCacheManager keys :=
  { s with authCacheNodePool := s.authCacheNodePool.modify id f }

/-- The slot of the map is known to be free. -/
def acquireCacheNode (s : AuthCacheManager keys) (userPass : Bytes) :
    Option (Nat × AuthCacheManager keys) :=
  match s.authCacheNodePool.acquire (fun _ => { userPass }) with
  | none => none
  | some (id,pool) =>
    some (id,{ s with authCacheNodePool := pool, authMap := (userPass,id) :: s.authMap })

def releaseCacheNode (s : AuthCacheManager keys) (id : Nat) (node : AuthCacheNode) :
    AuthCacheManager keys × List AuthAction :=
  ({ s with
      authMap := s.authMap.filter (fun entry => !(entry.1 == node.userPass))
      authCacheNodePool := s.authCacheNodePool.release id
      authCacheLRUList := without s.authCacheLRUList id
      authCacheUpdateList := without s.authCacheUpdateList id },
    if s.findKey node.userPass = some id then [] else [.assertFailed])

def hitCache (s : AuthCacheManager keys) (id : Nat) : AuthCacheManager keys :=
  { s.setNode id (fun node => { node with lastUsedTimestampMS := s.ticker }) with
    authCacheLRUList := toTail s.authCacheLRUList id }

def performAuthRequest (s : AuthCacheManager keys) (id : Nat) (userPass : Bytes) :
    AuthCacheManager keys × List AuthAction :=
  ({ s.setNode id (fun node => { node with lastUpdateTimestampMS := s.ticker }) with
      authCacheUpdateList := toTail s.authCacheUpdateList id },
    [.query id userPass])

/-- The length check of a user:pass key. -/
def validUserPass (userPass : Bytes) : Bool :=
  match userPass.findIdx? (· == colon) with
  | none => false
  | some splitIndex =>
    let passLength := userPass.length - splitIndex - 1
    splitIndex ≠ 0 && passLength ≠ 0 && splitIndex ≤ 127 && passLength ≤ 127

/-- The part of `RequestAuth` for a request `rid` and the node `id` of its key. -/
def attachRequest (s : AuthCacheManager keys) (rid id : Nat) (node : AuthCacheNode)
    (userPass : Bytes) : AuthCacheManager keys × List AuthAction :=
  let s := { s with requestPool := s.requestPool.modify rid (fun r => { r with cacheNodeId := id }) }
  let s :=
    if node.result.ready then { s with dispatchResultList := s.dispatchResultList ++ [rid] }
    else s.setNode id (fun node => { node with requestList := node.requestList ++ [rid] })
  let (s,actions) :=
    if node.lastUpdateTimestampMS ≤ s.reconfirmTimePointMS then s.performAuthRequest id userPass
    else (s,[])
  (s.hitCache id,actions)

def requestAuth (s : AuthCacheManager keys) (source : Nat) (userPass : Bytes) :
    AuthCacheManager keys × List AuthAction :=
  if validUserPass userPass then
    match s.requestPool.acquire (fun _ => { requestTimestamp := s.ticker, requestSourceId := source }) with
    | none => (s,[.requestAuth source userPass s.ticker none])
    | some (rid,requestPool) =>
      let s := { s with requestPool }
      let accepted := AuthAction.requestAuth source userPass s.ticker (some rid)
      match s.findKey userPass with
      | some id =>
        match s.authCacheNodePool.find? id with
        | none => (s,[accepted,.assertFailed])
        | some node =>
          let (s,actions) := s.attachRequest rid id node userPass
          (s,accepted :: actions)
      | none =>
        match s.acquireCacheNode userPass with
        | none => ({ s with dispatchResultList := s.dispatchResultList ++ [rid] },[accepted])
        | some (id,s) =>
          let (s,actions) := s.attachRequest rid id { userPass } userPass
          (s,accepted :: actions)
  else (s,[.requestAuth source userPass s.ticker none])

/-- A packet of the auth service whose payload decodes to `resp`; `id` is its request id. -/
def onServerPacket (s : AuthCacheManager keys) (id : Nat) (resp : QueryAuthCacheResp) :
    AuthCacheManager keys × List AuthAction :=
  match s.authCacheNodePool.find? id with
  | none => (s,[.reply id resp])
  | some node =>
    let result : AuthResult := { toQueryAuthCacheResp := resp, ready := true }
    let s := s.setNode id (fun node => { node with result := result, requestList := [] })
    let s := { s with dispatchResultList := s.dispatchResultList ++ node.requestList }
    let s := s.hitCache id
    ({ s with authCacheUpdateList := without s.authCacheUpdateList id },
      [.reply id resp])

/-! ## The tick -/

/-- One turn of the loop over the nodes whose query has not been answered. -/
def expireUpdate (s : AuthCacheManager keys) (id : Nat) (node : AuthCacheNode) :
    AuthCacheManager keys × List AuthAction :=
  let s := { s with dispatchResultList := s.dispatchResultList ++ node.requestList }
  let s := s.setNode id (fun node => { node with requestList := [] })
  s.releaseCacheNode id node

def expireUpdates : Nat → AuthCacheManager keys → AuthCacheManager keys × List AuthAction
  | 0, s => (s,[])
  | fuel + 1, s =>
    match s.authCacheUpdateList with
    | [] => (s,[])
    | id :: _ =>
      match s.authCacheNodePool.find? id with
      | none => (s,[.assertFailed])
      | some node =>
        if node.lastUpdateTimestampMS < sub64 s.ticker authCacheRequestTimeoutMS then
          let (s,actions) := s.expireUpdate id node
          let (s,rest) := expireUpdates fuel s
          (s,actions ++ rest)
        else (s,[])

/-- One turn of the loop over the nodes that have not been used for long. -/
def expireUnused (s : AuthCacheManager keys) (id : Nat) (node : AuthCacheNode) :
    AuthCacheManager keys × List AuthAction :=
  let (s,actions) := s.releaseCacheNode id node
  (s,(if node.requestList = [] then [] else [.assertFailed]) ++ actions)

def expireLRU : Nat → AuthCacheManager keys → AuthCacheManager keys × List AuthAction
  | 0, s => (s,[])
  | fuel + 1, s =>
    match s.authCacheLRUList with
    | [] => (s,[])
    | id :: _ =>
      match s.authCacheNodePool.find? id with
      | none => (s,[.assertFailed])
      | some node =>
        if node.lastUsedTimestampMS < sub64 s.ticker authCacheNodeTimeoutMS then
          let (s,actions) := s.expireUnused id node
          let (s,rest) := expireLRU fuel s
          (s,actions ++ rest)
        else (s,[])

/-- One turn of the loop over `DispatchResultList`. -/
def dispatchResult (s : AuthCacheManager keys) (rid : Nat) (request : AuthRequestNode) :
    AuthCacheManager keys × List AuthAction :=
  let verdict := (s.authCacheNodePool.find? request.cacheNodeId).map AuthCacheNode.result
  ({ s with
      requestPool := s.requestPool.release rid
      dispatchResultList := without s.dispatchResultList rid },
    [.result rid request.requestSourceId verdict])

def dispatchResults : Nat → AuthCacheManager keys → AuthCacheManager keys × List AuthAction
  | 0, s => (s,[])
  | fuel + 1, s =>
    match s.dispatchResultList with
    | [] => (s,[])
    | rid :: _ =>
      match s.requestPool.find? rid with
      | none => (s,[.assertFailed])
      | some request =>
        let (s,actions) := s.dispatchResult rid request
        let (s,rest) := dispatchResults fuel s
        (s,actions ++ rest)

/-- Each loop takes one object off its list a turn, so its length is fuel enough. -/
def onTick (s : AuthCacheManager keys) (nowMS : Nat) : AuthCacheManager keys × List AuthAction :=
  let s := { s with
    ticker := nowMS
    reconfirmTimePointMS := sub64 nowMS authCacheReconfirmTimeoutMS }
  let (s,expired) := expireUpdates s.authCacheUpdateList.length s
  let (s,unused) := expireLRU s.authCacheLRUList.length s
  let (s,results) := dispatchResults s.dispatchResultList.length s
  (s,expired ++ unused ++ results)

end AuthCacheManager

inductive AuthEvent where
  | requestAuth (source : Nat) (userPass : Bytes)
  | serverPacket (node : Nat) (resp : QueryAuthCacheResp)
  | tick (nowMS : Nat)
  deriving DecidableEq, Repr

def authMachine (keys : KeySource) : Machine (AuthCacheManager keys) AuthEvent AuthAction where
  start s := ∃ ticker cachePoolSize, s = .init keys ticker cachePoolSize
  step s e := match e with
    | .requestAuth source userPass => s.requestAuth source userPass
    | .serverPacket node resp => s.onServerPacket node resp
    | .tick nowMS => s.onTick nowMS

end MiniPP.Proxy
