import MiniPP.Proxy.AuthCache
import MiniPP.Proxy.History

/-! The proxy-access server: the pool of client connections with its timeout lists, the
auth cache, and the packets and ticks that reach them. A callback's effects are carried
out in order, and everything is logged. -/
namespace MiniPP.Proxy

def maxAccountCheckTimeout : Nat := 3000
def maxConnectionLingerKillTimeout : Nat := 10000

/-- The lists hold connection ids, with the timestamp of the node where it has one. A
connection has one kill node, so it is on one of the two kill lists at most. -/
structure Server (keys : KeySource) where
  ticker : Nat
  connectionPool : Storage keys ClientConnection
  accountTimeoutList : List (Nat × Nat)
  idleConnectionList : List (Nat × Nat)
  lingerKillConnectionList : List (Nat × Nat)
  killConnectionList : List Nat
  authCacheManager : AuthCacheManager keys
  aborted : Bool

inductive ServerAction where
  | accepted (c : Nat)
  | deliver (c : Nat) (e : ConnEvent)
  | client (c : Nat) (x : Effect)
  | auth (a : AuthAction)
  | cleaned (c : Nat)
  deriving DecidableEq, Repr

/-- The packets of the auth service, the device selector and the relays are taken decoded;
one that does not decode changes nothing. -/
inductive ServerEvent where
  | newConnection (remoteIp : Bytes)
  | data (c : Nat) (data : Bytes)
  | peerClose (c : Nat)
  | authPacket (node : Nat) (resp : QueryAuthCacheResp)
  | devicePacket (requestId : Nat) (resp : AcquireDeviceResp)
  | relayState (n : PR.ConnectionStateNotify) (pendingWrites : Bool)
  | relayDestroy (m : PR.DestroyConnection) (pendingWrites : Bool)
  | relayPush (m : PR.PushData) (payloadSize : Nat)
  | authTick (nowMS : Nat)
  | clientTick (nowMS : Nat)
  deriving DecidableEq, Repr

def dropEntry (list : List (Nat × Nat)) (c : Nat) : List (Nat × Nat) :=
  list.filter (fun entry => !(entry.1 == c))

namespace Server

variable {keys : KeySource}

def init (keys : KeySource) (ticker connectionPoolSize cachePoolSize : Nat) : Server keys where
  ticker := ticker
  connectionPool := .empty keys _ connectionPoolSize
  accountTimeoutList := []
  idleConnectionList := []
  lingerKillConnectionList := []
  killConnectionList := []
  authCacheManager := .init keys ticker cachePoolSize
  aborted := false

/-- One effect of a callback of connection `c`. -/
def perform (s : Server keys) (c : Nat) (x : Effect) : Server keys × List ServerAction :=
  match x with
  | .kill =>
    ({ s with
        lingerKillConnectionList := dropEntry s.lingerKillConnectionList c
        killConnectionList := toTail s.killConnectionList c },[.client c x])
  | .lingerKill =>
    ({ s with
        lingerKillConnectionList := dropEntry s.lingerKillConnectionList c ++ [(c,s.ticker)]
        killConnectionList := without s.killConnectionList c },[.client c x])
  | .keepAlive =>
    ({ s with idleConnectionList := dropEntry s.idleConnectionList c ++ [(c,s.ticker)] },[.client c x])
  | .removeAccountTimeout =>
    ({ s with accountTimeoutList := dropEntry s.accountTimeoutList c },[.client c x])
  | .requestAuth userPass =>
    let (cache,actions) := s.authCacheManager.requestAuth c userPass
    ({ s with authCacheManager := cache },.client c x :: actions.map .auth)
  | .runtimeAssertFailed => ({ s with aborted := true },[.client c x])
  | _ => (s,[.client c x])

def performAll (s : Server keys) (c : Nat) : List Effect → Server keys × List ServerAction
  | [] => (s,[])
  | x :: rest =>
    let (s,first) := s.perform c x
    let (s,later) := performAll s c rest
    (s,first ++ later)

/-- Runs the callback of `e`, if the connection still exists. -/
def deliver (cfg : Config) (s : Server keys) (c : Nat) (e : ConnEvent) :
    Server keys × List ServerAction :=
  match s.connectionPool.find? c with
  | none => (s,[])
  | some conn =>
    let act := handle cfg conn e
    let (s,actions) :=
      { s with connectionPool := s.connectionPool.modify c (fun _ => act.conn) }.performAll c act.effects
    (s,.deliver c e :: actions)

def onNewConnection (s : Server keys) (remoteIp : Bytes) : Server keys × List ServerAction :=
  match s.connectionPool.acquire (fun id => { connectionId := id, remoteIp }) with
  | none => (s,[])
  | some (id,connectionPool) =>
    ({ s with
        connectionPool
        accountTimeoutList := s.accountTimeoutList ++ [(id,s.ticker)] },[.accepted id])

def cleanupConnection (s : Server keys) (c : Nat) : Server keys :=
  { s with
    connectionPool := s.connectionPool.release c
    accountTimeoutList := dropEntry s.accountTimeoutList c
    idleConnectionList := dropEntry s.idleConnectionList c
    lingerKillConnectionList := dropEntry s.lingerKillConnectionList c
    killConnectionList := without s.killConnectionList c }

def cleanupAll (s : Server keys) : List Nat → Server keys × List ServerAction
  | [] => (s,[])
  | c :: rest =>
    let (s,later) := cleanupAll (s.cleanupConnection c) rest
    (s,.cleaned c :: later)

/-- The heads that `PopHead` takes off a list of timestamps. -/
def timedOut (list : List (Nat × Nat)) (limit : Nat) : List Nat :=
  (list.takeWhile (fun entry => entry.2 < limit)).map Prod.fst

def onTick (s : Server keys) : Server keys × List ServerAction :=
  let (s,accounts) := s.cleanupAll (timedOut s.accountTimeoutList (sub64 s.ticker maxAccountCheckTimeout))
  let (s,lingering) :=
    s.cleanupAll (timedOut s.lingerKillConnectionList (sub64 s.ticker maxConnectionLingerKillTimeout))
  let (s,killed) := s.cleanupAll s.killConnectionList
  (s,accounts ++ lingering ++ killed)

/-- The calls of `OnAuthResult` among what the auth cache did. -/
def deliverResults (cfg : Config) (s : Server keys) : List AuthAction → Server keys × List ServerAction
  | [] => (s,[])
  | .result _ source verdict :: rest =>
    let (s,first) := s.deliver cfg source (.authResult verdict)
    let (s,later) := deliverResults cfg s rest
    (s,first ++ later)
  | _ :: rest => deliverResults cfg s rest

def authTick (cfg : Config) (s : Server keys) (nowMS : Nat) : Server keys × List ServerAction :=
  let (cache,actions) := s.authCacheManager.onTick nowMS
  let (s,delivered) := { s with authCacheManager := cache }.deliverResults cfg actions
  (s,actions.map .auth ++ delivered)

/-- A connection that has suspended reading is not read from. An aborted server is gone. -/
def step (cfg : Config) (s : Server keys) (e : ServerEvent) : Server keys × List ServerAction :=
  if s.aborted then (s,[])
  else match e with
    | .newConnection remoteIp => s.onNewConnection remoteIp
    | .data c data =>
      if (s.connectionPool.find? c).any ClientConnection.readingSuspended then (s,[])
      else s.deliver cfg c (.data data)
    | .peerClose c => s.deliver cfg c .peerClose
    | .authPacket node resp =>
      let (cache,actions) := s.authCacheManager.onServerPacket node resp
      ({ s with authCacheManager := cache },actions.map .auth)
    | .devicePacket requestId resp => s.deliver cfg requestId (.deviceSelected resp)
    | .relayState n pendingWrites => s.deliver cfg n.proxySideConnectionId (.relayState n pendingWrites)
    | .relayDestroy m pendingWrites => s.deliver cfg m.proxySideConnectionId (.relayDestroy pendingWrites)
    | .relayPush m payloadSize => s.deliver cfg m.proxySideConnectionId (.relayPush m.payload payloadSize)
    | .authTick nowMS => s.authTick cfg nowMS
    | .clientTick nowMS => { s with ticker := nowMS }.onTick

end Server

def serverMachine (cfg : Config) (keys : KeySource) : Machine (Server keys) ServerEvent ServerAction where
  start s := ∃ ticker connectionPoolSize cachePoolSize, s = .init keys ticker connectionPoolSize cachePoolSize
  step s e := s.step cfg e

/-! ## Histories and the auth log inside the server's log -/

def ServerAction.entry (c : Nat) : ServerAction → Option Entry
  | .deliver c' e => if c' = c then some (.received e) else none
  | .client c' x => if c' = c then some (.did x) else none
  | _ => none

def ServerAction.authAction : ServerAction → Option AuthAction
  | .auth a => some a
  | _ => none

/-- The history of connection `c`. -/
def history (c : Nat) (log : List ServerAction) : List Entry := log.filterMap (ServerAction.entry c)

def authLog (log : List ServerAction) : List AuthAction := log.filterMap ServerAction.authAction

@[simp] theorem history_nil (c : Nat) : history c [] = [] := rfl

@[simp] theorem history_deliver (c c' : Nat) (e : ConnEvent) (rest : List ServerAction) :
    history c (.deliver c' e :: rest) =
      if c' = c then .received e :: history c rest else history c rest := by
  by_cases same : c' = c <;> simp [history,ServerAction.entry,same]

@[simp] theorem history_client (c c' : Nat) (x : Effect) (rest : List ServerAction) :
    history c (.client c' x :: rest) =
      if c' = c then .did x :: history c rest else history c rest := by
  by_cases same : c' = c <;> simp [history,ServerAction.entry,same]

@[simp] theorem history_accepted (c c' : Nat) (rest : List ServerAction) :
    history c (.accepted c' :: rest) = history c rest := rfl

@[simp] theorem history_cleaned (c c' : Nat) (rest : List ServerAction) :
    history c (.cleaned c' :: rest) = history c rest := rfl

@[simp] theorem history_append (c : Nat) (log out : List ServerAction) :
    history c (log ++ out) = history c log ++ history c out := List.filterMap_append

@[simp] theorem history_auth (c : Nat) (actions : List AuthAction) :
    history c (actions.map .auth) = [] := by
  simp [history,List.filterMap_map,Function.comp_def,ServerAction.entry]

@[simp] theorem authLog_nil : authLog [] = [] := rfl

@[simp] theorem authLog_deliver (c : Nat) (e : ConnEvent) (rest : List ServerAction) :
    authLog (.deliver c e :: rest) = authLog rest := rfl

@[simp] theorem authLog_client (c : Nat) (x : Effect) (rest : List ServerAction) :
    authLog (.client c x :: rest) = authLog rest := rfl

@[simp] theorem authLog_accepted (c : Nat) (rest : List ServerAction) :
    authLog (.accepted c :: rest) = authLog rest := rfl

@[simp] theorem authLog_cleaned (c : Nat) (rest : List ServerAction) :
    authLog (.cleaned c :: rest) = authLog rest := rfl

@[simp] theorem authLog_append (log out : List ServerAction) :
    authLog (log ++ out) = authLog log ++ authLog out := List.filterMap_append

@[simp] theorem authLog_auth (actions : List AuthAction) : authLog (actions.map .auth) = actions := by
  simp [authLog,List.filterMap_map,Function.comp_def,ServerAction.authAction]

/-- The cache is asked by a connection's callback, and its answer is what is delivered. -/
def Sourced (before : List ServerAction) : ServerAction → Prop
  | .auth (.requestAuth c userPass _ _) => .client c (.requestAuth userPass) ∈ before
  | .deliver c (.authResult verdict) => ∃ rid, .auth (.result rid c verdict) ∈ before
  | _ => True

end MiniPP.Proxy
