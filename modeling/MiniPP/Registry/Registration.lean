import MiniPP.Lib.Storage
import MiniPP.Registry.Publication

/-! The service that servers register with. A connection remembers its entry by a pointer into
the live list, and the entry that the pointer leads to when the connection closes is removed. -/
namespace MiniPP.Registry

/-- The user context of a connection that has registered: a pointer into the list of a kind. -/
structure UserContext where
  kind : ServerKind
  pointer : Pointer
  deriving DecidableEq, Repr

structure RegisterRequest where
  serverId : Nat
  exportServerAddress : NetAddress
  deriving DecidableEq, Repr

/-- A request that does not decode is `none`. -/
inductive RegisterPacket where
  | register (kind : ServerKind) (request : Option RegisterRequest)
  | other
  deriving DecidableEq, Repr

inductive RegisterEvent where
  | clientConnected
  | clientPacket (c : Nat) (packet : RegisterPacket)
  | clientClose (c : Nat)
  | tick (nowMS : Nat)
  deriving DecidableEq, Repr

/-- `refused` is a callback that returned `false`, and `undefinedRead` a read through a pointer
that leads to no entry. -/
inductive RegisterAction where
  | accepted (c : Nat)
  | refused (c : Nat)
  | registered (c : Nat) (kind : ServerKind) (serverId : Nat)
  | list (a : ListAction)
  | undefinedRead (c : Nat)
  deriving DecidableEq, Repr

/-- Behaviour is undefined once `undefined` is set. -/
structure RegisterServerService (keys : KeySource) where
  serverListManager : InternalServerListManager
  connections : Storage keys (Option UserContext)
  undefined : Bool := false

namespace RegisterServerService

variable {keys : KeySource}

def init (keys : KeySource) (maxConnections : Nat) : RegisterServerService keys where
  serverListManager := .init 0 0
  connections := .empty keys _ maxConnections

/-- What `OnRegisterAuthCacheServer` and its two siblings share. -/
def onRegister (grow : Nat → Nat) (kind : ServerKind) (s : RegisterServerService keys) (c : Nat)
    (userContext : Option UserContext) (request : Option RegisterRequest) :
    RegisterServerService keys × List RegisterAction :=
  match userContext, request with
  | some _, _ | none, none => (s,[.refused c])
  | none, some r =>
    match s.serverListManager.addServerInfo grow kind r.serverId r.exportServerAddress with
    | none => (s,[.refused c])
    | some (serverListManager,pointer) =>
      ({ s with
          serverListManager
          connections := s.connections.modify c (fun _ => some ⟨kind,pointer⟩) },
        [.list (.added kind r.serverId s.serverListManager.ticker),.registered c kind r.serverId])

def onRegisterAuthCacheServer (grow : Nat → Nat) (s : RegisterServerService keys) :=
  s.onRegister grow .authCache

def onRegisterAuditDeviceServer (grow : Nat → Nat) (s : RegisterServerService keys) :=
  s.onRegister grow .auditDevice

def onRegisterAuditAccountServer (grow : Nat → Nat) (s : RegisterServerService keys) :=
  s.onRegister grow .auditAccount

def onClientPacket (grow : Nat → Nat) (s : RegisterServerService keys) (c : Nat)
    (userContext : Option UserContext) :
    RegisterPacket → RegisterServerService keys × List RegisterAction
  | .register .authCache request => s.onRegisterAuthCacheServer grow c userContext request
  | .register .auditDevice request => s.onRegisterAuditDeviceServer grow c userContext request
  | .register .auditAccount request => s.onRegisterAuditAccountServer grow c userContext request
  | .other => (s,[])

def onClientClose (s : RegisterServerService keys) (c : Nat) :
    Option UserContext → RegisterServerService keys × List RegisterAction
  | none => (s,[])
  | some p =>
    match (s.serverListManager.lists p.kind).infoList.deref? p.pointer with
    | none => ({ s with undefined := true },[.undefinedRead c])
    | some info =>
      let (serverListManager,actions) :=
        s.serverListManager.removeServerInfo info.serverType info.serverId
      ({ s with serverListManager },actions.map .list)

def step (grow : Nat → Nat) (s : RegisterServerService keys) (e : RegisterEvent) :
    RegisterServerService keys × List RegisterAction :=
  if s.undefined then (s,[])
  else match e with
    | .clientConnected =>
      match s.connections.acquire (fun _ => none) with
      | none => (s,[])
      | some (c,connections) => ({ s with connections },[.accepted c])
    | .clientPacket c packet =>
      match s.connections.find? c with
      | none => (s,[])
      | some userContext => s.onClientPacket grow c userContext packet
    | .clientClose c =>
      match s.connections.find? c with
      | none => (s,[])
      | some userContext =>
        let (s,actions) := s.onClientClose c userContext
        ({ s with connections := s.connections.release c },actions)
    | .tick nowMS =>
      let (serverListManager,actions) := s.serverListManager.onTick nowMS
      ({ s with serverListManager },actions.map .list)

/-- The id is in the live list of its kind. -/
def Live (s : RegisterServerService keys) (kind : ServerKind) (serverId : Nat) : Prop :=
  ∃ info ∈ (s.serverListManager.lists kind).infoList.items, info.serverId = serverId

def Open (s : RegisterServerService keys) (c : Nat) : Prop := s.connections.find? c ≠ none

instance (s : RegisterServerService keys) (c : Nat) : Decidable (Open s c) :=
  inferInstanceAs (Decidable (_ ≠ _))

end RegisterServerService

def registerMachine (grow : Nat → Nat) (keys : KeySource) :
    Machine (RegisterServerService keys) RegisterEvent RegisterAction where
  start s := ∃ maxConnections, s = .init keys maxConnections
  step s e := s.step grow e

end MiniPP.Registry
