import MiniPP.Proxy.Guarantees
import MiniPP.Relay.Service

/-! A proxy-access server and a relay, joined by a link that carries packets in order both
ways. The link may break at any time, which loses what it carries, and may be set up
again. Clients, devices, the other services and the other proxies do as they like. -/
namespace MiniPP.Link

structure Config where
  proxy : Proxy.Config
  relay : Relay.Config
  relayServer : Nat

/-- `session` is the relay's id for the proxy's connection, while there is one. -/
structure System (keys : KeySource) (relayKeys : Relay.Keys) where
  proxy : Proxy.Server keys
  relay : Relay.DeviceRelayService relayKeys
  session : Option Nat
  toRelay : List PR.Message
  toProxy : List PR.Message

inductive Action where
  | proxy (a : Proxy.ServerAction)
  | relay (a : Relay.RelayAction)
  deriving DecidableEq, Repr

/-- `proxy` and `relay` are what reaches one side from elsewhere; the packets of the link
arrive one by one. -/
inductive Event where
  | proxy (e : Proxy.ServerEvent)
  | relay (e : Relay.RelayEvent)
  | connect
  | disconnect
  | relayReceives
  | proxyReceives (pendingWrites : Bool) (payloadSize : Nat)
  deriving DecidableEq, Repr

/-- The packets among the proxy's actions that go to the relay. -/
def posted (relayServer : Nat) (out : List Proxy.ServerAction) : List PR.Message :=
  out.filterMap (fun
    | .client _ (.postMessage server m) => if server = relayServer then some m else none
    | _ => none)

/-- The packets among the relay's actions that go to the proxy's connection. -/
def sent (session : Option Nat) (out : List Relay.RelayAction) : List PR.Message :=
  out.filterMap (fun
    | .toProxy p m => if some p = session then some m else none
    | _ => none)

/-- `xPA_RelayClient::OnServerPacket`; other commands are ignored. -/
def onServerPacket (pendingWrites : Bool) (payloadSize : Nat) : PR.Message → Option Proxy.ServerEvent
  | .notifyConnectionState n => some (.relayState n pendingWrites)
  | .destroyConnection m => some (.relayDestroy m pendingWrites)
  | .postData m => some (.relayPush m payloadSize)
  | _ => none

/-- Only the link brings packets of a relay to the proxy. -/
def fromRelay : Proxy.ServerEvent → Bool
  | .relayState _ _ | .relayDestroy _ _ | .relayPush _ _ => true
  | _ => false

/-- Only the link brings packets of the proxy to its connection with the relay. -/
def fromProxy (session : Option Nat) : Relay.RelayEvent → Bool
  | .proxyPacket p (.message _) => some p == session
  | _ => false

namespace System

variable {keys : KeySource} {relayKeys : Relay.Keys}

/-- What the proxy posts while it has no connection to the relay is lost. -/
def proxyStep (cfg : Config) (s : System keys relayKeys) (e : Proxy.ServerEvent) :
    System keys relayKeys × List Action :=
  let (proxy,out) := s.proxy.step cfg.proxy e
  let packets := if s.session.isSome then posted cfg.relayServer out else []
  ({ s with proxy, toRelay := s.toRelay ++ packets },out.map .proxy)

def relayStep (cfg : Config) (s : System keys relayKeys) (e : Relay.RelayEvent) :
    System keys relayKeys × List Action :=
  let (relay,out) := s.relay.step cfg.relay e
  ({ s with relay, toProxy := s.toProxy ++ sent s.session out },out.map .relay)

/-- The proxy connects, and sends its challenge first. -/
def connect (cfg : Config) (s : System keys relayKeys) : System keys relayKeys × List Action :=
  let (relay,out) := s.relay.step cfg.relay .newProxyConnection
  match out with
  | [.acceptedProxy p] =>
    ({ s with relay, session := some p, toRelay := [.challenge], toProxy := [] },out.map .relay)
  | _ => (s,[])

def step (cfg : Config) (s : System keys relayKeys) : Event → System keys relayKeys × List Action
  | .proxy e => if fromRelay e then (s,[]) else s.proxyStep cfg e
  | .relay e => if fromProxy s.session e then (s,[]) else s.relayStep cfg e
  | .connect => s.connect cfg
  | .disconnect => ({ s with session := none, toRelay := [], toProxy := [] },[])
  | .relayReceives =>
    match s.session, s.toRelay with
    | some p, m :: rest => { s with toRelay := rest }.relayStep cfg (.proxyPacket p (.message (some m)))
    | _, _ => (s,[])
  | .proxyReceives pendingWrites payloadSize =>
    match s.toProxy with
    | m :: rest =>
      match onServerPacket pendingWrites payloadSize m with
      | some e => { s with toProxy := rest }.proxyStep cfg e
      | none => ({ s with toProxy := rest },[])
    | [] => (s,[])

end System

def systemMachine (cfg : Config) (keys : KeySource) (relayKeys : Relay.Keys) :
    Machine (System keys relayKeys) Event Action where
  start s := (Proxy.serverMachine cfg.proxy keys).start s.proxy ∧
    (Relay.relayMachine cfg.relay relayKeys).start s.relay ∧
    s.session = none ∧ s.toRelay = [] ∧ s.toProxy = []
  step s e := s.step cfg e

/-! ## The proxy's part of a run -/

def proxyLog (log : List Action) : List Proxy.ServerAction :=
  log.filterMap (fun | .proxy a => some a | .relay _ => none)

@[simp] theorem proxyLog_append (log out : List Action) :
    proxyLog (log ++ out) = proxyLog log ++ proxyLog out := List.filterMap_append

@[simp] theorem proxyLog_proxy (out : List Proxy.ServerAction) : proxyLog (out.map .proxy) = out := by
  simp [proxyLog,List.filterMap_map]

@[simp] theorem proxyLog_relay (out : List Relay.RelayAction) : proxyLog (out.map .relay) = [] := by
  simp [proxyLog,List.filterMap_map]

variable {keys : KeySource} {relayKeys : Relay.Keys} {cfg : Config}

/-- For the proxy, an event of the system is one of its own events or nothing. -/
theorem step_proxy (s : System keys relayKeys) (e : Event) :
    (∃ e', (s.step cfg e).1.proxy = (s.proxy.step cfg.proxy e').1 ∧
      proxyLog (s.step cfg e).2 = (s.proxy.step cfg.proxy e').2) ∨
    ((s.step cfg e).1.proxy = s.proxy ∧ proxyLog (s.step cfg e).2 = []) := by
  cases e with
  | proxy e =>
    simp only [System.step]
    split
    · exact .inr ⟨rfl,rfl⟩
    · exact .inl ⟨e,rfl,proxyLog_proxy _⟩
  | relay e =>
    simp only [System.step]
    split
    · exact .inr ⟨rfl,rfl⟩
    · exact .inr ⟨rfl,proxyLog_relay _⟩
  | connect =>
    simp only [System.step,System.connect]
    split
    · exact .inr ⟨rfl,proxyLog_relay _⟩
    · exact .inr ⟨rfl,rfl⟩
  | disconnect => exact .inr ⟨rfl,rfl⟩
  | relayReceives =>
    simp only [System.step]
    split
    · exact .inr ⟨rfl,proxyLog_relay _⟩
    · exact .inr ⟨rfl,rfl⟩
  | proxyReceives pendingWrites payloadSize =>
    simp only [System.step]
    split
    · split
      · exact .inl ⟨_,rfl,proxyLog_proxy _⟩
      · exact .inr ⟨rfl,rfl⟩
    · exact .inr ⟨rfl,rfl⟩

theorem proxy_reach {ok : System keys relayKeys → List Action → Event → Prop}
    {s : System keys relayKeys} {log : List Action}
    (reach : (systemMachine cfg keys relayKeys).Reach ok s log) :
    (Proxy.serverMachine cfg.proxy keys).Reach Machine.anything s.proxy (proxyLog log) := by
  refine reach.invariant
    (I := fun s log => (Proxy.serverMachine cfg.proxy keys).Reach Machine.anything s.proxy (proxyLog log))
    ?_ ?_
  · rintro s ⟨start,-⟩
    exact .start start
  intro s log e _ _ before
  have logged : proxyLog (log ++ ((systemMachine cfg keys relayKeys).step s e).2) =
      proxyLog log ++ proxyLog (s.step cfg e).2 := proxyLog_append _ _
  rw [logged]
  change (Proxy.serverMachine cfg.proxy keys).Reach Machine.anything (s.step cfg e).1.proxy _
  rcases step_proxy s e with ⟨e',proxy,out⟩ | ⟨proxy,out⟩
  · rw [proxy,out]
    exact .step e' before trivial
  · rw [proxy,out,List.append_nil]
    exact before

/-! ## A small system -/

def referenceConfig : Config :=
  { proxy := Proxy.referenceConfig, relay := Relay.referenceConfig, relayServer := 9 }

/-- `contexts` is the size of the relay's pool. -/
def smallSystem (contexts : Nat) : System .sequential .sequential where
  proxy := .init .sequential 1000000 8 8
  relay := .init .sequential 1000000 4 4 4 contexts
  session := none
  toRelay := []
  toProxy := []

abbrev after (contexts : Nat) (es : List Event) : System .sequential .sequential × List Action :=
  (systemMachine referenceConfig .sequential .sequential).run (smallSystem contexts) es

theorem smallSystem_start (contexts : Nat) :
    (systemMachine referenceConfig .sequential .sequential).start (smallSystem contexts) :=
  ⟨⟨_,_,_,rfl⟩,⟨_,_,_,_,_,rfl⟩,rfl,rfl,rfl⟩

theorem after_reach (contexts : Nat) (es : List Event) :
    (systemMachine referenceConfig .sequential .sequential).Reach Machine.anything
      (after contexts es).1 (after contexts es).2 :=
  Machine.reach_run (smallSystem_start contexts) es

/-- A device registers, and the proxy connects to the relay. -/
def linked : List Event := Relay.registration.map .relay ++ [.connect,.relayReceives]

/-- A SOCKS5 client logs in and is given the device. -/
def socksLogin : List Event :=
  linked ++ ((Proxy.socksSession false).take 5).map .proxy ++
  [.proxy (.devicePacket 1 { deviceRelayServerRuntimeId := 9, deviceRelaySideId := 1 })]

end MiniPP.Link
