import MiniPP.Proxy.Guarantees
import MiniPP.StateRelay.Network

/-! A proxy-access server and its device selector. The selector is one of the programs that observe
the states of devices. The connection between the two carries packets in order both ways; it may break
at any time, which loses what it carries, and may be set up again. The selector answers other programs
too. -/
namespace MiniPP.Placement

open Message Framing StateRelay

def cmdAcquireDeviceResp : Nat := 0xd002

/-- `selector` is the selector among the programs that observe. -/
structure Config where
  proxy : Proxy.Config
  relays : Nat → Relay.Config
  library : PacketLibrary
  selector : Nat

structure System (keys : KeySource) (relayKeys : Relay.Keys) where
  proxy : Proxy.Server keys
  network : Network relayKeys Selector.DeviceContextManager
  connected : Bool
  toSelector : List Bytes
  toProxy : List Bytes

inductive Action where
  | proxy (a : Proxy.ServerAction)
  | network (a : StateRelay.Action SelectorAction)
  deriving DecidableEq

/-- `proxy` and `network` are what reaches one side from elsewhere; the packets of the connection
arrive one by one. -/
inductive Event where
  | proxy (e : Proxy.ServerEvent)
  | network (e : StateRelay.Event SelectorEvent)
  | connect
  | disconnect
  | selectorReads
  | proxyReads

/-! ## Packets -/

/-- A new `xPP_AcquireDevice`, with the members that `PostDeviceRequest` sets. -/
def acquireDevice (r : Proxy.DeviceRequest) : PP.AcquireDevice where
  countryId := r.countryId
  stateId := r.stateId
  cityId := r.cityId
  requireIpv6 := r.requireIpv6
  requireUdp := r.requireUdp
  requireRemoteDns := r.requireRemoteDns

def requestPacket (x : PacketLibrary) (r : Proxy.DeviceRequest) : Bytes :=
  x.writeMessage cmdAcquireDevice r.clientConnectionId (acquireDevice r).serializeMembers

def responsePacket (x : PacketLibrary) (requestId : Nat) (resp : AcquireDeviceResp) : Bytes :=
  x.writeMessage cmdAcquireDeviceResp requestId (PP.AcquireDeviceResp.serializeMembers resp)

def requests (out : List Proxy.ServerAction) : List Proxy.DeviceRequest :=
  out.filterMap (fun | .client _ (.postDeviceRequest r) => some r | _ => none)

/-- What the proxy posts to the selector. A message that does not fit in a packet is not posted. -/
def posts (x : PacketLibrary) (out : List Proxy.ServerAction) : List Bytes :=
  ((requests out).map (requestPacket x)).filter (· ≠ [])

/-- What the selector posts for a packet of the proxy. -/
def answers (x : PacketLibrary) (out : List (StateRelay.Action SelectorAction)) : List Bytes :=
  (out.filterMap (fun
    | .observer _ (.acquireDeviceResp requestId _ _ resp) => some (responsePacket x requestId resp)
    | _ => none)).filter (· ≠ [])

/-- `OnServerPacket` of `xPA_DeviceSelectorManager`, and `OnDeviceSelectorResult`. A packet of another
command, and one that does not decode, is ignored. -/
def onServerPacket (x : PacketLibrary) (data : Bytes) : Option Proxy.ServerEvent :=
  match Framing.front x.format.framing data with
  | .packet header payload =>
    if header.commandId = cmdAcquireDeviceResp then
      (x.toMessageFormat.decode (PP.AcquireDeviceResp.deserializeMembers x.toMessageFormat) payload).map
        (.devicePacket header.requestId)
    else none
  | _ => none

/-- Only the connection brings packets of the selector to the proxy. -/
def fromSelector : Proxy.ServerEvent → Bool
  | .devicePacket _ _ => true
  | _ => false

namespace System

variable {keys : KeySource} {relayKeys : Relay.Keys}

def proxyStep (cfg : Config) (s : System keys relayKeys) (e : Proxy.ServerEvent) :
    System keys relayKeys × List Action :=
  let stepped := s.proxy.step cfg.proxy e
  let packets := if s.connected then posts cfg.library stepped.2 else []
  ({ s with proxy := stepped.1, toSelector := s.toSelector ++ packets },stepped.2.map .proxy)

def networkStep (cfg : Config) (s : System keys relayKeys) (e : StateRelay.Event SelectorEvent) :
    System keys relayKeys × List (StateRelay.Action SelectorAction) :=
  let stepped := s.network.step cfg.relays cfg.library (selector cfg.library.toMessageFormat) e
  ({ s with network := stepped.1 },stepped.2)

def step (cfg : Config) (s : System keys relayKeys) : Event → System keys relayKeys × List Action
  | .proxy e => if fromSelector e then (s,[]) else s.proxyStep cfg e
  | .network e =>
    let stepped := s.networkStep cfg e
    (stepped.1,stepped.2.map .network)
  | .connect =>
    if s.connected then (s,[]) else ({ s with connected := true, toSelector := [], toProxy := [] },[])
  | .disconnect => ({ s with connected := false, toSelector := [], toProxy := [] },[])
  | .selectorReads =>
    match s.toSelector with
    | [] => (s,[])
    | data :: rest =>
      let s := { s with toSelector := rest }
      match Framing.front cfg.library.format.framing data with
      | .packet header payload =>
        let stepped := s.networkStep cfg
          (.observer cfg.selector (.clientPacket header.commandId header.requestId payload))
        ({ stepped.1 with toProxy := stepped.1.toProxy ++ answers cfg.library stepped.2 },
          stepped.2.map .network)
      | _ => (s,[])
  | .proxyReads =>
    match s.toProxy with
    | [] => (s,[])
    | data :: rest =>
      match onServerPacket cfg.library data with
      | some e => { s with toProxy := rest }.proxyStep cfg e
      | none => ({ s with toProxy := rest },[])

end System

/-- All programs have started, and there is no connection. -/
def systemMachine (cfg : Config) (keys : KeySource) (relayKeys : Relay.Keys) :
    Machine (System keys relayKeys) Event Action where
  start s := (Proxy.serverMachine cfg.proxy keys).start s.proxy ∧
    (networkMachine cfg.relays cfg.library (selector cfg.library.toMessageFormat) relayKeys).start s.network ∧
    s.connected = false ∧ s.toSelector = [] ∧ s.toProxy = []
  step s e := s.step cfg e

/-! ## The two parts of a run -/

def proxyLog (log : List Action) : List Proxy.ServerAction :=
  log.filterMap (fun | .proxy a => some a | .network _ => none)

def networkLog (log : List Action) : List (StateRelay.Action SelectorAction) :=
  log.filterMap (fun | .network a => some a | .proxy _ => none)

@[simp] theorem proxyLog_append (log out : List Action) :
    proxyLog (log ++ out) = proxyLog log ++ proxyLog out := List.filterMap_append

@[simp] theorem networkLog_append (log out : List Action) :
    networkLog (log ++ out) = networkLog log ++ networkLog out := List.filterMap_append

@[simp] theorem proxyLog_proxy (out : List Proxy.ServerAction) : proxyLog (out.map .proxy) = out := by
  simp [proxyLog,List.filterMap_map]

@[simp] theorem proxyLog_network (out : List (StateRelay.Action SelectorAction)) :
    proxyLog (out.map .network) = [] := by
  simp [proxyLog,List.filterMap_map]

@[simp] theorem networkLog_network (out : List (StateRelay.Action SelectorAction)) :
    networkLog (out.map .network) = out := by
  simp [networkLog,List.filterMap_map]

@[simp] theorem networkLog_proxy (out : List Proxy.ServerAction) : networkLog (out.map .proxy) = [] := by
  simp [networkLog,List.filterMap_map]

theorem mem_proxyLog {log : List Action} {a : Proxy.ServerAction} : a ∈ proxyLog log ↔ .proxy a ∈ log := by
  unfold proxyLog
  rw [List.mem_filterMap]
  constructor
  · rintro ⟨b,member,same⟩
    cases b with
    | proxy b => exact Option.some.inj same ▸ member
    | network b => cases same
  · exact fun member => ⟨_,member,rfl⟩

variable {keys : KeySource} {relayKeys : Relay.Keys} {cfg : Config}

/-- An event of the system is for the proxy one of its own or nothing, and so for the network. -/
inductive Moves (cfg : Config) (s : System keys relayKeys) : System keys relayKeys × List Action → Prop where
  | none {s' : System keys relayKeys} (proxy : s'.proxy = s.proxy) (network : s'.network = s.network) :
      Moves cfg s (s',[])
  | proxy {s' : System keys relayKeys} (e : Proxy.ServerEvent)
      (proxy : s'.proxy = (s.proxy.step cfg.proxy e).1) (network : s'.network = s.network) :
      Moves cfg s (s',(s.proxy.step cfg.proxy e).2.map .proxy)
  | network {s' : System keys relayKeys} (e : StateRelay.Event SelectorEvent)
      (proxy : s'.proxy = s.proxy) (network : s'.network = (s.networkStep cfg e).1.network) :
      Moves cfg s (s',(s.networkStep cfg e).2.map .network)

theorem step_moves (s : System keys relayKeys) (e : Event) : Moves cfg s (s.step cfg e) := by
  cases e with
  | proxy e =>
    simp only [System.step]
    split
    · exact .none rfl rfl
    · exact .proxy e rfl rfl
  | network e => exact .network e rfl rfl
  | connect =>
    simp only [System.step]
    split
    · exact .none rfl rfl
    · exact .none rfl rfl
  | disconnect => exact .none rfl rfl
  | selectorReads =>
    simp only [System.step]
    split
    · exact .none rfl rfl
    · split
      · exact .network _ rfl rfl
      · exact .none rfl rfl
  | proxyReads =>
    simp only [System.step]
    split
    · exact .none rfl rfl
    · split
      · exact .proxy _ rfl rfl
      · exact .none rfl rfl

end MiniPP.Placement
