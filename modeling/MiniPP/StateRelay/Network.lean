import MiniPP.Lib.Broadcast
import MiniPP.Message.RoundTrip
import MiniPP.Observer.DeviceTable
import MiniPP.Relay.Receiving
import MiniPP.Selector.Devices

/-! The relay of device states. Relays post the states of their devices to its producer service, and
its observer service sends them on to all programs that are connected to it. A connection stands for
the bytes posted on it that were not read yet; what is never read is lost. -/
namespace MiniPP.StateRelay

open Message Broadcast

def cmdDeviceUpdate : Nat := 0x9001

/-! ## Reports -/

/-- A new `xPP_DeviceInfoUpdate`, with the members that `ReportDeviceState` sets. -/
def message (r : Relay.DeviceInfoUpdate) : PP.DeviceInfoUpdate where
  deviceUuid := r.deviceUuid
  version := 0
  relayServerRuntimeId := r.relayServerRuntimeId
  relaySideDeviceKey := r.relaySideDeviceKey
  primaryIpv4Address := .unspecified
  primaryIpv6Address := .unspecified
  continentId := 0
  countryId := r.geoInfo.countryId
  stateId := r.geoInfo.stateId
  cityId := r.geoInfo.cityId
  isOffline := r.isOffline
  supportUdpChannel := false
  supportDnsRequests := false
  speedLimitEnabled := false

/-- `DeviceReporter.PostMessage`: a report that does not fit in a packet is not posted. -/
def reportPacket (x : PacketLibrary) (r : Relay.DeviceInfoUpdate) : Bytes :=
  x.writeMessage cmdDeviceUpdate 0 (message r).serializeMembers

/-- `BuildPacket`, around a payload that is there already. -/
def buildPacket (x : PacketLibrary) (commandId requestId : Nat) (payload : Bytes) : Bytes :=
  if x.wire.maxPacketSize < x.format.headerSize + payload.length then []
  else x.writeHeader (x.format.headerSize + payload.length) commandId requestId ++ payload

/-! ## Programs that observe -/

/-- A program on the observer port: what it does with a packet, and on its own. -/
structure Observer (ω δ α : Type) where
  start : ω → Prop
  onServerPacket : ω → Nat → Bytes → ω × List α
  own : ω → δ → ω × List α

/-! ## The network -/

structure Network (keys : Relay.Keys) (ω : Type) where
  relays : Nat → Relay.DeviceRelayService keys
  /-- The connection that a relay reports on. -/
  reporters : Nat → Option Nat
  uplink : Nat → List Bytes
  /-- `Connections` of `xObserverService`, and what was posted on each. -/
  observerService : Hub Nat Bytes
  observers : Nat → ω
  connections : Nat → Option Nat
  nextConnection : Nat

inductive Event (δ : Type) where
  | relay (i : Nat) (e : Relay.RelayEvent)
  | reporterConnects (i : Nat)
  | reporterLeaves (i : Nat)
  | producerReads (p : Nat)
  | observerConnects (j : Nat)
  | observerLeaves (j : Nat)
  | observerCloses (c : Nat)
  | observerReads (j : Nat)
  | observer (j : Nat) (e : δ)

inductive Action (α : Type) where
  | relay (i : Nat) (a : Relay.RelayAction)
  | posted (i p : Nat) (data : Bytes)
  | dispatched (p : Nat) (data : Bytes)
  | assertion
  | connected (j c : Nat)
  | closed (c : Nat)
  | read (j c : Nat) (data : Bytes)
  | observer (j : Nat) (a : α)
  deriving DecidableEq

namespace Network

variable {keys : Relay.Keys} {ω δ α : Type}

def reports (out : List Relay.RelayAction) : List Relay.DeviceInfoUpdate :=
  out.filterMap (fun | .report r => some r | _ => none)

/-- What a relay posts, if it is connected. -/
def posts (x : PacketLibrary) (out : List Relay.RelayAction) : List Bytes :=
  ((reports out).map (reportPacket x)).filter (· ≠ [])

def post (x : PacketLibrary) (s : Network keys ω) (i : Nat) (out : List Relay.RelayAction) :
    Network keys ω × List (Action α) :=
  match s.reporters i with
  | none => (s,[])
  | some p =>
    ({ s with uplink := Function.update s.uplink p (s.uplink p ++ posts x out) },
      (posts x out).map (.posted i p))

/-- `DispatchData`, to one connection after the other. -/
def dispatchData (s : Network keys ω) (p : Nat) (data : Bytes) : Network keys ω × List (Action α) :=
  ({ s with observerService := s.observerService.publish data },[.dispatched p data])

/-- `OnClientPacket` of `xProducerService`. A packet of another command is ignored. -/
def onClientPacket (x : PacketLibrary) (s : Network keys ω) (p commandId : Nat) (payload : Bytes) :
    Network keys ω × List (Action α) :=
  if commandId = cmdDeviceUpdate then
    if buildPacket x commandId 0 payload = [] then (s,[.assertion])
    else s.dispatchData p (buildPacket x commandId 0 payload)
  else (s,[])

def onServerPacket (x : PacketLibrary) (o : Observer ω δ α) (s : Network keys ω) (j : Nat) (data : Bytes) :
    Network keys ω × List (Action α) :=
  match Framing.front x.format.framing data with
  | .packet header payload =>
    let handled := o.onServerPacket (s.observers j) header.commandId payload
    ({ s with observers := Function.update s.observers j handled.1 },handled.2.map (.observer j))
  | _ => (s,[])

def step (cfg : Nat → Relay.Config) (x : PacketLibrary) (o : Observer ω δ α) (s : Network keys ω) :
    Event δ → Network keys ω × List (Action α)
  | .relay i e =>
    let stepped := (s.relays i).step (cfg i) e
    let posted := { s with relays := Function.update s.relays i stepped.1 }.post x i stepped.2
    (posted.1,stepped.2.map (.relay i) ++ posted.2)
  | .reporterConnects i =>
    match s.reporters i with
    | some _ => (s,[])
    | none =>
      ({ s with
          reporters := Function.update s.reporters i (some s.nextConnection)
          nextConnection := s.nextConnection + 1 },[])
  | .reporterLeaves i => ({ s with reporters := Function.update s.reporters i none },[])
  | .producerReads p =>
    match s.uplink p with
    | [] => (s,[])
    | data :: rest =>
      let s := { s with uplink := Function.update s.uplink p rest }
      match Framing.front x.format.framing data with
      | .packet header payload => s.onClientPacket x p header.commandId payload
      | _ => (s,[])
  | .observerConnects j =>
    match s.connections j with
    | some _ => (s,[])
    | none =>
      ({ s with
          observerService := s.observerService.join s.nextConnection
          connections := Function.update s.connections j (some s.nextConnection)
          nextConnection := s.nextConnection + 1 },[.connected j s.nextConnection])
  | .observerLeaves j => ({ s with connections := Function.update s.connections j none },[])
  | .observerCloses c => ({ s with observerService := s.observerService.leave c },[.closed c])
  | .observerReads j =>
    match s.connections j with
    | none => (s,[])
    | some c =>
      match s.observerService.channel c with
      | [] => (s,[])
      | data :: _ =>
        let handled := { s with observerService := s.observerService.take c }.onServerPacket x o j data
        (handled.1,.read j c data :: handled.2)
  | .observer j e =>
    let handled := o.own (s.observers j) e
    ({ s with observers := Function.update s.observers j handled.1 },handled.2.map (.observer j))

end Network

/-- Relays and observers that have started, and no connection. -/
def networkMachine {ω δ α : Type} (cfg : Nat → Relay.Config) (x : PacketLibrary) (o : Observer ω δ α)
    (keys : Relay.Keys) : Machine (Network keys ω) (Event δ) (Action α) where
  start s := ∃ relays observers, (∀ i, (Relay.relayMachine (cfg i) keys).start (relays i)) ∧
    (∀ j, o.start (observers j)) ∧ s = ⟨relays,fun _ => none,fun _ => [],{},observers,fun _ => none,1⟩
  step s e := s.step cfg x o e

/-! ## Selectors -/

def cmdAcquireDevice : Nat := 0xd001

inductive SelectorEvent where
  | clientPacket (commandId requestId : Nat) (payload : Bytes)
  | tick (nowMS : Nat)
  deriving DecidableEq, Repr

/-- With a response, the device that was selected for it. -/
inductive SelectorAction where
  | device (a : Selector.DeviceAction)
  | acquireDeviceResp (requestId : Nat) (request : PP.AcquireDevice)
      (selected : Option Selector.DeviceInfoBase) (resp : AcquireDeviceResp)
  deriving DecidableEq

/-- What the selector looks at. -/
def selectorUpdate (m : PP.DeviceInfoUpdate) : Selector.DeviceInfoUpdate where
  deviceUuid := m.deviceUuid
  relayServerRuntimeId := m.relayServerRuntimeId
  relaySideDeviceKey := m.relaySideDeviceKey
  countryId := m.countryId
  stateId := m.stateId
  cityId := m.cityId
  isOffline := m.isOffline

/-- The payload of an update, read into a new object. -/
def decodeUpdate (x : MessageFormat) (payload : Bytes) : Option PP.DeviceInfoUpdate :=
  x.decode (PP.DeviceInfoUpdate.deserializeMembers x Observer.blankUpdate) payload

/-- `OnServerPacket` of `xDS_DeviceObserver`. -/
def onDevicePacket (x : MessageFormat) (m : Selector.DeviceContextManager) (commandId : Nat) (payload : Bytes) :
    Selector.DeviceContextManager × List SelectorAction :=
  if commandId = cmdDeviceUpdate then
    let handled := m.onServerPacket ((decodeUpdate x payload).map selectorUpdate)
    (handled.1,handled.2.map .device)
  else (m,[])

/-- The members of a new response that are not set are zero. -/
def acquireDeviceResp : Option Selector.DeviceInfoBase → AcquireDeviceResp
  | none => ⟨0,0⟩
  | some info => ⟨info.releayServerRuntimeId,info.relaySideDeviceId⟩

/-- `OnSelectDevice`. -/
def onSelectDevice (x : MessageFormat) (m : Selector.DeviceContextManager) (requestId : Nat) (payload : Bytes) :
    Selector.DeviceContextManager × List SelectorAction :=
  match x.decode (PP.AcquireDevice.deserializeMembers x) payload with
  | none => (m,[])
  | some req =>
    let selected := m.onSelectDevice req.countryId req.stateId req.cityId
    let info := selected.2.map Selector.DeviceContext.infoBase
    (selected.1,[.acquireDeviceResp requestId req info (acquireDeviceResp info)])

def selectorStep (x : MessageFormat) (m : Selector.DeviceContextManager) :
    SelectorEvent → Selector.DeviceContextManager × List SelectorAction
  | .clientPacket commandId requestId payload =>
    if commandId = cmdAcquireDevice then onSelectDevice x m requestId payload else (m,[])
  | .tick nowMS =>
    let ticked := m.tick nowMS
    (ticked.1,ticked.2.map .device)

def selector (x : MessageFormat) : Observer Selector.DeviceContextManager SelectorEvent SelectorAction where
  start m := ∃ ticker, m = { ticker }
  onServerPacket := onDevicePacket x
  own := selectorStep x

/-! ## A small network -/

/-- One relay whose device registers, and one selector that is asked for a device in its country. -/
def smallNetwork : Network .sequential Selector.DeviceContextManager :=
  ⟨fun _ => Relay.smallRelay,fun _ => none,fun _ => [],{},fun _ => {},fun _ => none,1⟩

abbrev smallMachine : Machine (Network .sequential Selector.DeviceContextManager) (Event SelectorEvent)
    (Action SelectorAction) :=
  networkMachine (fun _ => Relay.referenceConfig) .reference (selector PacketLibrary.reference.toMessageFormat)
    .sequential

theorem smallNetwork_start : smallMachine.start smallNetwork :=
  ⟨fun _ => Relay.smallRelay,fun _ => {},fun _ => ⟨_,_,_,_,_,rfl⟩,fun _ => ⟨0,rfl⟩,rfl⟩

def acquireInCountry : Bytes :=
  PacketLibrary.reference.serialize (PP.AcquireDevice.serializeMembers ⟨1,0,0,false,false,false⟩)

def registers : List (Event SelectorEvent) :=
  [.reporterConnects 0,.observerConnects 0] ++ Relay.registration.map (.relay 0) ++
    [.producerReads 1,.observerReads 0,.observer 0 (.clientPacket cmdAcquireDevice 5 acquireInCountry)]

end MiniPP.StateRelay
