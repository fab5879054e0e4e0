import MiniPP.Lib.TimedPool
import MiniPP.Protocol

/-! The four pools of the relay server: connections of devices, devices, connections of
proxy-access servers, and the contexts of relayed connections. A pointer to a pooled
object is its id, so an id that its pool does not know is a pointer to a destroyed object. -/
namespace MiniPP.Relay

structure Keys where
  deviceConnection : KeySource
  device : KeySource
  proxyConnection : KeySource
  relayConnection : KeySource

def Keys.sequential : Keys := ⟨.sequential,.sequential,.sequential,.sequential⟩

variable {keys : KeySource}

/-! ## Connections of devices -/

inductive DeviceConnectionType where
  | ctrl | data
  deriving DecidableEq, Repr

/-- `deviceId` is 0 while the connection belongs to no device. -/
structure DeviceConnection where
  type : DeviceConnectionType
  deviceId : Nat := 0
  deriving DecidableEq, Repr

/-- The new list, the idle list and the kill list are those of the pool. -/
abbrev DeviceConnectionManager (keys : KeySource) := TimedPool keys DeviceConnection

namespace DeviceConnectionManager

def newConnectionTimeoutMS : Nat := 3000
def idleTimeoutMS : Nat := 120000

def acceptConnection (m : DeviceConnectionManager keys) (type : DeviceConnectionType) :
    Option (Nat × DeviceConnectionManager keys) := m.accept { type }

def getConnectionById (m : DeviceConnectionManager keys) (c : Nat) : Option DeviceConnection := m.get? c

def deferReleaseConnection (m : DeviceConnectionManager keys) (c : Nat) : DeviceConnectionManager keys :=
  m.giveUp c

def keepAlive (m : DeviceConnectionManager keys) (c : Nat) : DeviceConnectionManager keys :=
  TimedPool.keepAlive m c

def setDeviceId (m : DeviceConnectionManager keys) (c deviceId : Nat) : DeviceConnectionManager keys :=
  m.modify c (fun conn => { conn with deviceId })

/-- What a tick at the present time destroys. -/
def idleConnections (m : DeviceConnectionManager keys) : List Nat :=
  m.expired (sub64 m.ticker newConnectionTimeoutMS) (sub64 m.ticker idleTimeoutMS)

def removeIdleConnections (m : DeviceConnectionManager keys) : DeviceConnectionManager keys :=
  m.destroyAll m.idleConnections

end DeviceConnectionManager

/-! ## Devices -/

structure GeoInfo where
  countryId : Nat := 0
  stateId : Nat := 0
  cityId : Nat := 0
  deriving DecidableEq, Repr

structure Device where
  deviceRuntimeId : Nat
  deleted : Bool := false
  ctrlConnection : Option Nat := none
  dataConnection : Option Nat := none
  deviceLocalIdString : Bytes := []
  geoInfo : GeoInfo := {}
  deriving DecidableEq, Repr

/-- `xPP_DeviceInfoUpdate`. -/
structure DeviceInfoUpdate where
  relayServerRuntimeId : Nat
  relaySideDeviceKey : Nat
  geoInfo : GeoInfo
  deviceUuid : Bytes
  isOffline : Bool
  deriving DecidableEq, Repr

/-- A released device is only marked: nothing empties the kill list while the server runs. -/
structure DeviceManager (keys : KeySource) where
  devicePool : Storage keys Device

namespace DeviceManager

def init (keys : KeySource) (maxDevice : Nat) : DeviceManager keys := ⟨.empty keys _ maxDevice⟩

def getDeviceById (m : DeviceManager keys) (id : Nat) : Option Device :=
  (m.devicePool.find? id).filter (fun device => !device.deleted)

def newDevice (m : DeviceManager keys) : Option (Nat × DeviceManager keys) :=
  (m.devicePool.acquire (fun id => { deviceRuntimeId := id })).map (fun (id,devicePool) => (id,⟨devicePool⟩))

def releaseDevice (m : DeviceManager keys) (id : Nat) : DeviceManager keys :=
  ⟨m.devicePool.modify id (fun device => { device with deleted := true })⟩

def update (m : DeviceManager keys) (id : Nat) (f : Device → Device) : DeviceManager keys :=
  ⟨m.devicePool.modify id f⟩

end DeviceManager

/-- `ReportDeviceState`. -/
def Device.report (device : Device) (serverRuntimeId : Nat) (isOffline : Bool) : DeviceInfoUpdate where
  relayServerRuntimeId := serverRuntimeId
  relaySideDeviceKey := device.deviceRuntimeId
  geoInfo := device.geoInfo
  deviceUuid := device.deviceLocalIdString
  isOffline := isOffline

/-! ## Connections of proxy-access servers -/

structure ProxyConnection where
  challengeReady : Bool := false
  deriving DecidableEq, Repr

/-- The challenge list, the idle list and the kill list are those of the pool. -/
abbrev ProxyConnectionManager (keys : KeySource) := TimedPool keys ProxyConnection

namespace ProxyConnectionManager

def challengeTimeout : Nat := 2000
def idleTimeout : Nat := 180000

def acceptConnection (m : ProxyConnectionManager keys) : Option (Nat × ProxyConnectionManager keys) :=
  m.accept {}

def getConnectionById (m : ProxyConnectionManager keys) (p : Nat) : Option ProxyConnection := m.get? p

def setChallengeReady (m : ProxyConnectionManager keys) (p : Nat) : ProxyConnectionManager keys :=
  m.modify p (fun _ => { challengeReady := true })

def keepAlive (m : ProxyConnectionManager keys) (p : Nat) : ProxyConnectionManager keys :=
  if (m.get? p).any ProxyConnection.challengeReady then TimedPool.keepAlive m p else m

def deferReleaseConnection (m : ProxyConnectionManager keys) (p : Nat) : ProxyConnectionManager keys :=
  m.giveUp p

def idleConnections (m : ProxyConnectionManager keys) : List Nat :=
  m.expired (sub64 m.ticker challengeTimeout) (sub64 m.ticker idleTimeout)

def removeIdleConnections (m : ProxyConnectionManager keys) : ProxyConnectionManager keys :=
  m.destroyAll m.idleConnections

@[simp] theorem issued_keepAlive (m : ProxyConnectionManager keys) (p other : Nat) :
    (m.keepAlive p).members.Issued other ↔ m.members.Issued other := by
  unfold keepAlive
  split
  · exact TimedPool.issued_keepAlive m p other
  · rfl

end ProxyConnectionManager

/-! ## Contexts of relayed connections -/

/-- `deviceSlot` is the union of a 16-bit target port and the 64-bit id on the device's
side: the port is its lower half-word. -/
@[ext]
structure RelayConnectionContext where
  relaySideConnectionId : Nat
  deviceSlot : Nat := 0
  proxySideConnectionId : Nat := 0
  deviceId : Nat := 0
  proxyConnectionId : Nat := 0
  deriving DecidableEq, Repr

namespace RelayConnectionContext

def targetPort (rc : RelayConnectionContext) : Nat := rc.deviceSlot % 2^16

/-- The id as the 32-bit field of a message takes it. -/
def deviceSideConnectionId (rc : RelayConnectionContext) : Nat := rc.deviceSlot % 2^32

def setTargetPort (rc : RelayConnectionContext) (port : Nat) : RelayConnectionContext :=
  { rc with deviceSlot := rc.deviceSlot / 2^16 * 2^16 + port % 2^16 }

@[simp] theorem targetPort_setTargetPort (rc : RelayConnectionContext) (port : Nat) :
    (rc.setTargetPort port).targetPort = port % 2^16 := by
  simp only [targetPort,setTargetPort]
  omega

end RelayConnectionContext

/-- `RelayConnectionManager`: contexts are never given back while the server runs. -/
structure RelayConnectionManager (keys : KeySource) where
  contextPool : Storage keys RelayConnectionContext

namespace RelayConnectionManager

def init (keys : KeySource) (maxConnectionSize : Nat) : RelayConnectionManager keys :=
  ⟨.empty keys _ maxConnectionSize⟩

def getConnectionById (m : RelayConnectionManager keys) (id : Nat) : Option RelayConnectionContext :=
  m.contextPool.find? id

/-- `Create`, with the fields that its caller fills in at once. -/
def create (m : RelayConnectionManager keys) (fill : RelayConnectionContext → RelayConnectionContext) :
    Option (Nat × RelayConnectionManager keys) :=
  (m.contextPool.acquire (fun id => fill { relaySideConnectionId := id })).map (fun (id,contextPool) =>
    (id,⟨contextPool⟩))

def setDeviceSideConnectionId (m : RelayConnectionManager keys) (id deviceSideConnectionId : Nat) :
    RelayConnectionManager keys :=
  ⟨m.contextPool.modify id (fun rc => { rc with deviceSlot := deviceSideConnectionId })⟩

end RelayConnectionManager

end MiniPP.Relay
