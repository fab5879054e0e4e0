import MiniPP.Lib.Machine
import MiniPP.Xel
import Mathlib.Logic.Function.Basic

/-! The devices that can be selected: a map by device id, a list in order of their last report,
and for each country, state and city a list that selections rotate. A device has one node for
each of the four kinds of list, and leaves its lists when it is deleted. -/
namespace MiniPP.Selector

def deviceKeepAliveTimeoutMS : Nat := 180000

def deviceInfoResistCounter : Nat := 2

/-- What the region lists are made by. -/
inductive Region where
  | country | state | city
  deriving DecidableEq, Repr

structure DeviceInfoBase where
  releayServerRuntimeId : Nat
  relaySideDeviceId : Nat
  deviceId : Bytes
  countryId : Nat
  stateId : Nat
  cityId : Nat
  deriving DecidableEq, Repr

def DeviceInfoBase.regionId (info : DeviceInfoBase) : Region → Nat
  | .country => info.countryId
  | .state => info.stateId
  | .city => info.cityId

/-- Where the device is: its relay server and its id there. -/
def DeviceInfoBase.place (info : DeviceInfoBase) : Nat × Nat :=
  (info.releayServerRuntimeId,info.relaySideDeviceId)

structure DeviceContext where
  infoBase : DeviceInfoBase
  timestampMS : Nat := 0
  resisterCounter : Nat := deviceInfoResistCounter
  deriving DecidableEq, Repr

/-- The nodes in the lists are named by the ids of their devices. -/
structure DeviceContextManager where
  ticker : Nat := 0
  timeoutDeviceList : List Bytes := []
  deviceLists : Region → Nat → List Bytes := fun _ _ => []
  deviceMap : Bytes → Option DeviceContext := fun _ => none

inductive DeviceAction where
  | updated (info : DeviceInfoBase) (timestampMS : Nat)
  | removed (deviceId : Bytes)
  | selected (region : Region) (id : Nat) (device : Option DeviceInfoBase)
  deriving DecidableEq, Repr

namespace DeviceContextManager

def setDevice (m : DeviceContextManager) (deviceId : Bytes) (d : DeviceContext) : DeviceContextManager :=
  { m with deviceMap := Function.update m.deviceMap deviceId (some d) }

/-- The device reported now, and goes to the tail of the timeout list. -/
def keepAlive (m : DeviceContextManager) (deviceId : Bytes) (d : DeviceContext) : DeviceContextManager :=
  { m.setDevice deviceId { d with timestampMS := m.ticker } with
      timeoutDeviceList := m.timeoutDeviceList.erase deviceId ++ [deviceId] }

theorem deviceMap_keepAlive (m : DeviceContextManager) (deviceId : Bytes) (d : DeviceContext) (other : Bytes) :
    (m.keepAlive deviceId d).deviceMap other =
      if other = deviceId then some { d with timestampMS := m.ticker } else m.deviceMap other := by
  simp [keepAlive,setDevice,Function.update_apply]

/-- What holds of the new record, and of the records of the other devices. -/
theorem forall_keepAlive {m : DeviceContextManager} {deviceId : Bytes} {d : DeviceContext}
    {p : Bytes → DeviceContext → Prop} (new : p deviceId { d with timestampMS := m.ticker })
    (old : ∀ other e, other ≠ deviceId → m.deviceMap other = some e → p other e) (other : Bytes)
    (e : DeviceContext) (here : (m.keepAlive deviceId d).deviceMap other = some e) : p other e := by
  rw [deviceMap_keepAlive] at here
  split at here
  · rename_i same
    subst same
    obtain rfl := Option.some.inj here
    exact new
  · rename_i apart
    exact old other e apart here

@[simp] theorem deviceLists_keepAlive (m : DeviceContextManager) (deviceId : Bytes) (d : DeviceContext) :
    (m.keepAlive deviceId d).deviceLists = m.deviceLists := rfl

/-- What a report does to a device that is known. -/
def refresh (d : DeviceContext) (info : DeviceInfoBase) : DeviceContext :=
  if info.releayServerRuntimeId ≠ d.infoBase.releayServerRuntimeId ∨
      info.relaySideDeviceId ≠ d.infoBase.relaySideDeviceId then
    if sub64 d.resisterCounter 1 = 0 then
      { d with infoBase := info, resisterCounter := deviceInfoResistCounter }
    else { d with resisterCounter := sub64 d.resisterCounter 1 }
  else { d with resisterCounter := deviceInfoResistCounter }

/-- `AddTail` to the three lists that the new device belongs to. -/
def link (m : DeviceContextManager) (info : DeviceInfoBase) : DeviceContextManager :=
  { m with deviceLists := fun region id =>
      if id = info.regionId region then m.deviceLists region id ++ [info.deviceId]
      else m.deviceLists region id }

def updateDevice (m : DeviceContextManager) (info : DeviceInfoBase) : DeviceContextManager :=
  match m.deviceMap info.deviceId with
  | some d => m.keepAlive info.deviceId (refresh d info)
  | none => (m.link info).keepAlive info.deviceId { infoBase := info }

def removeDeviceById (m : DeviceContextManager) (deviceId : Bytes) :
    DeviceContextManager × List DeviceAction :=
  match m.deviceMap deviceId with
  | none => (m,[])
  | some _ =>
    ({ m with
        timeoutDeviceList := m.timeoutDeviceList.erase deviceId
        deviceLists := fun region id => (m.deviceLists region id).erase deviceId
        deviceMap := Function.update m.deviceMap deviceId none },[.removed deviceId])

/-- `RemoveDevice`, of the device that the node is named by. -/
def removeDevice (m : DeviceContextManager) (deviceId : Bytes) :
    DeviceContextManager × List DeviceAction :=
  match m.deviceMap deviceId with
  | none => (m,[])
  | some d => m.removeDeviceById d.infoBase.deviceId

def removeDevices (m : DeviceContextManager) : List Bytes → DeviceContextManager × List DeviceAction
  | [] => (m,[])
  | deviceId :: rest =>
    let first := m.removeDevice deviceId
    let others := removeDevices first.1 rest
    (others.1,first.2 ++ others.2)

/-- No report since `limit`. -/
def timedOut (m : DeviceContextManager) (limit : Nat) (deviceId : Bytes) : Bool :=
  (m.deviceMap deviceId).any (fun d => d.timestampMS ≤ limit)

/-- The heads of the list that have timed out are popped and removed. -/
def tick (m : DeviceContextManager) (nowMS : Nat) : DeviceContextManager × List DeviceAction :=
  let limit := sub64 nowMS deviceKeepAliveTimeoutMS
  let popped := m.timeoutDeviceList.takeWhile (m.timedOut limit)
  let m := { m with
    ticker := nowMS
    timeoutDeviceList := m.timeoutDeviceList.dropWhile (m.timedOut limit) }
  m.removeDevices popped

/-- What the three selections share. The head goes to the tail. -/
def selectDevice (region : Region) (m : DeviceContextManager) (id : Nat) :
    DeviceContextManager × Option DeviceContext :=
  match m.deviceLists region id with
  | [] => (m,none)
  | deviceId :: rest =>
    ({ m with deviceLists := fun region' id' =>
        if region' = region ∧ id' = id then rest ++ [deviceId] else m.deviceLists region' id' },
      m.deviceMap deviceId)

def selectDeviceByCountryId := selectDevice .country
def selectDeviceByStateId := selectDevice .state
def selectDeviceByCityId := selectDevice .city

/-- The choice in `OnSelectDevice`. -/
def onSelectDevice (m : DeviceContextManager) (countryId stateId cityId : Nat) :
    DeviceContextManager × Option DeviceContext :=
  if cityId ≠ 0 then m.selectDeviceByCityId cityId
  else if stateId ≠ 0 then m.selectDeviceByStateId stateId
  else if countryId ≠ 0 then m.selectDeviceByCountryId countryId
  else (m,none)

end DeviceContextManager

/-! ## Reports -/

/-- The fields of `xPP_DeviceInfoUpdate` that are looked at. -/
structure DeviceInfoUpdate where
  deviceUuid : Bytes
  relayServerRuntimeId : Nat
  relaySideDeviceKey : Nat
  countryId : Nat
  stateId : Nat
  cityId : Nat
  isOffline : Bool
  deriving DecidableEq, Repr

/-- `LocalDevInfo`. -/
def DeviceInfoUpdate.localDevInfo (p : DeviceInfoUpdate) : DeviceInfoBase where
  deviceId := p.deviceUuid
  releayServerRuntimeId := p.relayServerRuntimeId
  relaySideDeviceId := p.relaySideDeviceKey
  countryId := p.countryId
  stateId := p.stateId
  cityId := p.cityId

/-- A packet that does not decode is `none`. -/
def DeviceContextManager.onServerPacket (m : DeviceContextManager) :
    Option DeviceInfoUpdate → DeviceContextManager × List DeviceAction
  | none => (m,[])
  | some p =>
    if !p.isOffline then (m.updateDevice p.localDevInfo,[.updated p.localDevInfo m.ticker])
    else m.removeDeviceById p.deviceUuid

inductive DeviceEvent where
  | serverPacket (packet : Option DeviceInfoUpdate)
  | updateDevice (info : DeviceInfoBase)
  | removeDevice (deviceId : Bytes)
  | removeDeviceById (deviceId : Bytes)
  | tick (nowMS : Nat)
  | select (region : Region) (id : Nat)
  deriving DecidableEq, Repr

def DeviceContextManager.step (m : DeviceContextManager) :
    DeviceEvent → DeviceContextManager × List DeviceAction
  | .serverPacket packet => m.onServerPacket packet
  | .updateDevice info => (m.updateDevice info,[.updated info m.ticker])
  | .removeDevice deviceId => m.removeDevice deviceId
  | .removeDeviceById deviceId => m.removeDeviceById deviceId
  | .tick nowMS => m.tick nowMS
  | .select region id =>
    let (m,device) := m.selectDevice region id
    (m,[.selected region id (device.map DeviceContext.infoBase)])

def deviceMachine : Machine DeviceContextManager DeviceEvent DeviceAction where
  start m := ∃ ticker, m = { ticker }
  step := DeviceContextManager.step

end MiniPP.Selector
