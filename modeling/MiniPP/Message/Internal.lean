import MiniPP.Message.Members

/-! The messages between the servers themselves, and the answer of the backend to a login. -/
namespace MiniPP.PP

open Message

/-- `xPP_DeviceInfoUpdate`. The continent is not among the members that are sent. -/
structure DeviceInfoUpdate where
  deviceUuid : Bytes
  version : Nat
  relayServerRuntimeId : Nat
  relaySideDeviceKey : Nat
  primaryIpv4Address : NetAddress
  primaryIpv6Address : NetAddress
  continentId : Nat
  countryId : Nat
  stateId : Nat
  cityId : Nat
  isOffline : Bool
  supportUdpChannel : Bool
  supportDnsRequests : Bool
  speedLimitEnabled : Bool
  deriving DecidableEq, Repr

def DeviceInfoUpdate.serializeMembers (m : DeviceInfoUpdate) : List Field :=
  [.string m.deviceUuid,.u32 m.version,.u64 m.relayServerRuntimeId,.u64 m.relaySideDeviceKey,
    .address m.primaryIpv4Address,.address m.primaryIpv6Address,
    .u32 m.countryId,.u32 m.stateId,.u32 m.cityId,
    .bool m.isOffline,.bool m.supportUdpChannel,.bool m.supportDnsRequests,.bool m.speedLimitEnabled]

def DeviceInfoUpdate.deserializeMembers (x : MessageFormat) (prior : DeviceInfoUpdate) :
    Reads DeviceInfoUpdate := do
  return { prior with
    deviceUuid := ← x.read .string, version := ← x.read .u32
    relayServerRuntimeId := ← x.read .u64, relaySideDeviceKey := ← x.read .u64
    primaryIpv4Address := ← x.read .address, primaryIpv6Address := ← x.read .address
    countryId := ← x.read .u32, stateId := ← x.read .u32, cityId := ← x.read .u32
    isOffline := ← x.read .bool, supportUdpChannel := ← x.read .bool
    supportDnsRequests := ← x.read .bool, speedLimitEnabled := ← x.read .bool }

/-- `xPP_AcquireDevice`. -/
structure AcquireDevice where
  countryId : Nat
  stateId : Nat
  cityId : Nat
  requireIpv6 : Bool
  requireUdp : Bool
  requireRemoteDns : Bool
  deriving DecidableEq, Repr

def AcquireDevice.serializeMembers (m : AcquireDevice) : List Field :=
  [.u32 m.countryId,.u32 m.stateId,.u32 m.cityId,.bool m.requireIpv6,.bool m.requireUdp,
    .bool m.requireRemoteDns]

def AcquireDevice.deserializeMembers (x : MessageFormat) : Reads AcquireDevice := do
  return { countryId := ← x.read .u32, stateId := ← x.read .u32, cityId := ← x.read .u32
           requireIpv6 := ← x.read .bool, requireUdp := ← x.read .bool
           requireRemoteDns := ← x.read .bool }

def AcquireDeviceResp.serializeMembers (m : AcquireDeviceResp) : List Field :=
  [.u64 m.deviceRelayServerRuntimeId,.u64 m.deviceRelaySideId]

def AcquireDeviceResp.deserializeMembers (x : MessageFormat) : Reads AcquireDeviceResp := do
  return { deviceRelayServerRuntimeId := ← x.read .u64, deviceRelaySideId := ← x.read .u64 }

/-- `xQueryAuthCache`. -/
structure QueryAuthCache where
  userPass : Bytes
  deriving DecidableEq, Repr

def QueryAuthCache.serializeMembers (m : QueryAuthCache) : List Field := [.view m.userPass]

def QueryAuthCache.deserializeMembers (x : MessageFormat) : Reads QueryAuthCache := do
  return { userPass := ← x.read .view }

/-- `xQueryAuthCacheResp` with all its members. -/
structure QueryAuthCacheResp extends MiniPP.QueryAuthCacheResp where
  auditId : Nat
  paToken : Bytes
  deriving DecidableEq, Repr

def QueryAuthCacheResp.serializeMembers (m : QueryAuthCacheResp) : List Field :=
  [.u64 m.auditId,.u32 m.countryId,.u32 m.stateId,.u32 m.cityId,.bool m.isBlocked,
    .bool m.requireIpv6,.bool m.requireUdp,.bool m.requireRemoteDns,.bool m.autoChangeIp,
    .view m.paToken]

def QueryAuthCacheResp.deserializeMembers (x : MessageFormat) : Reads QueryAuthCacheResp := do
  let auditId ← x.read .u64
  let answer : MiniPP.QueryAuthCacheResp :=
    { countryId := ← x.read .u32, stateId := ← x.read .u32, cityId := ← x.read .u32
      isBlocked := ← x.read .bool, requireIpv6 := ← x.read .bool, requireUdp := ← x.read .bool
      requireRemoteDns := ← x.read .bool, autoChangeIp := ← x.read .bool }
  return { answer with auditId, paToken := ← x.read .view }

/-- `xPP_AcquireServerId`. -/
structure AcquireServerId where
  previousServerId : Nat
  deriving DecidableEq, Repr

def AcquireServerId.serializeMembers (m : AcquireServerId) : List Field := [.u64 m.previousServerId]

def AcquireServerId.deserializeMembers (x : MessageFormat) : Reads AcquireServerId := do
  return { previousServerId := ← x.read .u64 }

/-- `xPP_AcquireServerIdResp`. -/
structure AcquireServerIdResp where
  previousServerId : Nat
  newServerId : Nat
  deriving DecidableEq, Repr

def AcquireServerIdResp.serializeMembers (m : AcquireServerIdResp) : List Field :=
  [.u64 m.previousServerId,.u64 m.newServerId]

def AcquireServerIdResp.deserializeMembers (x : MessageFormat) : Reads AcquireServerIdResp := do
  return { previousServerId := ← x.read .u64, newServerId := ← x.read .u64 }

/-- What a server of any of the three kinds registers with. -/
structure RegisterServer where
  serverId : Nat
  exportServerAddress : NetAddress
  deriving DecidableEq, Repr

abbrev RegisterAuthCacheServer := RegisterServer
abbrev RegisterAuditDeviceServer := RegisterServer
abbrev RegisterAuditAccountServer := RegisterServer

def RegisterServer.serializeMembers (m : RegisterServer) : List Field :=
  [.u64 m.serverId,.address m.exportServerAddress]

def RegisterServer.deserializeMembers (x : MessageFormat) : Reads RegisterServer := do
  return { serverId := ← x.read .u64, exportServerAddress := ← x.read .address }

/-- `xPP_RegisterServerResponse`. -/
structure RegisterServerResponse where
  accepted : Bool
  deriving DecidableEq, Repr

def RegisterServerResponse.serializeMembers (m : RegisterServerResponse) : List Field := [.bool m.accepted]

def RegisterServerResponse.deserializeMembers (x : MessageFormat) : Reads RegisterServerResponse := do
  return { accepted := ← x.read .bool }

/-- `xPPB_BackendAuthByUserPassResp`. -/
structure BackendAuthByUserPassResp where
  errorCode : Nat
  auditId : Nat
  continentId : Nat
  countryId : Nat
  stateId : Nat
  cityId : Nat
  duration : Nat
  random : Nat
  autoChangeIpOnDeviceOffline : Bool
  enableUdp : Bool
  ipv6Prefered : Bool
  poolFlags : Bytes
  serverToken : Bytes
  redirect : Bytes
  auditIdForThirdPartyResource : Nat
  deriving DecidableEq, Repr

def BackendAuthByUserPassResp.serializeMembers (m : BackendAuthByUserPassResp) : List Field :=
  .u32 m.errorCode :: if m.errorCode = 0 then
    [.u64 m.auditId,.u32 m.continentId,.u32 m.countryId,.u32 m.stateId,.u32 m.cityId,.u32 m.duration,
      .u32 m.random,.bool m.autoChangeIpOnDeviceOffline,.bool m.enableUdp,.bool m.ipv6Prefered,
      .string m.poolFlags,.string m.serverToken,.string m.redirect,.u32 m.auditIdForThirdPartyResource]
  else []

def BackendAuthByUserPassResp.deserializeMembers (x : MessageFormat) (prior : BackendAuthByUserPassResp) :
    Reads BackendAuthByUserPassResp := do
  let errorCode ← x.read .u32
  if errorCode = 0 then
    return { errorCode, auditId := ← x.read .u64, continentId := ← x.read .u32
             countryId := ← x.read .u32, stateId := ← x.read .u32, cityId := ← x.read .u32
             duration := ← x.read .u32, random := ← x.read .u32
             autoChangeIpOnDeviceOffline := ← x.read .bool, enableUdp := ← x.read .bool
             ipv6Prefered := ← x.read .bool, poolFlags := ← x.read .string
             serverToken := ← x.read .string, redirect := ← x.read .string
             auditIdForThirdPartyResource := ← x.read .u32 }
  else return { prior with errorCode }

end MiniPP.PP
