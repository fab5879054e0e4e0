import MiniPP.Message.Members

/-! The reports to the backend, and the answer with the list of the audit servers. -/
namespace MiniPP.Message

/-! ## A device -/

/-- `xAD_BK_DeviceInfo`. -/
structure DeviceInfo where
  version : Nat
  channelId : Nat
  deviceUuid : Bytes
  relayServerRuntimeId : Nat
  relayServerSideDeviceId : Nat
  primaryIpv4Address : NetAddress
  primaryIpv6Address : NetAddress
  countryId : Nat
  stateId : Nat
  cityId : Nat
  isOffline : Bool
  supportUdpChannel : Bool
  supportDnsRequests : Bool
  speedLimitEnabled : Bool
  totalOnlineTimeMS : Nat
  totalNewConnectionsSinceLastPost : Nat
  totalClosedConnectionSinceLastPost : Nat
  totalNewUdpChannelSinceLastPost : Nat
  totalClosedUdpChannelSinceLastPost : Nat
  totalDnsRequestSinceLastPost : Nat
  totalUploadSizeSinceOnline : Nat
  totalDownloadSizeSinceOnline : Nat
  currentConnectionCount : Nat
  currentUdpChannelCount : Nat
  maxConnectionCount : Nat
  maxUdpChannelCount : Nat
  deriving DecidableEq, Repr

structure ReportDeviceInfoSingle where
  localAuditTimestampMS : Nat
  deviceInfo : DeviceInfo
  deriving DecidableEq, Repr

def ReportDeviceInfoSingle.serializeMembers (m : ReportDeviceInfoSingle) : List Field :=
  let d := m.deviceInfo
  [.u64 m.localAuditTimestampMS,
    .u32 d.version,.u32 d.channelId,.string d.deviceUuid,
    .u64 d.relayServerRuntimeId,.u64 d.relayServerSideDeviceId,.address d.primaryIpv4Address,
    .address d.primaryIpv6Address,
    .u32 d.countryId,.u32 d.stateId,.u32 d.cityId,
    .bool d.isOffline,.bool d.supportUdpChannel,.bool d.supportDnsRequests,.bool d.speedLimitEnabled,
    .u64 d.totalOnlineTimeMS,.u32 d.totalNewConnectionsSinceLastPost,
    .u32 d.totalClosedConnectionSinceLastPost,.u32 d.totalNewUdpChannelSinceLastPost,
    .u32 d.totalClosedUdpChannelSinceLastPost,.u32 d.totalDnsRequestSinceLastPost,
    .u64 d.totalUploadSizeSinceOnline,.u64 d.totalDownloadSizeSinceOnline,
    .u32 d.currentConnectionCount,.u32 d.currentUdpChannelCount,
    .u32 d.maxConnectionCount,.u32 d.maxUdpChannelCount]

def ReportDeviceInfoSingle.deserializeMembers (x : MessageFormat) : Reads ReportDeviceInfoSingle := do
  let localAuditTimestampMS ← x.read .u64
  let deviceInfo : DeviceInfo :=
    { version := ← x.read .u32, channelId := ← x.read .u32, deviceUuid := ← x.read .string
      relayServerRuntimeId := ← x.read .u64, relayServerSideDeviceId := ← x.read .u64
      primaryIpv4Address := ← x.read .address, primaryIpv6Address := ← x.read .address
      countryId := ← x.read .u32, stateId := ← x.read .u32, cityId := ← x.read .u32
      isOffline := ← x.read .bool, supportUdpChannel := ← x.read .bool
      supportDnsRequests := ← x.read .bool, speedLimitEnabled := ← x.read .bool
      totalOnlineTimeMS := ← x.read .u64, totalNewConnectionsSinceLastPost := ← x.read .u32
      totalClosedConnectionSinceLastPost := ← x.read .u32
      totalNewUdpChannelSinceLastPost := ← x.read .u32
      totalClosedUdpChannelSinceLastPost := ← x.read .u32
      totalDnsRequestSinceLastPost := ← x.read .u32
      totalUploadSizeSinceOnline := ← x.read .u64, totalDownloadSizeSinceOnline := ← x.read .u64
      currentConnectionCount := ← x.read .u32, currentUdpChannelCount := ← x.read .u32
      maxConnectionCount := ← x.read .u32, maxUdpChannelCount := ← x.read .u32 }
  return { localAuditTimestampMS, deviceInfo }

/-! ## Relays -/

/-- `xAD_BK_DeivceRelayServerInfo`. -/
structure DeviceRelayServerInfo where
  serverUuid : Bytes
  serverRuntimeId : Nat
  serverRouteId : Nat
  exportCtrlAddress : NetAddress
  exportDataAddress : NetAddress
  exportPAAddress : NetAddress
  latestDeviceCount : Nat
  newOnlineDeviceSinceLastPost : Nat
  newOfflineDeviceSinceLastPost : Nat
  uploadToDeviceSinceLastPost : Nat
  downloadFromDeviceSinceLastReport : Nat
  deriving DecidableEq, Repr

def DeviceRelayServerInfo.members (s : DeviceRelayServerInfo) : List Field :=
  [.string s.serverUuid,.u64 s.serverRuntimeId,.u16 s.serverRouteId,.address s.exportCtrlAddress,
    .address s.exportDataAddress,.address s.exportPAAddress,
    .u32 s.latestDeviceCount,.u32 s.newOnlineDeviceSinceLastPost,.u32 s.newOfflineDeviceSinceLastPost,
    .u64 s.uploadToDeviceSinceLastPost,.u64 s.downloadFromDeviceSinceLastReport]

def DeviceRelayServerInfo.reads (x : MessageFormat) : Reads DeviceRelayServerInfo := do
  return { serverUuid := ← x.read .string, serverRuntimeId := ← x.read .u64
           serverRouteId := ← x.read .u16, exportCtrlAddress := ← x.read .address
           exportDataAddress := ← x.read .address, exportPAAddress := ← x.read .address
           latestDeviceCount := ← x.read .u32, newOnlineDeviceSinceLastPost := ← x.read .u32
           newOfflineDeviceSinceLastPost := ← x.read .u32
           uploadToDeviceSinceLastPost := ← x.read .u64
           downloadFromDeviceSinceLastReport := ← x.read .u64 }

/-- `xAD_BK_ReportDeviceRelayServerInfoList`. -/
structure ReportDeviceRelayServerInfoList where
  serverInfoList : List DeviceRelayServerInfo
  deriving DecidableEq, Repr

def ReportDeviceRelayServerInfoList.maxServerInfoCountPerReport : Nat := 25

/-- `none` is a failed assertion. The number of servers is not written. -/
def ReportDeviceRelayServerInfoList.serializeMembers (m : ReportDeviceRelayServerInfoList) :
    Option (List Field) :=
  if m.serverInfoList.length < maxServerInfoCountPerReport then
    some (m.serverInfoList.flatMap DeviceRelayServerInfo.members)
  else none

/-- The number of servers is read, of 16 bits. -/
def ReportDeviceRelayServerInfoList.deserializeMembers (x : MessageFormat) :
    Reads ReportDeviceRelayServerInfoList := do
  let count ← x.read .u16
  if count > maxServerInfoCountPerReport then failure
  else return { serverInfoList := ← Format.times (DeviceRelayServerInfo.reads x) count }

/-! ## Usage -/

/-- `xAD_BK_UsageByAuditId`. -/
structure UsageByAuditId where
  auditId : Nat
  totalSelectDeviceCountSinceLastPost : Nat
  totalTcpConnectionSinceLastPost : Nat
  totalUdpChannelSinceLastPost : Nat
  totalUploadSizeSinceLastPost : Nat
  totalDownloadSizeSinceLastPost : Nat
  deriving DecidableEq, Repr

def UsageByAuditId.members (u : UsageByAuditId) : List Field :=
  [.u64 u.auditId,.u32 u.totalSelectDeviceCountSinceLastPost,.u32 u.totalTcpConnectionSinceLastPost,
    .u32 u.totalUdpChannelSinceLastPost,.u64 u.totalUploadSizeSinceLastPost,
    .u64 u.totalDownloadSizeSinceLastPost]

def UsageByAuditId.reads (x : MessageFormat) : Reads UsageByAuditId := do
  return { auditId := ← x.read .u64, totalSelectDeviceCountSinceLastPost := ← x.read .u32
           totalTcpConnectionSinceLastPost := ← x.read .u32
           totalUdpChannelSinceLastPost := ← x.read .u32
           totalUploadSizeSinceLastPost := ← x.read .u64
           totalDownloadSizeSinceLastPost := ← x.read .u64 }

/-- `xThirdAccountUsage`. -/
structure ThirdAccountUsage where
  thirdAccountSourceName : Bytes
  totalTcpConnectionSinceLastPost : Nat
  totalUdpChannelSinceLastPost : Nat
  totalUploadSizeSinceLastPost : Nat
  totalDownloadSizeSinceLastPost : Nat
  deriving DecidableEq, Repr

def ThirdAccountUsage.members (u : ThirdAccountUsage) : List Field :=
  [.string u.thirdAccountSourceName,.u64 u.totalTcpConnectionSinceLastPost,
    .u32 u.totalUdpChannelSinceLastPost,.u64 u.totalUploadSizeSinceLastPost,
    .u64 u.totalDownloadSizeSinceLastPost]

def ThirdAccountUsage.reads (x : MessageFormat) : Reads ThirdAccountUsage := do
  return { thirdAccountSourceName := ← x.read .string, totalTcpConnectionSinceLastPost := ← x.read .u64
           totalUdpChannelSinceLastPost := ← x.read .u32
           totalUploadSizeSinceLastPost := ← x.read .u64
           totalDownloadSizeSinceLastPost := ← x.read .u64 }

/-- What both reports of usage are: a time, and a counted list. -/
structure UsageReport (α : Type) where
  localTimestampMS : Nat
  list : List α
  deriving DecidableEq, Repr

def UsageReport.serializeMembers {α : Type} (maxCount : Nat) (members : α → List Field) (m : UsageReport α) :
    Option (List Field) :=
  if m.list.length < maxCount then
    some (.u64 m.localTimestampMS :: .u32 m.list.length :: m.list.flatMap members)
  else none

def UsageReport.deserializeMembers {α : Type} (x : MessageFormat) (maxCount : Nat) (reads : Reads α) :
    Reads (UsageReport α) := do
  let localTimestampMS ← x.read .u64
  let count ← x.read .u32
  if count > maxCount then failure
  else return { localTimestampMS, list := ← Format.times reads count }

abbrev ReportUsageByAuditList := UsageReport UsageByAuditId

namespace ReportUsageByAuditList

def maxUsageInfoCountPerReport : Nat := 50

def serializeMembers := UsageReport.serializeMembers maxUsageInfoCountPerReport UsageByAuditId.members

def deserializeMembers (x : MessageFormat) :=
  UsageReport.deserializeMembers x maxUsageInfoCountPerReport (UsageByAuditId.reads x)

end ReportUsageByAuditList

abbrev ReportUsageByThirdAccountList := UsageReport ThirdAccountUsage

namespace ReportUsageByThirdAccountList

def maxUsageInfoCountPerReport : Nat := 20

def serializeMembers := UsageReport.serializeMembers maxUsageInfoCountPerReport ThirdAccountUsage.members

def deserializeMembers (x : MessageFormat) :=
  UsageReport.deserializeMembers x maxUsageInfoCountPerReport (ThirdAccountUsage.reads x)

end ReportUsageByThirdAccountList

/-! ## Audit servers -/

structure AuditServer where
  beginAuditId : Nat
  endAuditId : Nat
  serverBindAddress : NetAddress
  deriving DecidableEq, Repr

/-- `xQueryAuditServerListResp`. -/
structure QueryAuditServerListResp where
  version : Nat
  totalServers : Nat
  firstServerIndex : Nat
  lastServerIndex : Nat
  servers : List AuditServer
  deriving DecidableEq, Repr

/-- The servers are not written. -/
def QueryAuditServerListResp.serializeMembers (m : QueryAuditServerListResp) : List Field :=
  [.u32 m.version,.u32 m.totalServers,.u32 m.firstServerIndex,.u32 m.lastServerIndex]

/-- The loop behind the members goes over the servers of the object, and there are none. -/
def QueryAuditServerListResp.deserializeMembers (x : MessageFormat) : Reads QueryAuditServerListResp := do
  return { version := ← x.read .u32, totalServers := ← x.read .u32
           firstServerIndex := ← x.read .u32, lastServerIndex := ← x.read .u32, servers := [] }

/-! ## All of them -/

inductive ReportClass where
  | deviceInfoSingle
  | deviceRelayServerInfoList
  | usageByAuditList
  | usageByThirdAccountList
  | queryAuditServerListResp
  deriving DecidableEq, Repr

namespace ReportClass

abbrev Object : ReportClass → Type
  | deviceInfoSingle => ReportDeviceInfoSingle
  | deviceRelayServerInfoList => ReportDeviceRelayServerInfoList
  | usageByAuditList => ReportUsageByAuditList
  | usageByThirdAccountList => ReportUsageByThirdAccountList
  | queryAuditServerListResp => QueryAuditServerListResp

def serializeMembers : (k : ReportClass) → k.Object → Option (List Field)
  | deviceInfoSingle, m => some (ReportDeviceInfoSingle.serializeMembers m)
  | deviceRelayServerInfoList, m => ReportDeviceRelayServerInfoList.serializeMembers m
  | usageByAuditList, m => ReportUsageByAuditList.serializeMembers m
  | usageByThirdAccountList, m => ReportUsageByThirdAccountList.serializeMembers m
  | queryAuditServerListResp, m => some (QueryAuditServerListResp.serializeMembers m)

/-- Into a new object. -/
def deserializeMembers (x : MessageFormat) : (k : ReportClass) → Reads k.Object
  | deviceInfoSingle => ReportDeviceInfoSingle.deserializeMembers x
  | deviceRelayServerInfoList => ReportDeviceRelayServerInfoList.deserializeMembers x
  | usageByAuditList => ReportUsageByAuditList.deserializeMembers x
  | usageByThirdAccountList => ReportUsageByThirdAccountList.deserializeMembers x
  | queryAuditServerListResp => QueryAuditServerListResp.deserializeMembers x

end ReportClass

/-! ## What is read back -/

section Delivered

variable (x : MessageFormat)

theorem UsageReport.delivers {α : Type} {maxCount : Nat} {members : α → List Field} {reads : Reads α}
    (each : ∀ a, x.Delivers reads (members a) a) {m : UsageReport α} {ms : List Field}
    (serialized : m.serializeMembers maxCount members = some ms) :
    x.Delivers (UsageReport.deserializeMembers x maxCount reads) ms m := by
  unfold serializeMembers at serialized
  split at serialized
  · rename_i bounded
    obtain rfl := Option.some.inj serialized
    have admitted : ¬ m.list.length > maxCount := by omega
    apply Format.Delivers.next
    apply Format.Delivers.next
    rw [if_neg admitted,← List.append_nil (m.list.flatMap members)]
    exact (Format.Delivers.times each m.list).bind (.pure m)
  · cases serialized

theorem UsageByAuditId.delivers (u : UsageByAuditId) : x.Delivers (UsageByAuditId.reads x) u.members u := by
  repeat apply Format.Delivers.next
  exact .pure u

theorem ThirdAccountUsage.delivers (u : ThirdAccountUsage) :
    x.Delivers (ThirdAccountUsage.reads x) u.members u := by
  repeat apply Format.Delivers.next
  exact .pure u

theorem ReportDeviceInfoSingle.delivers (m : ReportDeviceInfoSingle) :
    x.Delivers (ReportDeviceInfoSingle.deserializeMembers x) m.serializeMembers m := by
  repeat apply Format.Delivers.next
  exact .pure m

/-- Whatever servers the answer has, none are read back. -/
theorem QueryAuditServerListResp.delivers (m : QueryAuditServerListResp) :
    x.Delivers (QueryAuditServerListResp.deserializeMembers x) m.serializeMembers { m with servers := [] } := by
  repeat apply Format.Delivers.next
  exact .pure _

end Delivered

/-! ## What is missing -/

section Missing

variable (x : SizedFormat)

theorem DeviceRelayServerInfo.takes :
    Format.Takes (DeviceRelayServerInfo.reads x.toMessageFormat)
      (fun s n => n = (x.serialize s.members).length) := by
  repeat (apply Format.Takes.next (x.exact _); intro _)
  apply Format.Takes.pure
  simp [members,Format.write]

/-- The decoder takes two bytes more than the encoder writes. -/
theorem ReportDeviceRelayServerInfoList.takes :
    Format.Takes (ReportDeviceRelayServerInfoList.deserializeMembers x.toMessageFormat) (fun m n =>
      n = 2 + (x.serialize (m.serverInfoList.flatMap DeviceRelayServerInfo.members)).length) := by
  apply Format.Takes.next (x.exact .u16)
  intro count
  split
  · exact .failure
  · apply Format.Takes.bind (Format.Takes.times (DeviceRelayServerInfo.takes x) count)
    rintro list n ⟨-,rfl⟩
    apply Format.Takes.pure
    rw [x.u16_size count,Format.serialize,List.flatMap_assoc,List.length_flatMap]
    rfl

theorem ReportDeviceRelayServerInfoList.not_restored (m : ReportDeviceRelayServerInfoList) {ms : List Field}
    (serialized : m.serializeMembers = some ms) :
    (deserializeMembers x.toMessageFormat).run (x.serialize ms) ≠ some (m,[]) := by
  intro restored
  obtain ⟨n,length,taken⟩ := takes x _ m [] restored
  unfold serializeMembers at serialized
  split at serialized
  · obtain rfl := Option.some.inj serialized
    rw [List.length_nil] at length
    omega
  · cases serialized

end Missing

/-! ## Which messages come back -/

/-- No list of relays, and of the answers with audit servers only those without any. -/
def Restorable : (k : ReportClass) → k.Object → Prop
  | .deviceRelayServerInfoList, _ => False
  | .queryAuditServerListResp, m => m.servers = []
  | _, _ => True

/-- What is sent of a message in a packet is read back as the message, to the last byte, just if
the encoder and the decoder agree about its list. -/
theorem reports_round_trip (x : SizedFormat) (k : ReportClass) (m : k.Object) {ms : List Field}
    (serialized : k.serializeMembers m = some ms) (inRange : MessageFormat.InRange ms) {data : Bytes}
    (sent : x.packet ms = some data) :
    (k.deserializeMembers x.toMessageFormat).run data = some (m,[]) ↔ Restorable k m := by
  cases k with
  | deviceInfoSingle =>
    obtain rfl := Option.some.inj serialized
    exact iff_of_true (x.delivered (ReportDeviceInfoSingle.delivers _ m) inRange sent) trivial
  | deviceRelayServerInfoList =>
    obtain ⟨rfl,-⟩ := x.packet_eq_some.mp sent
    exact iff_of_false (ReportDeviceRelayServerInfoList.not_restored x m serialized) id
  | usageByAuditList =>
    refine iff_of_true (x.delivered ?_ inRange sent) trivial
    exact UsageReport.delivers _ (UsageByAuditId.delivers _) serialized
  | usageByThirdAccountList =>
    refine iff_of_true (x.delivered ?_ inRange sent) trivial
    exact UsageReport.delivers _ (ThirdAccountUsage.delivers _) serialized
  | queryAuditServerListResp =>
    obtain rfl := Option.some.inj serialized
    have restored := x.delivered (QueryAuditServerListResp.delivers _ m) inRange sent
    constructor
    · intro same
      have servers := congrArg QueryAuditServerListResp.servers
        (Prod.mk.inj (Option.some.inj (restored.symm.trans same))).1
      exact servers.symm
    · intro empty
      have same : ({ m with servers := [] } : QueryAuditServerListResp) = m := by
        rw [← show m.servers = [] from empty]
      rw [same] at restored
      exact restored

/-- The usage of the account "a". -/
theorem reports_round_trip_usage :
    (ReportClass.usageByThirdAccountList.deserializeMembers .reference).run
      [0,0,0,0,0,0,0,9,0,0,0,1,0,0,0,1,97,0,0,0,0,0,0,0,2,0,0,0,3,0,0,0,0,0,0,0,4,0,0,0,0,0,0,0,5] =
        some (⟨9,[⟨[97],2,3,4,5⟩]⟩,[]) := by
  let m : ReportUsageByThirdAccountList := ⟨9,[⟨[97],2,3,4,5⟩]⟩
  have inRange : MessageFormat.InRange
      [.u64 9,.u32 1,.string [97],.u64 2,.u32 3,.u64 4,.u64 5] := by
    simp [MessageFormat.InRange,Primitive.InRange]
  exact (reports_round_trip .reference .usageByThirdAccountList m rfl inRange (by decide)).mpr trivial

/-- A report without a single relay is nothing at all, and the number of relays is not found. -/
theorem relay_report_lost :
    ¬ ∀ (x : SizedFormat) (k : ReportClass) (m : k.Object) (ms : List Field),
      k.serializeMembers m = some ms → MessageFormat.InRange ms → ∀ data, x.packet ms = some data →
        (k.deserializeMembers x.toMessageFormat).run data = some (m,[]) := by
  intro always
  have restored := always .reference .deviceRelayServerInfoList ⟨[]⟩ [] rfl (by simp [MessageFormat.InRange])
    [] (by decide)
  cases restored

end MiniPP.Message
