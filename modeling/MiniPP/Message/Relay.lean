import MiniPP.Message.Members

/-! The messages on the links of a relay, to its proxy-access servers and to its devices. Each
lists its members twice, as they are written and as they are read. -/
namespace MiniPP

open Message

/-! ## To and from a proxy-access server -/

namespace PR

/-- `xPR_Challenge`. -/
structure Challenge where
  timestamp : Nat
  challengeKey : Bytes
  challengeHash : Bytes
  deriving DecidableEq, Repr

def Challenge.serializeMembers (m : Challenge) : List Field :=
  [.u64 m.timestamp,.string m.challengeKey,.string m.challengeHash]

def Challenge.deserializeMembers (x : MessageFormat) : Reads Challenge := do
  return { timestamp := ← x.read .u64, challengeKey := ← x.read .string
           challengeHash := ← x.read .string }

/-- `xPR_ChallengeResp`. -/
structure ChallengeResp where
  accepted : Bool
  deriving DecidableEq, Repr

def ChallengeResp.serializeMembers (m : ChallengeResp) : List Field := [.bool m.accepted]

def ChallengeResp.deserializeMembers (x : MessageFormat) : Reads ChallengeResp := do
  return { accepted := ← x.read .bool }

def CreateConnection.serializeMembers (m : CreateConnection) : List Field :=
  [.u64 m.relaySideDeviceId,.u64 m.proxySideConnectionId,.address m.targetAddress,.view m.hostname,
    .u16 m.hostnamePort]

def CreateConnection.deserializeMembers (x : MessageFormat) : Reads CreateConnection := do
  return { relaySideDeviceId := ← x.read .u64, proxySideConnectionId := ← x.read .u64
           targetAddress := ← x.read .address, hostname := ← x.read .view
           hostnamePort := ← x.read .u16 }

def DestroyConnection.serializeMembers (m : DestroyConnection) : List Field :=
  [.u64 m.proxySideConnectionId,.u64 m.relaySideConnectionId]

def DestroyConnection.deserializeMembers (x : MessageFormat) : Reads DestroyConnection := do
  return { proxySideConnectionId := ← x.read .u64, relaySideConnectionId := ← x.read .u64 }

def ConnectionStateNotify.serializeMembers (m : ConnectionStateNotify) : List Field :=
  [.u64 m.proxySideConnectionId,.u64 m.relaySideConnectionId,.u32 m.newState,
    .u64 m.totalUploadedBytes,.u64 m.totalDumpedBytes]

def ConnectionStateNotify.deserializeMembers (x : MessageFormat) : Reads ConnectionStateNotify := do
  return { proxySideConnectionId := ← x.read .u64, relaySideConnectionId := ← x.read .u64
           newState := ← x.read .u32, totalUploadedBytes := ← x.read .u64
           totalDumpedBytes := ← x.read .u64 }

def PushData.serializeMembers (m : PushData) : List Field :=
  [.u64 m.proxySideConnectionId,.u64 m.relaySideConnectionId,.view m.payload]

def PushData.deserializeMembers (x : MessageFormat) : Reads PushData := do
  return { proxySideConnectionId := ← x.read .u64, relaySideConnectionId := ← x.read .u64
           payload := ← x.read .view }

/-- The members are those of the codec that the forwarding of data is modelled with. -/
theorem PushData.serialize_eq (x : MessageFormat) (m : PushData) :
    x.serialize m.serializeMembers = x.wire.pushData.write m := by
  simp [serializeMembers,Format.write,x.codec_u64,x.codec_view,Wire.pushData,Codec.record,Codec.pair]

end PR

/-! ## To and from a device -/

namespace TR

def CreateConnection.serializeMembers (m : CreateConnection) : List Field :=
  [.u64 m.relaySideConnectionId,.address m.targetAddress]

def CreateConnection.deserializeMembers (x : MessageFormat) : Reads CreateConnection := do
  return { relaySideConnectionId := ← x.read .u64, targetAddress := ← x.read .address }

def DestroyConnection.serializeMembers (m : DestroyConnection) : List Field :=
  [.u32 m.deviceSideConnectionId,.u64 m.relaySideConnectionId]

def DestroyConnection.deserializeMembers (x : MessageFormat) : Reads DestroyConnection := do
  return { deviceSideConnectionId := ← x.read .u32, relaySideConnectionId := ← x.read .u64 }

def ConnectionStateNotify.serializeMembers (m : ConnectionStateNotify) : List Field :=
  [.u32 m.deviceSideConnectionId,.u64 m.relaySideConnectionId,.u32 m.newState,.u64 m.totalReadBytes,
    .u64 m.totalWrittenBytes]

def ConnectionStateNotify.deserializeMembers (x : MessageFormat) : Reads ConnectionStateNotify := do
  return { deviceSideConnectionId := ← x.read .u32, relaySideConnectionId := ← x.read .u64
           newState := ← x.read .u32, totalReadBytes := ← x.read .u64
           totalWrittenBytes := ← x.read .u64 }

/-- `xTR_DnsQuery`. -/
structure DnsQuery where
  hostname : Bytes
  deriving DecidableEq, Repr

def DnsQuery.serializeMembers (m : DnsQuery) : List Field := [.view m.hostname]

def DnsQuery.deserializeMembers (x : MessageFormat) : Reads DnsQuery := do
  return { hostname := ← x.read .view }

def DnsQueryResp.serializeMembers (m : DnsQueryResp) : List Field :=
  [.view m.hostname,.address m.primaryIpv4,.address m.primaryIpv6]

def DnsQueryResp.deserializeMembers (x : MessageFormat) : Reads DnsQueryResp := do
  return { hostname := ← x.read .view, primaryIpv4 := ← x.read .address
           primaryIpv6 := ← x.read .address }

def InitCtrlStream.serializeMembers (m : InitCtrlStream) : List Field :=
  [.string m.checkKey,.address m.ipv4Address,.address m.ipv6Address,.bool m.resolved3rdIpv6]

def InitCtrlStream.deserializeMembers (x : MessageFormat) : Reads InitCtrlStream := do
  return { checkKey := ← x.read .string, ipv4Address := ← x.read .address
           ipv6Address := ← x.read .address, resolved3rdIpv6 := ← x.read .bool }

def InitCtrlStreamResp.serializeMembers (m : InitCtrlStreamResp) : List Field :=
  [.u64 m.deviceId,.u64 m.ctrlId,.string m.deviceKey,.bool m.enableIpv6]

def InitCtrlStreamResp.deserializeMembers (x : MessageFormat) : Reads InitCtrlStreamResp := do
  return { deviceId := ← x.read .u64, ctrlId := ← x.read .u64, deviceKey := ← x.read .string
           enableIpv6 := ← x.read .bool }

def InitDataStream.serializeMembers (m : InitDataStream) : List Field :=
  [.u64 m.ctrlId,.string m.dataKey,.string m.deviceLocalIdString]

def InitDataStream.deserializeMembers (x : MessageFormat) : Reads InitDataStream := do
  return { ctrlId := ← x.read .u64, dataKey := ← x.read .string
           deviceLocalIdString := ← x.read .string }

/-- `xInitDataStreamResp`. -/
structure InitDataStreamResp where
  accepted : Bool
  deriving DecidableEq, Repr

def InitDataStreamResp.serializeMembers (m : InitDataStreamResp) : List Field := [.bool m.accepted]

def InitDataStreamResp.deserializeMembers (x : MessageFormat) : Reads InitDataStreamResp := do
  return { accepted := ← x.read .bool }

/-- `none` is a failed assertion: there is a payload. -/
def PostData.serializeMembers (m : PostData) : Option (List Field) :=
  if m.payload = [] then none
  else some [.u32 m.deviceSideConnectionId,.u64 m.relaySideConnectionId,.view m.payload]

def PostData.deserializeMembers (x : MessageFormat) : Reads PostData := do
  return { deviceSideConnectionId := ← x.read .u32, relaySideConnectionId := ← x.read .u64
           payload := ← x.read .view }

theorem PostData.serialize_eq (x : MessageFormat) {m : PostData} {ms : List Field}
    (serialized : m.serializeMembers = some ms) : x.serialize ms = x.wire.postData.write m := by
  unfold serializeMembers at serialized
  split at serialized
  · cases serialized
  · obtain rfl := Option.some.inj serialized
    simp [Format.write,x.codec_u32,x.codec_u64,x.codec_view,Wire.postData,Codec.record,Codec.pair]

/-- `xTR_CreateUdpChannel`. -/
structure CreateUdpChannel where
  relaySideChannelId : Nat
  deriving DecidableEq, Repr

def CreateUdpChannel.serializeMembers (m : CreateUdpChannel) : List Field := [.u64 m.relaySideChannelId]

def CreateUdpChannel.deserializeMembers (x : MessageFormat) : Reads CreateUdpChannel := do
  return { relaySideChannelId := ← x.read .u64 }

/-- A channel by its ids on both sides, which is all that three of the messages carry. -/
structure UdpChannel where
  deviceSideChannelId : Nat
  relaySideChannelId : Nat
  deriving DecidableEq, Repr

abbrev CreateUdpChannelResp := UdpChannel
abbrev UdpChannelKeepAlive := UdpChannel
abbrev UdpChannelClose := UdpChannel

def UdpChannel.serializeMembers (m : UdpChannel) : List Field :=
  [.u32 m.deviceSideChannelId,.u64 m.relaySideChannelId]

def UdpChannel.deserializeMembers (x : MessageFormat) : Reads UdpChannel := do
  return { deviceSideChannelId := ← x.read .u32, relaySideChannelId := ← x.read .u64 }

/-- `xTR_PostUdpData`. -/
structure PostUdpData where
  deviceSideChannelId : Nat
  relaySideChannelId : Nat
  payload : Bytes
  deriving DecidableEq, Repr

def PostUdpData.serializeMembers (m : PostUdpData) : Option (List Field) :=
  if m.payload = [] then none
  else some [.u32 m.deviceSideChannelId,.u64 m.relaySideChannelId,.view m.payload]

def PostUdpData.deserializeMembers (x : MessageFormat) : Reads PostUdpData := do
  return { deviceSideChannelId := ← x.read .u32, relaySideChannelId := ← x.read .u64
           payload := ← x.read .view }

end TR

end MiniPP
