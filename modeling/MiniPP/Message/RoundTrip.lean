import MiniPP.Message.Internal
import MiniPP.Message.Relay

/-! What is read back of a message is what was written of it. -/
namespace MiniPP.Message

/-- The message classes of the two links of a relay, of the internal servers, and the answer
to a login. -/
inductive MessageClass where
  | prChallenge | prChallengeResp | prCreateConnection | prDestroyConnection
  | prConnectionStateNotify | prPushData
  | trCreateConnection | trDestroyConnection | trConnectionStateNotify | trDnsQuery | trDnsQueryResp
  | initCtrlStream | initCtrlStreamResp | initDataStream | initDataStreamResp | trPostData
  | trCreateUdpChannel | trCreateUdpChannelResp | trUdpChannelKeepAlive | trUdpChannelClose
  | trPostUdpData
  | deviceInfoUpdate | acquireDevice | acquireDeviceResp | queryAuthCache | queryAuthCacheResp
  | acquireServerId | acquireServerIdResp | registerAuthCacheServer | registerAuditDeviceServer
  | registerAuditAccountServer | registerServerResponse
  | backendAuthByUserPassResp
  deriving DecidableEq, Repr

namespace MessageClass

/-- The members of an object of the class. -/
abbrev Object : MessageClass → Type
  | prChallenge => PR.Challenge
  | prChallengeResp => PR.ChallengeResp
  | prCreateConnection => PR.CreateConnection
  | prDestroyConnection => PR.DestroyConnection
  | prConnectionStateNotify => PR.ConnectionStateNotify
  | prPushData => PR.PushData
  | trCreateConnection => TR.CreateConnection
  | trDestroyConnection => TR.DestroyConnection
  | trConnectionStateNotify => TR.ConnectionStateNotify
  | trDnsQuery => TR.DnsQuery
  | trDnsQueryResp => TR.DnsQueryResp
  | initCtrlStream => TR.InitCtrlStream
  | initCtrlStreamResp => TR.InitCtrlStreamResp
  | initDataStream => TR.InitDataStream
  | initDataStreamResp => TR.InitDataStreamResp
  | trPostData => TR.PostData
  | trCreateUdpChannel => TR.CreateUdpChannel
  | trCreateUdpChannelResp => TR.CreateUdpChannelResp
  | trUdpChannelKeepAlive => TR.UdpChannelKeepAlive
  | trUdpChannelClose => TR.UdpChannelClose
  | trPostUdpData => TR.PostUdpData
  | deviceInfoUpdate => PP.DeviceInfoUpdate
  | acquireDevice => PP.AcquireDevice
  | acquireDeviceResp => AcquireDeviceResp
  | queryAuthCache => PP.QueryAuthCache
  | queryAuthCacheResp => PP.QueryAuthCacheResp
  | acquireServerId => PP.AcquireServerId
  | acquireServerIdResp => PP.AcquireServerIdResp
  | registerAuthCacheServer => PP.RegisterAuthCacheServer
  | registerAuditDeviceServer => PP.RegisterAuditDeviceServer
  | registerAuditAccountServer => PP.RegisterAuditAccountServer
  | registerServerResponse => PP.RegisterServerResponse
  | backendAuthByUserPassResp => PP.BackendAuthByUserPassResp

/-- `none` is a failed assertion. -/
def serializeMembers : (k : MessageClass) → k.Object → Option (List Field)
  | prChallenge, m => some (PR.Challenge.serializeMembers m)
  | prChallengeResp, m => some (PR.ChallengeResp.serializeMembers m)
  | prCreateConnection, m => some (PR.CreateConnection.serializeMembers m)
  | prDestroyConnection, m => some (PR.DestroyConnection.serializeMembers m)
  | prConnectionStateNotify, m => some (PR.ConnectionStateNotify.serializeMembers m)
  | prPushData, m => some (PR.PushData.serializeMembers m)
  | trCreateConnection, m => some (TR.CreateConnection.serializeMembers m)
  | trDestroyConnection, m => some (TR.DestroyConnection.serializeMembers m)
  | trConnectionStateNotify, m => some (TR.ConnectionStateNotify.serializeMembers m)
  | trDnsQuery, m => some (TR.DnsQuery.serializeMembers m)
  | trDnsQueryResp, m => some (TR.DnsQueryResp.serializeMembers m)
  | initCtrlStream, m => some (TR.InitCtrlStream.serializeMembers m)
  | initCtrlStreamResp, m => some (TR.InitCtrlStreamResp.serializeMembers m)
  | initDataStream, m => some (TR.InitDataStream.serializeMembers m)
  | initDataStreamResp, m => some (TR.InitDataStreamResp.serializeMembers m)
  | trPostData, m => TR.PostData.serializeMembers m
  | trCreateUdpChannel, m => some (TR.CreateUdpChannel.serializeMembers m)
  | trCreateUdpChannelResp, m => some (TR.UdpChannel.serializeMembers m)
  | trUdpChannelKeepAlive, m => some (TR.UdpChannel.serializeMembers m)
  | trUdpChannelClose, m => some (TR.UdpChannel.serializeMembers m)
  | trPostUdpData, m => TR.PostUdpData.serializeMembers m
  | deviceInfoUpdate, m => some (PP.DeviceInfoUpdate.serializeMembers m)
  | acquireDevice, m => some (PP.AcquireDevice.serializeMembers m)
  | acquireDeviceResp, m => some (PP.AcquireDeviceResp.serializeMembers m)
  | queryAuthCache, m => some (PP.QueryAuthCache.serializeMembers m)
  | queryAuthCacheResp, m => some (PP.QueryAuthCacheResp.serializeMembers m)
  | acquireServerId, m => some (PP.AcquireServerId.serializeMembers m)
  | acquireServerIdResp, m => some (PP.AcquireServerIdResp.serializeMembers m)
  | registerAuthCacheServer, m => some (PP.RegisterServer.serializeMembers m)
  | registerAuditDeviceServer, m => some (PP.RegisterServer.serializeMembers m)
  | registerAuditAccountServer, m => some (PP.RegisterServer.serializeMembers m)
  | registerServerResponse, m => some (PP.RegisterServerResponse.serializeMembers m)
  | backendAuthByUserPassResp, m => some (PP.BackendAuthByUserPassResp.serializeMembers m)

/-- Into an object that is there: members that are not read stay as they are. -/
def deserializeMembers (x : MessageFormat) : (k : MessageClass) → k.Object → Reads k.Object
  | prChallenge, _ => PR.Challenge.deserializeMembers x
  | prChallengeResp, _ => PR.ChallengeResp.deserializeMembers x
  | prCreateConnection, _ => PR.CreateConnection.deserializeMembers x
  | prDestroyConnection, _ => PR.DestroyConnection.deserializeMembers x
  | prConnectionStateNotify, _ => PR.ConnectionStateNotify.deserializeMembers x
  | prPushData, _ => PR.PushData.deserializeMembers x
  | trCreateConnection, _ => TR.CreateConnection.deserializeMembers x
  | trDestroyConnection, _ => TR.DestroyConnection.deserializeMembers x
  | trConnectionStateNotify, _ => TR.ConnectionStateNotify.deserializeMembers x
  | trDnsQuery, _ => TR.DnsQuery.deserializeMembers x
  | trDnsQueryResp, _ => TR.DnsQueryResp.deserializeMembers x
  | initCtrlStream, _ => TR.InitCtrlStream.deserializeMembers x
  | initCtrlStreamResp, _ => TR.InitCtrlStreamResp.deserializeMembers x
  | initDataStream, _ => TR.InitDataStream.deserializeMembers x
  | initDataStreamResp, _ => TR.InitDataStreamResp.deserializeMembers x
  | trPostData, _ => TR.PostData.deserializeMembers x
  | trCreateUdpChannel, _ => TR.CreateUdpChannel.deserializeMembers x
  | trCreateUdpChannelResp, _ => TR.UdpChannel.deserializeMembers x
  | trUdpChannelKeepAlive, _ => TR.UdpChannel.deserializeMembers x
  | trUdpChannelClose, _ => TR.UdpChannel.deserializeMembers x
  | trPostUdpData, _ => TR.PostUdpData.deserializeMembers x
  | deviceInfoUpdate, prior => PP.DeviceInfoUpdate.deserializeMembers x prior
  | acquireDevice, _ => PP.AcquireDevice.deserializeMembers x
  | acquireDeviceResp, _ => PP.AcquireDeviceResp.deserializeMembers x
  | queryAuthCache, _ => PP.QueryAuthCache.deserializeMembers x
  | queryAuthCacheResp, _ => PP.QueryAuthCacheResp.deserializeMembers x
  | acquireServerId, _ => PP.AcquireServerId.deserializeMembers x
  | acquireServerIdResp, _ => PP.AcquireServerIdResp.deserializeMembers x
  | registerAuthCacheServer, _ => PP.RegisterServer.deserializeMembers x
  | registerAuditDeviceServer, _ => PP.RegisterServer.deserializeMembers x
  | registerAuditAccountServer, _ => PP.RegisterServer.deserializeMembers x
  | registerServerResponse, _ => PP.RegisterServerResponse.deserializeMembers x
  | backendAuthByUserPassResp, prior => PP.BackendAuthByUserPassResp.deserializeMembers x prior

/-- The object with the members that are sent, and the others as they were. -/
def carried : (k : MessageClass) → k.Object → k.Object → k.Object
  | deviceInfoUpdate, prior, m => { m with continentId := prior.continentId }
  | backendAuthByUserPassResp, prior, m =>
    if m.errorCode = 0 then m else { prior with errorCode := m.errorCode }
  | _, _, m => m

theorem delivers_backendAuth (x : MessageFormat) (prior m : PP.BackendAuthByUserPassResp) :
    x.Delivers (PP.BackendAuthByUserPassResp.deserializeMembers x prior)
      (PP.BackendAuthByUserPassResp.serializeMembers m)
      (if m.errorCode = 0 then m else { prior with errorCode := m.errorCode }) := by
  apply Format.Delivers.next
  by_cases accepted : m.errorCode = 0
  · simp only [accepted,if_true]
    repeat apply Format.Delivers.next
    rw [← accepted]
    exact .pure m
  · simp only [accepted,if_false]
    exact .pure _

/-- What was written of an object is read into any other of its class. -/
theorem delivers (x : MessageFormat) (k : MessageClass) (prior m : k.Object) {ms : List Field}
    (serialized : k.serializeMembers m = some ms) :
    x.Delivers (k.deserializeMembers x prior) ms (k.carried prior m) := by
  cases k with
  | backendAuthByUserPassResp =>
    obtain rfl := Option.some.inj serialized
    exact delivers_backendAuth x prior m
  | trPostData | trPostUdpData =>
    simp only [serializeMembers,TR.PostData.serializeMembers,TR.PostUdpData.serializeMembers] at serialized
    split at serialized
    · cases serialized
    · obtain rfl := Option.some.inj serialized
      repeat apply Format.Delivers.next
      exact .pure _
  | _ =>
    obtain rfl := Option.some.inj serialized
    repeat apply Format.Delivers.next
    exact .pure _

end MessageClass

/-- Whatever is sent in a packet is read back as it was, to the last byte. -/
theorem members_round_trip (x : MessageFormat) (k : MessageClass) (prior m : k.Object) {ms : List Field}
    (serialized : k.serializeMembers m = some ms) (inRange : MessageFormat.InRange ms) {data : Bytes}
    (sent : x.packet ms = some data) :
    (k.deserializeMembers x prior).run data = some (k.carried prior m,[]) :=
  x.delivered (k.delivers x prior m serialized) inRange sent

/-- A request to open a connection to the name "h", read into an object of another request. -/
theorem members_round_trip_createConnection :
    (MessageClass.prCreateConnection.deserializeMembers .reference ⟨5,5,⟨.ipv4,[9,9,9,9],5⟩,[5],5⟩).run
      [0,0,0,0,0,0,0,1,0,0,0,0,0,0,0,7,0,0,0,0,0,0,1,104,0,80] =
        some (⟨1,7,.unspecified,[104],80⟩,[]) := by
  let m : PR.CreateConnection := ⟨1,7,.unspecified,[104],80⟩
  have inRange : MessageFormat.InRange (PR.CreateConnection.serializeMembers m) := by
    simp [MessageFormat.InRange,PR.CreateConnection.serializeMembers,Primitive.InRange,m,
      NetAddress.unspecified,addressSize]
  exact members_round_trip .reference .prCreateConnection _ m rfl inRange (by decide)

end MiniPP.Message
