import MiniPP.Packets
import MiniPP.Relay.Service

/-! `xDeviceRelayService::OnData`: the packets in the data of a device or of a proxy-access
server. -/
namespace MiniPP.Relay

open Message Framing

/-! ## Payloads -/

/-- `OnCtrlPacket` and `OnDataPacket` have no command in common. -/
def decodeDevicePacket (x : MessageFormat) (commandId requestId : Nat) (payload : Bytes) : DevicePacket :=
  if commandId = cmdDeviceInitCtrlStream then
    .initCtrlStream requestId (x.decode (TR.InitCtrlStream.deserializeMembers x) payload)
  else if commandId = cmdDeviceDnsQueryResp then
    .dnsQueryResp requestId (x.decode (TR.DnsQueryResp.deserializeMembers x) payload)
  else if commandId = cmdDeviceInitDataStream then
    .initDataStream requestId (x.decode (TR.InitDataStream.deserializeMembers x) payload)
  else if commandId = cmdDeviceNotifyConnectionState then
    .notifyConnectionState (x.decode (TR.ConnectionStateNotify.deserializeMembers x) payload)
  else if commandId = cmdDevicePostData then
    .postData (x.decode (TR.PostData.deserializeMembers x) payload)
  else .other

def decodeProxyPacket (x : MessageFormat) (commandId : Nat) (payload : Bytes) : Option PR.Message :=
  if commandId = cmdProxyChallenge then
    (x.decode (PR.Challenge.deserializeMembers x) payload).map (fun _ => .challenge)
  else if commandId = cmdProxyCreateConnection then
    (x.decode (PR.CreateConnection.deserializeMembers x) payload).map .createConnection
  else if commandId = cmdProxyDestroyConnection then
    (x.decode (PR.DestroyConnection.deserializeMembers x) payload).map .destroyConnection
  else if commandId = cmdProxyPostData then
    (x.decode (PR.PushData.deserializeMembers x) payload).map .postData
  else if commandId = cmdProxyNotifyConnectionState then
    (x.decode (PR.ConnectionStateNotify.deserializeMembers x) payload).map .notifyConnectionState
  else none

/-! ## The loop -/

/-- Whose data it is. -/
inductive Peer where
  | device (c : Nat)
  | proxy (p : Nat)
  deriving DecidableEq, Repr

/-- A packet that is dispatched, and what its handler does. -/
inductive Dispatch where
  | keepAlive (peer : Peer)
  | packet (peer : Peer) (commandId requestId : Nat) (payload : Bytes)
  | action (a : RelayAction)
  deriving DecidableEq, Repr

namespace DeviceRelayService

variable {keys : Keys}

/-- The connection is there: it is released by a tick, never while its data is handled. -/
def onRequestKeepAlive (cfg : Config) (s : DeviceRelayService keys) : Peer → Handled keys
  | .device c =>
    match s.deviceConnectionManager.getConnectionById c with
    | none => ⟨s,[],true⟩
    | some conn => s.onDevicePacket cfg c conn .keepAlive
  | .proxy p => s.onProxyData cfg p .keepAlive

def onPacket (cfg : Config) (x : MessageFormat) (s : DeviceRelayService keys) (commandId requestId : Nat)
    (payload : Bytes) : Peer → Handled keys
  | .device c =>
    match s.deviceConnectionManager.getConnectionById c with
    | none => ⟨s,[],false⟩
    | some conn => s.onDevicePacket cfg c conn (decodeDevicePacket x commandId requestId payload)
  | .proxy p => s.onProxyData cfg p (.message (decodeProxyPacket x commandId payload))

/-- The body of the loop, for a packet that is complete. -/
def dispatch (cfg : Config) (x : MessageFormat) (peer : Peer) (s : DeviceRelayService keys)
    (header : PacketHeader) (payload : Bytes) : Reaction (DeviceRelayService keys) Dispatch :=
  if header.isRequestKeepAlive then
    let handled := s.onRequestKeepAlive cfg peer
    ⟨handled.relay,.keepAlive peer :: handled.actions.map .action,true⟩
  else
    let handled := s.onPacket cfg x header.commandId header.requestId payload peer
    ⟨handled.relay,
      .packet peer header.commandId header.requestId payload :: handled.actions.map .action,handled.accepted⟩

def onDataLoop (cfg : Config) (x : MessageFormat) (f : PacketFormat) (peer : Peer) :
    Nat → DeviceRelayService keys → Bytes → Call (DeviceRelayService keys) Dispatch
  | 0, s, _ => ⟨s,[],some 0⟩
  | fuel + 1, s, data =>
    if data.length < f.headerSize then ⟨s,[],some 0⟩
    else
      match f.parse data with
      | none => ⟨s,[],none⟩
      | some header =>
        if data.length < header.packetSize then ⟨s,[],some 0⟩
        else
          let reaction := s.dispatch cfg x peer header ((data.take header.packetSize).drop f.headerSize)
          if reaction.accepted then
            let later := onDataLoop cfg x f peer fuel reaction.state (data.drop header.packetSize)
            ⟨later.state,reaction.out ++ later.out,later.taken.map (header.packetSize + ·)⟩
          else ⟨reaction.state,reaction.out,none⟩

theorem onDataLoop_chunks (cfg : Config) (x : MessageFormat) (f : PacketFormat) (peer : Peer) :
    ChunkInvariant f.framing (fun s : DeviceRelayService keys => s.dispatch cfg x peer)
      (onDataLoop cfg x f peer) := by
  apply chunkInvariant_of_turns
  · intro s data
    rfl
  · intro fuel s data
    simp only [onDataLoop,PacketFormat.framing]
    cases f.parse data with
    | none => rfl
    | some header => rfl

end DeviceRelayService

end MiniPP.Relay
