import MiniPP.Relay.Contexts

/-! Data on its way to a device. A packet of a proxy-access server names a context and its
client; the relay sends the payload on under the ids of the context. -/
namespace MiniPP.Relay

variable {keys : Keys} {cfg : Config}

theorem not_data_devicePacket {s : DeviceRelayService keys} {c dc : Nat} {conn : DeviceConnection}
    {packet : DevicePacket} {m : TR.PostData} :
    .toDevice dc (.postData m) ∉ (s.onDevicePacket cfg c conn packet).actions := by
  intro sent
  by_cases alive : packet = .keepAlive
  · subst alive
    simp only [DeviceRelayService.onDevicePacket,DeviceRelayService.onDeviceKeepAlive,
      DeviceRelayService.reportDeviceOnState] at sent
    repeat' split at sent
    all_goals simp at sent
  · rw [onDevicePacket_dispatch cfg s c conn packet alive] at sent
    split at sent
    · unfold DeviceRelayService.onCtrlPacket DeviceRelayService.onTerminalInitCtrlStream
        DeviceRelayService.onTerminalDnsQueryResp at sent
      repeat' split at sent
      all_goals simp at sent
    · unfold DeviceRelayService.onDataPacket at sent
      split at sent
      · simp only [DeviceRelayService.onTerminalInitDataStream] at sent
        repeat' split at sent
        all_goals simp at sent
      · simp only [DeviceRelayService.onTerminalTargetConnectionUpdate] at sent
        repeat' split at sent
        all_goals simp at sent
      · simp only [DeviceRelayService.onTerminalPostData] at sent
        repeat' split at sent
        all_goals simp at sent
      · simp at sent

theorem sent_post {s : DeviceRelayService keys} {connection : Option Nat} {dc : Nat}
    {sent m : TR.Message} (member : .toDevice dc m ∈ s.post connection sent) :
    connection = some dc ∧ sent = m := by
  unfold DeviceRelayService.post at member
  split at member
  · simp at member
  · split at member
    · simp at member
    · obtain ⟨rfl,rfl⟩ : dc = _ ∧ m = sent := by simpa using member
      exact ⟨rfl,rfl⟩

/-- The payload of a packet, under the ids of the context that it names. -/
def forwarded (rc : RelayConnectionContext) (push : PR.PushData) : TR.PostData where
  deviceSideConnectionId := rc.deviceSideConnectionId
  relaySideConnectionId := push.relaySideConnectionId
  payload := push.payload

/-- The packet names a context and its client, and this is the data connection of its device. -/
structure Routed (s : DeviceRelayService keys) (push : PR.PushData) (rc : RelayConnectionContext)
    (dc : Nat) : Prop where
  context : s.context? push.relaySideConnectionId = some rc
  client : rc.proxySideConnectionId = push.proxySideConnectionId
  device : ∃ d, s.deviceManager.getDeviceById rc.deviceId = some d ∧ d.dataConnection = some dc

theorem pushData_sent {s : DeviceRelayService keys} (self : SelfNamed s) {push : PR.PushData} {dc : Nat}
    {m : TR.PostData} (sent : .toDevice dc (.postData m) ∈ (s.onProxyPushData push).actions) :
    ∃ rc, Routed s push rc dc ∧ m = forwarded rc push := by
  unfold DeviceRelayService.onProxyPushData at sent
  split at sent
  · simp at sent
  · rename_i rc found
    split at sent
    · simp at sent
    · rename_i client
      split at sent
      · simp at sent
      · rename_i d device
        obtain ⟨data,same⟩ := sent_post sent
        have own : rc.relaySideConnectionId = push.relaySideConnectionId := self _ rc found
        refine ⟨rc,⟨found,not_not.mp client,d,device,data⟩,?_⟩
        rw [← TR.Message.postData.inj same,own]
        rfl

/-- Data is sent to a device for a packet of a proxy-access server, and goes where that names. -/
theorem step_data {s : DeviceRelayService keys} (self : SelfNamed s) {e : RelayEvent} {dc : Nat}
    {m : TR.PostData} (sent : .toDevice dc (.postData m) ∈ (s.step cfg e).2) :
    ∃ p push rc, e = .proxyPacket p (.message (some (.postData push))) ∧ Routed s push rc dc ∧
      m = forwarded rc push := by
  rcases step_actions sent with unasked | ⟨c,conn,packet,rfl,-,handled⟩ | ⟨p,conn,packet,rfl,-,handled⟩
  · exact unasked.elim
  · exact absurd handled not_data_devicePacket
  · rcases packet with _ | _ | message
    · simp [DeviceRelayService.onProxyData] at handled
    · simp [DeviceRelayService.onProxyData,DeviceRelayService.onProxyPacket] at handled
    · simp only [DeviceRelayService.onProxyData,DeviceRelayService.onProxyPacket] at handled
      cases message with
      | postData push =>
        obtain ⟨rc,routed,same⟩ := pushData_sent self handled
        exact ⟨p,push,rc,rfl,routed,same⟩
      | challenge => simp [DeviceRelayService.onProxyChallenge] at handled
      | challengeResp _ => simp at handled
      | createConnection m =>
        simp only [DeviceRelayService.onProxyCreateConnection] at handled
        repeat' split at handled
        all_goals first | cases (sent_post handled).2 | simp at handled
      | destroyConnection m =>
        simp only [DeviceRelayService.onProxyDestroyConnection] at handled
        repeat' split at handled
        all_goals first | cases (sent_post handled).2 | simp at handled
      | notifyConnectionState m =>
        simp only [DeviceRelayService.onProxyNotifyConnectionState] at handled
        repeat' split at handled
        all_goals first | cases (sent_post handled).2 | simp at handled

/-- A packet that names a live context and its client is sent on. -/
theorem push_forwarded {s : DeviceRelayService keys} (self : SelfNamed s) {p dc : Nat}
    {push : PR.PushData} {rc : RelayConnectionContext} (registered : s.proxy? p ≠ none)
    (routed : Routed s push rc dc) (open_ : s.conn? dc ≠ none) :
    (s.step cfg (.proxyPacket p (.message (some (.postData push))))).2 =
      [.toDevice dc (.postData (forwarded rc push))] := by
  obtain ⟨conn,known⟩ := Option.ne_none_iff_exists'.mp registered
  obtain ⟨connection,live⟩ := Option.ne_none_iff_exists'.mp open_
  obtain ⟨d,device,data⟩ := routed.device
  have found : s.proxyConnectionManager.getConnectionById p = some conn := known
  have context : s.relayConnectionManager.getConnectionById push.relaySideConnectionId = some rc :=
    routed.context
  have link : s.deviceConnectionManager.getConnectionById dc = some connection := live
  have own : rc.relaySideConnectionId = push.relaySideConnectionId := self _ rc routed.context
  simp [DeviceRelayService.step,found,DeviceRelayService.onProxyData,DeviceRelayService.onProxyPacket,
    DeviceRelayService.onProxyPushData,context,routed.client,device,DeviceRelayService.post,data,link,
    forwarded,own]

/-! ## Data for one context -/

def dataMessage (id : Nat) : RelayAction → Option TR.PostData
  | .toDevice _ (.postData m) => if m.relaySideConnectionId = id then some m else none
  | _ => none

/-- The data sent to the device for the context. -/
def dataMessages (id : Nat) (out : List RelayAction) : List TR.PostData := out.filterMap (dataMessage id)

theorem mem_dataMessages {id : Nat} {out : List RelayAction} {m : TR.PostData} :
    m ∈ dataMessages id out ↔ m.relaySideConnectionId = id ∧ ∃ dc, .toDevice dc (.postData m) ∈ out := by
  unfold dataMessages
  rw [List.mem_filterMap]
  constructor
  · rintro ⟨a,member,data⟩
    unfold dataMessage at data
    split at data
    · rename_i dc m'
      obtain ⟨same,rfl⟩ : m'.relaySideConnectionId = id ∧ m' = m := by simpa using data
      exact ⟨same,dc,member⟩
    · cases data
  · rintro ⟨same,dc,member⟩
    exact ⟨_,member,by simp [dataMessage,same]⟩

end MiniPP.Relay
