import MiniPP.Relay.Encoding
import MiniPP.Relay.Notifications

/-! Data on its way from a device. A packet on a data connection names a context; the relay
sends the payload on to the proxy-access server of the context, for the client there. -/
namespace MiniPP.Relay

variable {keys : Keys} {cfg : Config}

/-- The packet comes on a data connection and names a context. -/
structure Answers (s : DeviceRelayService keys) (c : Nat) (m : TR.PostData)
    (rc : RelayConnectionContext) : Prop where
  sender : ∃ deviceId, s.conn? c = some ⟨.data,deviceId⟩
  context : s.context? m.relaySideConnectionId = some rc

theorem not_push_proxyData {s : DeviceRelayService keys} {p p' : Nat} {push : PR.PushData}
    {packet : ProxyPacket} : .toProxy p (.postData push) ∉ (s.onProxyData cfg p' packet).actions := by
  intro sent
  rcases packet with _ | _ | message
  · simp [DeviceRelayService.onProxyData] at sent
  · simp [DeviceRelayService.onProxyData,DeviceRelayService.onProxyPacket] at sent
  · simp only [DeviceRelayService.onProxyData,DeviceRelayService.onProxyPacket] at sent
    cases message with
    | challenge => simp [DeviceRelayService.onProxyChallenge] at sent
    | challengeResp _ => simp at sent
    | createConnection m =>
      simp only [DeviceRelayService.onProxyCreateConnection] at sent
      repeat' split at sent
      all_goals simp [not_told_post] at sent
    | destroyConnection m =>
      simp only [DeviceRelayService.onProxyDestroyConnection] at sent
      repeat' split at sent
      all_goals simp [not_told_post] at sent
    | postData m =>
      simp only [DeviceRelayService.onProxyPushData] at sent
      repeat' split at sent
      all_goals simp [not_told_post] at sent
    | notifyConnectionState m =>
      simp only [DeviceRelayService.onProxyNotifyConnectionState] at sent
      repeat' split at sent
      all_goals simp [not_told_post] at sent

theorem postData_push {s : DeviceRelayService keys} (self : SelfNamed s) {p : Nat} {push : PR.PushData}
    {m : TR.PostData} (sent : .toProxy p (.postData push) ∈ (s.onTerminalPostData (some m)).actions) :
    ∃ rc, s.context? m.relaySideConnectionId = some rc ∧ rc.proxyConnectionId = p ∧
      push = returned rc m := by
  simp only [DeviceRelayService.onTerminalPostData] at sent
  split at sent
  · simp at sent
  · rename_i rc found
    split at sent
    · simp at sent
    · split at sent
      · simp at sent
      · obtain ⟨rfl,rfl⟩ : p = rc.proxyConnectionId ∧ push = _ := by simpa using sent
        have own : rc.relaySideConnectionId = m.relaySideConnectionId := self _ rc found
        exact ⟨rc,found,rfl,by simp [returned,own]⟩

theorem devicePacket_push {s : DeviceRelayService keys} (self : SelfNamed s) {p c : Nat}
    {conn : DeviceConnection} (sender : s.conn? c = some conn) {push : PR.PushData}
    {packet : DevicePacket}
    (sent : .toProxy p (.postData push) ∈ (s.onDevicePacket cfg c conn packet).actions) :
    ∃ m rc, packet = .postData (some m) ∧ Answers s c m rc ∧ rc.proxyConnectionId = p ∧
      push = returned rc m := by
  by_cases alive : packet = .keepAlive
  · subst alive
    simp only [DeviceRelayService.onDevicePacket,DeviceRelayService.onDeviceKeepAlive,
      DeviceRelayService.reportDeviceOnState] at sent
    repeat' split at sent
    all_goals simp at sent
  · rw [onDevicePacket_dispatch cfg s c conn packet alive] at sent
    obtain ⟨type,deviceId⟩ := conn
    cases type with
    | ctrl => exact absurd sent not_told_ctrlPacket
    | data =>
      simp only [DeviceRelayService.onDataPacket] at sent
      split at sent
      · exfalso
        simp only [DeviceRelayService.onTerminalInitDataStream] at sent
        repeat' split at sent
        all_goals simp at sent
      · exfalso
        simp only [DeviceRelayService.onTerminalTargetConnectionUpdate] at sent
        repeat' split at sent
        all_goals simp at sent
      · rename_i m
        cases m with
        | none => simp [DeviceRelayService.onTerminalPostData] at sent
        | some m =>
          obtain ⟨rc,found,proxy,same⟩ := postData_push self sent
          exact ⟨m,rc,rfl,⟨⟨deviceId,sender⟩,found⟩,proxy,same⟩
      · simp at sent

/-- Data is pushed to a proxy-access server for a packet of a device, and goes where its context
leads. -/
theorem step_push {s : DeviceRelayService keys} (self : SelfNamed s) {e : RelayEvent} {p : Nat}
    {push : PR.PushData} (sent : .toProxy p (.postData push) ∈ (s.step cfg e).2) :
    ∃ c m rc, e = .devicePacket c (.postData (some m)) ∧ Answers s c m rc ∧
      rc.proxyConnectionId = p ∧ push = returned rc m := by
  rcases step_actions sent with unasked | ⟨c,conn,packet,rfl,known,handled⟩ |
    ⟨p',conn,packet,rfl,-,handled⟩
  · exact unasked.elim
  · obtain ⟨m,rc,rfl,answers,proxy,same⟩ := devicePacket_push self known handled
    exact ⟨c,m,rc,rfl,answers,proxy,same⟩
  · exact absurd handled not_push_proxyData

/-- A packet of a data connection that names a context is sent on. -/
theorem push_returned {s : DeviceRelayService keys} (self : SelfNamed s) {c : Nat} {m : TR.PostData}
    {rc : RelayConnectionContext} (answers : Answers s c m rc)
    (registered : s.proxy? rc.proxyConnectionId ≠ none) :
    (s.step cfg (.devicePacket c (.postData (some m)))).2 =
      [.toProxy rc.proxyConnectionId (.postData (returned rc m))] := by
  obtain ⟨deviceId,sender⟩ := answers.sender
  obtain ⟨conn,known⟩ := Option.ne_none_iff_exists'.mp registered
  have link : s.deviceConnectionManager.getConnectionById c = some ⟨.data,deviceId⟩ := sender
  have found : s.proxyConnectionManager.getConnectionById rc.proxyConnectionId = some conn := known
  have context : s.relayConnectionManager.getConnectionById m.relaySideConnectionId = some rc :=
    answers.context
  have own : rc.relaySideConnectionId = m.relaySideConnectionId := self _ rc answers.context
  simp [DeviceRelayService.step,link,DeviceRelayService.onDevicePacket,DeviceRelayService.onDataPacket,
    DeviceRelayService.onTerminalPostData,context,own,found,returned]

end MiniPP.Relay
