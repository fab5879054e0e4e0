import MiniPP.Relay.Contexts

/-! Where the notifications come from that a relay sends to a proxy-access server, and the
connections of the servers it sends them to. -/
namespace MiniPP.Relay

variable {keys : Keys} {cfg : Config}

/-- No context is left to give out. -/
def Full (s : DeviceRelayService keys) : Prop :=
  s.relayConnectionManager.contextPool.capacity ≤ s.relayConnectionManager.contextPool.entries.length

instance (s : DeviceRelayService keys) : Decidable (Full s) := inferInstanceAs (Decidable (_ ≤ _))

theorem create_none {s : DeviceRelayService keys}
    {fill : RelayConnectionContext → RelayConnectionContext} :
    s.relayConnectionManager.create fill = none ↔ Full s := by
  rw [RelayConnectionManager.create,Option.map_eq_none_iff,Storage.acquire_eq_none]
  rfl

/-- Why a proxy is told a state. -/
inductive Told (s : DeviceRelayService keys) (p : Nat) (n : PR.ConnectionStateNotify) :
    RelayEvent → Prop where
  | full (m : PR.CreateConnection) (registered : s.proxy? p ≠ none)
      (client : n.proxySideConnectionId = m.proxySideConnectionId)
      (device : s.deviceManager.getDeviceById m.relaySideDeviceId ≠ none) (full : Full s) :
      Told s p n (.proxyPacket p (.message (some (.createConnection m))))
  | device (c deviceId : Nat) (m : TR.ConnectionStateNotify) (rc : RelayConnectionContext)
      (sender : s.conn? c = some ⟨.data,deviceId⟩)
      (recognised : DeviceRelayService.proxyState m.newState ≠ none)
      (found : s.context? m.relaySideConnectionId = some rc) (proxy : rc.proxyConnectionId = p)
      (client : n.proxySideConnectionId = rc.proxySideConnectionId)
      (state : n.newState = m.newState) :
      Told s p n (.devicePacket c (.notifyConnectionState (some m)))

theorem proxyState_eq {newState state : Nat}
    (recognised : DeviceRelayService.proxyState newState = some state) : state = newState := by
  unfold DeviceRelayService.proxyState at recognised
  split at recognised
  · simp_all
  · split at recognised
    · simp_all
    · split at recognised <;> simp_all

theorem told_update {s : DeviceRelayService keys} {p c deviceId : Nat}
    {n : PR.ConnectionStateNotify} {m : TR.ConnectionStateNotify}
    (sender : s.conn? c = some ⟨.data,deviceId⟩)
    (told : .toProxy p (.notifyConnectionState n) ∈ (s.onTerminalTargetConnectionUpdate (some m)).actions) :
    Told s p n (.devicePacket c (.notifyConnectionState (some m))) := by
  simp only [DeviceRelayService.onTerminalTargetConnectionUpdate] at told
  split at told
  · simp at told
  · rename_i rc found
    split at told
    · simp at told
    · split at told
      · simp at told
      · rename_i state recognised
        split at told
        · simp at told
        · obtain ⟨rfl,rfl⟩ : p = rc.proxyConnectionId ∧ n = _ := by simpa using told
          exact .device c deviceId m rc sender (by simp [recognised]) found rfl rfl
            (proxyState_eq recognised)

/-- What goes to a device is told no proxy. -/
theorem not_told_post {s : DeviceRelayService keys} {p : Nat} {pointer : Option Nat} {m : TR.Message}
    {n : PR.Message} : .toProxy p n ∉ s.post pointer m := by
  unfold DeviceRelayService.post
  repeat' split
  all_goals simp

theorem told_create {s : DeviceRelayService keys} {p p' : Nat} {n : PR.ConnectionStateNotify}
    {m : PR.CreateConnection} (registered : s.proxy? p' ≠ none)
    (told : .toProxy p (.notifyConnectionState n) ∈ (s.onProxyCreateConnection cfg p' m).actions) :
    p = p' ∧ Told s p n (.proxyPacket p (.message (some (.createConnection m)))) := by
  unfold DeviceRelayService.onProxyCreateConnection at told
  split at told
  · simp at told
  · rename_i d live
    dsimp only at told
    split at told
    · rename_i none
      obtain ⟨rfl,rfl⟩ : p = p' ∧ n = _ := by simpa using told
      exact ⟨rfl,.full m registered rfl (by simp [live]) (create_none.mp none)⟩
    · exfalso
      repeat' split at told
      all_goals simp [not_told_post] at told

/-- On a ctrl connection nothing is answered to a proxy. -/
theorem not_told_ctrlPacket {s : DeviceRelayService keys} {p c : Nat} {m : PR.Message}
    {packet : DevicePacket} : .toProxy p m ∉ (s.onCtrlPacket cfg c packet).actions := by
  intro told
  cases packet with
  | initCtrlStream requestId m =>
    cases m <;> simp [DeviceRelayService.onCtrlPacket,
      DeviceRelayService.onTerminalInitCtrlStream] at told
  | dnsQueryResp requestId m =>
    simp only [DeviceRelayService.onCtrlPacket,DeviceRelayService.onTerminalDnsQueryResp] at told
    repeat' split at told
    all_goals simp at told
  | _ => simp [DeviceRelayService.onCtrlPacket] at told

theorem told_dataPacket {s : DeviceRelayService keys} {p c deviceId : Nat}
    {n : PR.ConnectionStateNotify} (sender : s.conn? c = some ⟨.data,deviceId⟩) {packet : DevicePacket}
    (told : .toProxy p (.notifyConnectionState n) ∈ (s.onDataPacket cfg c packet).actions) :
    Told s p n (.devicePacket c packet) := by
  cases packet with
  | initDataStream requestId m =>
    simp only [DeviceRelayService.onDataPacket,DeviceRelayService.onTerminalInitDataStream] at told
    repeat' split at told
    all_goals simp at told
  | postData m =>
    simp only [DeviceRelayService.onDataPacket,DeviceRelayService.onTerminalPostData] at told
    repeat' split at told
    all_goals simp at told
  | notifyConnectionState m =>
    cases m with
    | none =>
      simp [DeviceRelayService.onDataPacket,DeviceRelayService.onTerminalTargetConnectionUpdate] at told
    | some m => exact told_update sender told
  | _ => simp [DeviceRelayService.onDataPacket] at told

theorem told_devicePacket {s : DeviceRelayService keys} {p c : Nat} {conn : DeviceConnection}
    {n : PR.ConnectionStateNotify} (sender : s.conn? c = some conn) {packet : DevicePacket}
    (told : .toProxy p (.notifyConnectionState n) ∈ (s.onDevicePacket cfg c conn packet).actions) :
    Told s p n (.devicePacket c packet) := by
  by_cases alive : packet = .keepAlive
  · subst alive
    simp only [DeviceRelayService.onDevicePacket,DeviceRelayService.onDeviceKeepAlive,
      DeviceRelayService.reportDeviceOnState] at told
    repeat' split at told
    all_goals simp at told
  · rw [onDevicePacket_dispatch cfg s c conn packet alive] at told
    obtain ⟨type,deviceId⟩ := conn
    cases type with
    | ctrl => exact absurd told not_told_ctrlPacket
    | data => exact told_dataPacket sender told

theorem told_proxyData {s : DeviceRelayService keys} {p p' : Nat} {n : PR.ConnectionStateNotify}
    {packet : ProxyPacket} (registered : s.proxy? p' ≠ none)
    (told : .toProxy p (.notifyConnectionState n) ∈ (s.onProxyData cfg p' packet).actions) :
    Told s p n (.proxyPacket p' packet) := by
  cases packet with
  | keepAlive => simp [DeviceRelayService.onProxyData] at told
  | message m =>
    simp only [DeviceRelayService.onProxyData,DeviceRelayService.onProxyPacket] at told
    split at told
    · simp [DeviceRelayService.onProxyChallenge] at told
    · obtain ⟨rfl,because⟩ := told_create registered told
      exact because
    all_goals exfalso
    · simp only [DeviceRelayService.onProxyDestroyConnection] at told
      repeat' split at told
      all_goals simp [not_told_post] at told
    · simp only [DeviceRelayService.onProxyPushData] at told
      repeat' split at told
      all_goals simp [not_told_post] at told
    · simp only [DeviceRelayService.onProxyNotifyConnectionState] at told
      repeat' split at told
      all_goals simp [not_told_post] at told
    · simp at told
    · simp at told

theorem step_told {s : DeviceRelayService keys} {e : RelayEvent} {p : Nat}
    {n : PR.ConnectionStateNotify}
    (told : .toProxy p (.notifyConnectionState n) ∈ (s.step cfg e).2) : Told s p n e := by
  rcases step_actions told with unasked | ⟨c,conn,packet,rfl,known,handled⟩ |
    ⟨p',conn,packet,rfl,known,handled⟩
  · exact absurd unasked (by simp [RelayAction.Unasked])
  · exact told_devicePacket known handled
  · have registered : s.proxy? p' ≠ none := fun unknown =>
      absurd (unknown.symm.trans known) (by simp)
    exact told_proxyData registered handled

/-! ## Ids of proxy connections -/

abbrev DeviceRelayService.ProxyIssued (s : DeviceRelayService keys) (p : Nat) : Prop :=
  s.proxyConnectionManager.members.Issued p

theorem proxies_devicePacket (cfg : Config) (s : DeviceRelayService keys) (c : Nat)
    (conn : DeviceConnection) (packet : DevicePacket) :
    (s.onDevicePacket cfg c conn packet).relay.proxyConnectionManager = s.proxyConnectionManager := by
  have move := devicePacket_move cfg s c conn packet
  generalize (s.onDevicePacket cfg c conn packet).relay = s' at move
  cases move with
  | same | keepAlive => rfl
  | initDataStream requestId m =>
    simp only [DeviceRelayService.onTerminalInitDataStream]
    repeat' split
    all_goals rfl
  | connectionUpdate m =>
    cases m with
    | none => rfl
    | some m =>
      rcases s.relay_connectionUpdate m with same | ⟨-,new⟩
      · rw [same]
      · rw [new]

theorem issued_proxyData (s : DeviceRelayService keys) (p other : Nat) (packet : ProxyPacket) :
    (s.onProxyData cfg p packet).relay.ProxyIssued other ↔ s.ProxyIssued other := by
  have move := proxyPacket_move cfg s p packet
  generalize (s.onProxyData cfg p packet).relay = s' at move
  cases move with
  | same => rfl
  | keepAlive | challenge => exact ProxyConnectionManager.issued_keepAlive _ p other
  | createConnection m =>
    simp only [DeviceRelayService.onProxyCreateConnection]
    repeat' split
    all_goals rfl

/-- An id once given to a proxy's connection stays given out. -/
theorem issued_step (s : DeviceRelayService keys) (e : RelayEvent) {p : Nat} (issued : s.ProxyIssued p) :
    (s.step cfg e).1.ProxyIssued p := by
  cases e with
  | newDeviceConnection type =>
    simp only [DeviceRelayService.step]
    split <;> exact issued
  | newProxyConnection =>
    simp only [DeviceRelayService.step]
    split
    · exact issued
    · rename_i accepted
      exact (TimedPool.issued_accept accepted p).mpr (.inr issued)
  | devicePacket c packet =>
    simp only [DeviceRelayService.step]
    split
    · exact issued
    · rw [DeviceRelayService.ProxyIssued,proxies_devicePacket]
      exact issued
  | proxyPacket p' packet =>
    simp only [DeviceRelayService.step]
    split
    · exact issued
    · exact (issued_proxyData s p' p packet).mpr issued
  | devicePeerClose c =>
    simp only [DeviceRelayService.step,DeviceRelayService.onDevicePeerClose,
      DeviceRelayService.removeDeviceFromConnection]
    repeat' split
    all_goals exact issued
  | proxyPeerClose p' => exact (TimedPool.issued_giveUp _ p' p).mpr issued
  | deviceConnectionTick nowMS => exact issued
  | proxyConnectionTick nowMS => exact (TimedPool.issued_destroyAll _ _ p).mpr issued

end MiniPP.Relay
