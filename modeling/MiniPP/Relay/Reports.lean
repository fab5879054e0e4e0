import MiniPP.Relay.DeviceTable
import MiniPP.Relay.Notifications

/-! The state reports of a relay: every one is about a device, under the id of the relay. The device
has just registered, or it is the one of a connection. -/
namespace MiniPP.Relay

variable {keys : Keys} {cfg : Config} {s : DeviceRelayService keys}

def OwnReport (cfg : Config) (r : DeviceInfoUpdate) : Prop :=
  ∃ device : Device, ∃ offline, r = device.report cfg.serverRuntimeId offline

/-- The location that a device registers with under the data key, if it is well formed. -/
def keyLocation (cfg : Config) (dataKey : Bytes) : Option GeoInfo :=
  (DeviceRelayService.geoSegment cfg dataKey).map
    (fun segment => DeviceRelayService.geoInfo cfg (cfg.xel.hexToStr segment))

/-- The device has the name of the message, and the location of its data key. -/
def Registers (cfg : Config) (m : TR.InitDataStream) (device : Device) : Prop :=
  device.deviceLocalIdString = m.deviceLocalIdString ∧ keyLocation cfg m.dataKey = some device.geoInfo

inductive ReportOrigin (cfg : Config) (s : DeviceRelayService keys) : RelayEvent → DeviceInfoUpdate → Prop where
  | known {e : RelayEvent} (c : Nat) (conn : DeviceConnection) (device : Device)
      (sender : s.conn? c = some conn) (found : s.device? conn.deviceId = some device) (offline : Bool) :
      ReportOrigin cfg s e (device.report cfg.serverRuntimeId offline)
  | registered {c requestId : Nat} {m : TR.InitDataStream} {device : Device} (registers : Registers cfg m device) :
      ReportOrigin cfg s (.devicePacket c (.initDataStream requestId (some m)))
        (device.report cfg.serverRuntimeId false)

theorem ReportOrigin.own {e : RelayEvent} {r : DeviceInfoUpdate} (origin : ReportOrigin cfg s e r) :
    OwnReport cfg r := by
  cases origin with
  | known _ _ _ _ _ offline => exact ⟨_,offline,rfl⟩
  | registered => exact ⟨_,false,rfl⟩

/-- What goes to a device is no report. -/
theorem not_report_post {pointer : Option Nat} {m : TR.Message} {r : DeviceInfoUpdate} :
    .report r ∉ s.post pointer m := by
  unfold DeviceRelayService.post
  repeat' split
  all_goals simp

theorem report_devicePacket {c : Nat} {conn : DeviceConnection} {packet : DevicePacket} {r : DeviceInfoUpdate}
    (sender : s.conn? c = some conn)
    (reported : .report r ∈ (s.onDevicePacket cfg c conn packet).actions) :
    ReportOrigin cfg s (.devicePacket c packet) r := by
  by_cases alive : packet = .keepAlive
  · subst alive
    simp only [DeviceRelayService.onDevicePacket,DeviceRelayService.onDeviceKeepAlive,
      DeviceRelayService.reportDeviceOnState] at reported
    repeat' split at reported
    · simp at reported
    · rename_i device found
      obtain rfl : r = _ := by simpa using reported
      exact .known _ _ _ sender found false
    · simp at reported
  · rw [onDevicePacket_dispatch cfg s c conn packet alive] at reported
    split at reported
    · unfold DeviceRelayService.onCtrlPacket DeviceRelayService.onTerminalInitCtrlStream
        DeviceRelayService.onTerminalDnsQueryResp at reported
      repeat' split at reported
      all_goals simp at reported
    · unfold DeviceRelayService.onDataPacket at reported
      split at reported
      · simp only [DeviceRelayService.onTerminalInitDataStream] at reported
        repeat' split at reported
        case h_2 =>
          -- Only a registration that succeeds reports.
          rename_i segment wellFormed
          obtain rfl : r = _ := by simpa using reported
          exact .registered ⟨rfl,by rw [keyLocation,wellFormed]; rfl⟩
        all_goals simp at reported
      · simp only [DeviceRelayService.onTerminalTargetConnectionUpdate] at reported
        repeat' split at reported
        all_goals simp at reported
      · simp only [DeviceRelayService.onTerminalPostData] at reported
        repeat' split at reported
        all_goals simp at reported
      · simp at reported

theorem not_report_proxyData {p : Nat} {packet : ProxyPacket} {r : DeviceInfoUpdate} :
    .report r ∉ (s.onProxyData cfg p packet).actions := by
  intro reported
  cases packet with
  | keepAlive => simp [DeviceRelayService.onProxyData] at reported
  | message m =>
    simp only [DeviceRelayService.onProxyData,DeviceRelayService.onProxyPacket] at reported
    split at reported
    · simp [DeviceRelayService.onProxyChallenge] at reported
    · simp only [DeviceRelayService.onProxyCreateConnection] at reported
      repeat' split at reported
      all_goals simp [not_report_post] at reported
    · simp only [DeviceRelayService.onProxyDestroyConnection] at reported
      repeat' split at reported
      all_goals simp [not_report_post] at reported
    · simp only [DeviceRelayService.onProxyPushData] at reported
      repeat' split at reported
      all_goals simp [not_report_post] at reported
    · simp only [DeviceRelayService.onProxyNotifyConnectionState] at reported
      repeat' split at reported
      all_goals simp [not_report_post] at reported
    · simp at reported
    · simp at reported

theorem report_peerClose {c : Nat} {conn : DeviceConnection} {r : DeviceInfoUpdate}
    (sender : s.conn? c = some conn) (reported : .report r ∈ (s.onDevicePeerClose cfg c conn).2) :
    ReportOrigin cfg s (.devicePeerClose c) r := by
  simp only [DeviceRelayService.onDevicePeerClose,DeviceRelayService.removeDeviceFromConnection] at reported
  repeat' split at reported
  · simp at reported
  · rename_i device live
    obtain rfl : r = _ := by simpa using reported
    exact .known _ _ _ sender (getDeviceById_iff.mp live).1 true
  · simp at reported

theorem report_step {e : RelayEvent} {r : DeviceInfoUpdate} (reported : .report r ∈ (s.step cfg e).2) :
    ReportOrigin cfg s e r := by
  cases e with
  | devicePacket c packet =>
    simp only [DeviceRelayService.step] at reported
    split at reported
    · simp at reported
    · rename_i conn sender
      rcases List.mem_append.mp reported with handled | invalid
      · exact report_devicePacket sender handled
      · split at invalid <;> simp at invalid
  | proxyPacket p packet =>
    simp only [DeviceRelayService.step] at reported
    split at reported
    · simp at reported
    · rcases List.mem_append.mp reported with handled | invalid
      · exact absurd handled not_report_proxyData
      · split at invalid <;> simp at invalid
  | devicePeerClose c =>
    simp only [DeviceRelayService.step] at reported
    split at reported
    · simp at reported
    · rename_i conn sender
      exact report_peerClose sender reported
  | newDeviceConnection type =>
    simp only [DeviceRelayService.step] at reported
    split at reported <;> simp at reported
  | newProxyConnection =>
    simp only [DeviceRelayService.step] at reported
    split at reported <;> simp at reported
  | proxyPeerClose p => simp [DeviceRelayService.step] at reported
  | deviceConnectionTick nowMS => simp [DeviceRelayService.step] at reported
  | proxyConnectionTick nowMS => simp [DeviceRelayService.step] at reported

end MiniPP.Relay
