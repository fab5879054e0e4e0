import MiniPP.Relay.Assertions
import MiniPP.Relay.Reports

/-! Where a device is, by its relay: in every report, under the name that it registered with, and at
the location that was read from its data key. -/
namespace MiniPP.Relay

variable {keys : Keys} {cfg : Config} {s : DeviceRelayService keys}

/-! ## Devices and their messages -/

/-- The device that is registered with a packet that asks for a data stream, if that is accepted: its
id, and the message. -/
def registering (cfg : Config) (s : DeviceRelayService keys) : RelayEvent → Option (Nat × TR.InitDataStream)
  | .devicePacket c (.initDataStream requestId (some m)) =>
    if .toDevice c (.initDataStreamResp requestId true) ∈
        (s.step cfg (.devicePacket c (.initDataStream requestId (some m)))).2 then
      s.deviceManager.newDevice.map (fun made => (made.1,m))
    else none
  | _ => none

/-- A device stays as it registered, but that it may be released. -/
theorem device_stays (cfg : Config) {id : Nat} {d : Device} (found : s.device? id = some d) (e : RelayEvent) :
    ∃ deleted, (s.step cfg e).1.device? id = some { d with deleted } := by
  have move := step_move cfg s e
  generalize (s.step cfg e).1 = s' at move
  cases move with
  | same _ quiet => exact ⟨d.deleted,by rw [DeviceRelayService.device?,quiet.1]; exact found⟩
  | accepted _ _ _ devices _ _ | destroyed _ devices _ _ =>
    exact ⟨d.deleted,by rw [DeviceRelayService.device?,devices]; exact found⟩
  | streamed c requestId new m conn ctrlConn device sender type ctrl unbound room fresh nonzero
      runtimeId live devices issued outcome =>
    have other : id ≠ new := by
      rintro rfl
      exact absurd (fresh.symm.trans found) (by simp)
    exact ⟨d.deleted,by rw [devices,if_neg other,found]⟩
  | released c released devices connections issued =>
    rw [devices]
    by_cases here : id = released
    · subst here
      exact ⟨true,by simp [found]⟩
    · exact ⟨d.deleted,by rw [if_neg here,found]⟩

/-- A new device that has connections registered with the message that made it. -/
theorem registers_of_new {e : RelayEvent} {id : Nat} {d : Device} (fresh : s.device? id = none)
    (made : (s.step cfg e).1.device? id = some d) (connected : d.ctrlConnection ≠ none) :
    d.deviceRuntimeId = id ∧ ∃ m, registering cfg s e = some (id,m) ∧ Registers cfg m d := by
  obtain ⟨c,requestId,m,ctrlConn,rfl,⟨deviceId,sender⟩,ctrl,unbound,room,named,-⟩ := streamed_of_new fresh made
  obtain ⟨⟨new,manager⟩,acquired⟩ := Option.ne_none_iff_exists'.mp room
  obtain ⟨-,-,devices⟩ := newDevice_spec acquired
  refine ⟨named,m,?_⟩
  simp only [registering,DeviceRelayService.step,DeviceConnectionManager.getConnectionById,sender,
    DeviceRelayService.onDevicePacket,DeviceRelayService.onDataPacket,
    DeviceRelayService.onTerminalInitDataStream,ctrl,unbound,acquired,ne_eq,not_true,if_false] at made ⊢
  cases key : DeviceRelayService.geoSegment cfg m.dataKey with
  | none =>
    -- A device whose key is refused has no connections.
    simp only [key,DeviceRelayService.device?,devices] at made
    split at made
    · obtain rfl := Option.some.inj made
      exact absurd rfl connected
    · exact absurd (fresh.symm.trans made) (by simp)
  | some segment =>
    simp only [key,DeviceRelayService.device?,DeviceManager.update,Storage.find?_modify,devices] at made
    split at made
    · next same =>
      simp only [if_true,Option.map_some,Option.some.injEq] at made
      subst made
      exact ⟨by simp [same],rfl,by rw [keyLocation,key]; rfl⟩
    · exact absurd (fresh.symm.trans made) (by simp)

/-! ## Reports -/

/-- The device of a connection registered under its id with one of the messages. -/
structure Enrolled (cfg : Config) (messages : List (Nat × TR.InitDataStream)) (s : DeviceRelayService keys) :
    Prop where
  nobody : s.device? 0 = none
  devices : ∀ c conn, s.conn? c = some conn → conn.deviceId ≠ 0 →
    ∃ d, s.device? conn.deviceId = some d ∧ d.deviceRuntimeId = conn.deviceId ∧
      ∃ m, (conn.deviceId,m) ∈ messages ∧ Registers cfg m d

theorem enrolled_step {messages : List (Nat × TR.InitDataStream)} (enrolled : Enrolled cfg messages s)
    (e : RelayEvent) : Enrolled cfg (messages ++ (registering cfg s e).toList) (s.step cfg e).1 := by
  have kept {id : Nat} (before : ∃ d, s.device? id = some d ∧ d.deviceRuntimeId = id ∧
      ∃ m, (id,m) ∈ messages ∧ Registers cfg m d) :
      ∃ d, (s.step cfg e).1.device? id = some d ∧ d.deviceRuntimeId = id ∧
        ∃ m, (id,m) ∈ messages ++ (registering cfg s e).toList ∧ Registers cfg m d := by
    obtain ⟨d,found,named,m,member,registers⟩ := before
    obtain ⟨deleted,still⟩ := device_stays cfg found e
    exact ⟨_,still,named,m,List.mem_append_left _ member,registers⟩
  have new (id : Nat) (d : Device) (fresh : s.device? id = none)
      (made : (s.step cfg e).1.device? id = some d) := registers_of_new fresh made
  have move := step_move cfg s e
  generalize (s.step cfg e).1 = s' at move kept new ⊢
  cases move with
  | same _ quiet =>
    refine ⟨by rw [DeviceRelayService.device?,quiet.1]; exact enrolled.nobody,fun c conn present bound => ?_⟩
    rw [quiet.2.1] at present
    exact kept (enrolled.devices c conn present bound)
  | accepted type c fresh devices connections issued =>
    refine ⟨by rw [DeviceRelayService.device?,devices]; exact enrolled.nobody,fun c' conn present bound => ?_⟩
    rw [connections] at present
    split at present
    · obtain rfl := Option.some.inj present
      exact absurd rfl bound
    · exact kept (enrolled.devices c' conn present bound)
  | released c id devices connections issued =>
    refine ⟨?_,fun c' conn present bound => ?_⟩
    · rw [devices]
      split
      · next zero => rw [← zero,enrolled.nobody]; rfl
      · exact enrolled.nobody
    · rw [connections] at present
      exact kept (enrolled.devices c' conn present bound)
  | destroyed nowMS devices connections issued =>
    refine ⟨by rw [DeviceRelayService.device?,devices]; exact enrolled.nobody,fun c conn present bound => ?_⟩
    rcases connections c with ⟨-,gone⟩ | ⟨-,same⟩
    · exact absurd (gone.symm.trans present) (by simp)
    · exact kept (enrolled.devices c conn (same ▸ present) bound)
  | streamed c requestId id m conn ctrlConn device sender type ctrl unbound room fresh nonzero
      runtimeId live devices issued outcome =>
    refine ⟨by rw [devices,if_neg nonzero.symm]; exact enrolled.nobody,fun c' conn' present bound => ?_⟩
    rcases outcome with ⟨malformed,noCtrl,noData,connections⟩ | ⟨wellFormed,toCtrl,toData,connections⟩
    · rw [connections] at present
      exact kept (enrolled.devices c' conn' present bound)
    · -- Both connections of the stream are given the new device.
      have made : s'.device? id = some device := by rw [devices,if_pos rfl]
      obtain ⟨named,m',message,registers⟩ := new id device fresh made (by simp [toCtrl])
      have known : ∃ d, s'.device? id = some d ∧ d.deviceRuntimeId = id ∧
          ∃ own, (id,own) ∈ messages ++
            (registering cfg s (.devicePacket c (.initDataStream requestId (some m)))).toList ∧
              Registers cfg own d := ⟨device,made,named,m',by simp [message],registers⟩
      rw [connections] at present
      split at present
      · obtain rfl := Option.some.inj present
        exact known
      · split at present
        · obtain rfl := Option.some.inj present
          exact known
        · exact kept (enrolled.devices c' conn' present bound)

/-- A report that comes of a registration is one of the device that is new. -/
theorem registering_of_report {c requestId : Nat} {m : TR.InitDataStream} {r : DeviceInfoUpdate}
    (reported : .report r ∈ (s.step cfg (.devicePacket c (.initDataStream requestId (some m)))).2) :
    registering cfg s (.devicePacket c (.initDataStream requestId (some m))) = some (r.relaySideDeviceKey,m) := by
  cases sender : s.conn? c with
  | none => simp [DeviceRelayService.step,DeviceConnectionManager.getConnectionById,sender] at reported
  | some conn =>
    obtain ⟨type,deviceId⟩ := conn
    simp only [registering,DeviceRelayService.step,DeviceConnectionManager.getConnectionById,sender,
      DeviceRelayService.onDevicePacket] at reported ⊢
    cases type with
    | ctrl => simp [DeviceRelayService.onCtrlPacket] at reported
    | data =>
      simp only [DeviceRelayService.onDataPacket,DeviceRelayService.onTerminalInitDataStream] at reported ⊢
      cases ctrl : s.deviceConnectionManager.getConnectionById m.ctrlId with
      | none => simp [ctrl] at reported
      | some ctrlConn =>
        by_cases bound : ctrlConn.deviceId ≠ 0
        · simp [ctrl,bound] at reported
        cases acquired : s.deviceManager.newDevice with
        | none => simp [ctrl,bound,acquired] at reported
        | some made =>
          cases key : DeviceRelayService.geoSegment cfg m.dataKey with
          | none => simp [ctrl,bound,acquired,key] at reported
          | some segment =>
            simp only [ctrl,if_neg bound,acquired,key] at reported ⊢
            obtain rfl : r = _ := by simpa using reported
            simp [Device.report]

/-- What a relay reports of a device: the name and the location of the message that registered it under
its id. -/
theorem report_registers {messages : List (Nat × TR.InitDataStream)} (enrolled : Enrolled cfg messages s)
    {e : RelayEvent} {r : DeviceInfoUpdate} (reported : .report r ∈ (s.step cfg e).2) :
    ∃ m, (r.relaySideDeviceKey,m) ∈ messages ++ (registering cfg s e).toList ∧
      r.deviceUuid = m.deviceLocalIdString ∧ keyLocation cfg m.dataKey = some r.geoInfo := by
  have origin := report_step reported
  cases origin with
  | known c conn device sender found offline =>
    have bound : conn.deviceId ≠ 0 := by
      intro zero
      rw [zero,enrolled.nobody] at found
      cases found
    obtain ⟨d,same,named,m,member,registers⟩ := enrolled.devices c conn sender bound
    obtain rfl := Option.some.inj (found.symm.trans same)
    refine ⟨m,List.mem_append_left _ ?_,registers⟩
    rw [Device.report,named]
    exact member
  | registered registers => exact ⟨_,by simp [registering_of_report reported],registers⟩

theorem enrolled_start (start : (relayMachine cfg keys).start s) : Enrolled cfg [] s := by
  obtain ⟨ticker,maxDeviceConnections,maxDevices,maxProxyConnections,maxRelayConnections,rfl⟩ := start
  refine ⟨rfl,fun c conn present _ => ?_⟩
  cases present

end MiniPP.Relay
