import MiniPP.Relay.TableMoves

/-! The relay's device table stays right exactly as long as no device is bound to the
wrong connections and no bound connection is destroyed. -/
namespace MiniPP.Relay

variable {keys : Keys}

/-! ## Coherence -/

/-- The table, with what keeps it up: each registered connection knows its device. -/
structure Coherent (s : DeviceRelayService keys) : Prop extends DeviceTable s where
  runtimeId : ∀ id d, s.device? id = some d → d.deviceRuntimeId = id
  owned : ∀ id d c conn, s.device? id = some d → d.References c → s.conn? c = some conn →
    conn.deviceId = id
  known : ∀ c conn, s.conn? c = some conn → conn.deviceId ≠ 0 →
    ∃ d, s.device? conn.deviceId = some d ∧ d.References c
  issued : ∀ id d c, s.device? id = some d → d.References c → s.Issued c

theorem getDeviceById_iff {s : DeviceRelayService keys} {id : Nat} {d : Device} :
    s.deviceManager.getDeviceById id = some d ↔ s.device? id = some d ∧ d.deleted = false := by
  simp [DeviceManager.getDeviceById,Option.filter_eq_some_iff]

theorem Bound.frame {s s' : DeviceRelayService keys} {d : Device} (bound : Bound s d)
    (kept : ∀ c conn, d.References c → s.conn? c = some conn → s'.conn? c = some conn) :
    Bound s' d := by
  obtain ⟨⟨ctrl,toCtrl,isCtrl⟩,⟨data,toData,isData⟩,distinct⟩ := bound
  exact ⟨⟨ctrl,toCtrl,kept _ _ (.inl toCtrl) isCtrl⟩,⟨data,toData,kept _ _ (.inr toData) isData⟩,distinct⟩

theorem coherent_quiet {s s' : DeviceRelayService keys} (coherent : Coherent s) (quiet : Quiet s s') :
    Coherent s' := by
  obtain ⟨devices,connections,issued⟩ := quiet
  have same : ∀ id, s'.device? id = s.device? id := fun id => by
    simp only [DeviceRelayService.device?,devices]
  refine ⟨⟨?bound,?unshared⟩,?runtimeId,?owned,?known,?issued⟩
  case bound =>
    intro id d live
    rw [devices] at live
    exact (coherent.bound id d live).frame (fun c conn _ held => (connections c).trans held)
  case unshared => simpa only [same] using coherent.unshared
  case runtimeId => simpa only [same] using coherent.runtimeId
  case owned => simpa only [same,connections] using coherent.owned
  case known => simpa only [same,connections] using coherent.known
  case issued => simpa only [same,issued] using coherent.issued

theorem coherent_accepted {s s' : DeviceRelayService keys} (coherent : Coherent s)
    {type : DeviceConnectionType} {c : Nat} (fresh : ¬ s.Issued c)
    (devices : s'.deviceManager = s.deviceManager)
    (connections : ∀ other, s'.conn? other = if other = c then some { type } else s.conn? other)
    (issued : ∀ other, s'.Issued other ↔ other = c ∨ s.Issued other) : Coherent s' := by
  have same : ∀ id, s'.device? id = s.device? id := fun id => by
    simp only [DeviceRelayService.device?,devices]
  have apart {id : Nat} {d : Device} {other : Nat} (found : s.device? id = some d)
      (refers : d.References other) : other ≠ c := by
    rintro rfl
    exact fresh (coherent.issued id d other found refers)
  refine ⟨⟨?bound,?unshared⟩,?runtimeId,?owned,?known,?issued⟩
  case bound =>
    intro id d live
    rw [devices] at live
    refine (coherent.bound id d live).frame (fun other conn refers held => ?_)
    rw [connections,if_neg (apart (getDeviceById_iff.mp live).1 refers)]
    exact held
  case unshared => simpa only [same] using coherent.unshared
  case runtimeId => simpa only [same] using coherent.runtimeId
  case owned =>
    intro id d other conn found refers held
    rw [same] at found
    rw [connections,if_neg (apart found refers)] at held
    exact coherent.owned id d other conn found refers held
  case known =>
    intro other conn held bound
    rw [connections] at held
    split at held
    · obtain rfl := Option.some.inj held
      exact absurd rfl bound
    · simpa only [same] using coherent.known other conn held bound
  case issued =>
    intro id d other found refers
    rw [same] at found
    exact (issued other).mpr (.inr (coherent.issued id d other found refers))

theorem coherent_released {s s' : DeviceRelayService keys} (coherent : Coherent s) {id : Nat}
    (devices : ∀ other, s'.device? other =
      if other = id then (s.device? id).map (fun d => { d with deleted := true }) else s.device? other)
    (connections : ∀ c, s'.conn? c = s.conn? c) (issued : ∀ c, s'.Issued c ↔ s.Issued c) :
    Coherent s' := by
  -- Releasing a device changes nothing of it but the mark.
  have before {other : Nat} {d : Device} (found : s'.device? other = some d) :
      ∃ old, s.device? other = some old ∧ d.deviceRuntimeId = old.deviceRuntimeId ∧
        (∀ c, d.References c ↔ old.References c) ∧ (d.deleted = false → d = old) := by
    rw [devices] at found
    split at found
    · rename_i here
      obtain ⟨old,known,rfl⟩ := Option.map_eq_some_iff.mp found
      exact ⟨old,here ▸ known,rfl,fun _ => Iff.rfl,fun live => absurd live (by simp)⟩
    · exact ⟨d,found,rfl,fun _ => Iff.rfl,fun _ => rfl⟩
  refine ⟨⟨?bound,?unshared⟩,?runtimeId,?owned,?known,?issued⟩
  case bound =>
    intro other d live
    obtain ⟨found,alive⟩ := getDeviceById_iff.mp live
    obtain ⟨old,known,-,-,same⟩ := before found
    obtain rfl := same alive
    exact (coherent.bound other d (getDeviceById_iff.mpr ⟨known,alive⟩)).frame
      (fun c conn _ held => (connections c).trans held)
  case unshared =>
    intro a b d d' c foundA foundB refersA refersB
    obtain ⟨oldA,knownA,-,sameA,-⟩ := before foundA
    obtain ⟨oldB,knownB,-,sameB,-⟩ := before foundB
    exact coherent.unshared a b oldA oldB c knownA knownB ((sameA c).mp refersA) ((sameB c).mp refersB)
  case runtimeId =>
    intro other d found
    obtain ⟨old,known,same,-⟩ := before found
    exact same.trans (coherent.runtimeId other old known)
  case owned =>
    intro other d c conn found refers held
    obtain ⟨old,known,-,same,-⟩ := before found
    exact coherent.owned other old c conn known ((same c).mp refers) ((connections c).symm.trans held)
  case known =>
    intro c conn held bound
    obtain ⟨d,found,refers⟩ := coherent.known c conn ((connections c).symm.trans held) bound
    by_cases here : conn.deviceId = id
    · refine ⟨{ d with deleted := true },?_,refers⟩
      rw [devices,if_pos here,← here,found]
      rfl
    · exact ⟨d,by rw [devices,if_neg here,found],refers⟩
  case issued =>
    intro other d c found refers
    obtain ⟨old,known,-,same,-⟩ := before found
    exact (issued c).mpr (coherent.issued other old c known ((same c).mp refers))

theorem coherent_destroyed {s s' : DeviceRelayService keys} (coherent : Coherent s) {due : Nat → Prop}
    (spared : ∀ id d c, s.deviceManager.getDeviceById id = some d → d.References c → ¬ due c)
    (devices : s'.deviceManager = s.deviceManager)
    (connections : ∀ c, (due c ∧ s'.conn? c = none) ∨ (¬ due c ∧ s'.conn? c = s.conn? c))
    (issued : ∀ c, s'.Issued c ↔ s.Issued c) : Coherent s' := by
  have same : ∀ id, s'.device? id = s.device? id := fun id => by
    simp only [DeviceRelayService.device?,devices]
  have left {c : Nat} {conn : DeviceConnection} (held : s'.conn? c = some conn) :
      s.conn? c = some conn := by
    rcases connections c with ⟨-,gone⟩ | ⟨-,kept⟩
    · exact absurd (gone.symm.trans held) (by simp)
    · exact kept.symm.trans held
  refine ⟨⟨?bound,?unshared⟩,?runtimeId,?owned,?known,?issued⟩
  case bound =>
    intro id d live
    rw [devices] at live
    refine (coherent.bound id d live).frame (fun c conn refers held => ?_)
    rcases connections c with ⟨isDue,-⟩ | ⟨-,kept⟩
    · exact absurd isDue (spared id d c live refers)
    · exact kept.trans held
  case unshared => simpa only [same] using coherent.unshared
  case runtimeId => simpa only [same] using coherent.runtimeId
  case owned =>
    intro id d c conn found refers held
    rw [same] at found
    exact coherent.owned id d c conn found refers (left held)
  case known =>
    intro c conn held bound
    simpa only [same] using coherent.known c conn (left held) bound
  case issued => simpa only [same,issued] using coherent.issued

/-- A new device between an unbound ctrl connection and an unbound data connection. -/
theorem coherent_bound {s s' : DeviceRelayService keys} (coherent : Coherent s) {c ctrlId id : Nat}
    {device : Device} (sender : s.conn? c = some ⟨.data,0⟩) (ctrl : s.conn? ctrlId = some ⟨.ctrl,0⟩)
    (fresh : s.device? id = none) (nonzero : id ≠ 0) (runtimeId : device.deviceRuntimeId = id)
    (toCtrl : device.ctrlConnection = some ctrlId) (toData : device.dataConnection = some c)
    (devices : ∀ other, s'.device? other = if other = id then some device else s.device? other)
    (connections : ∀ other, s'.conn? other = if other = ctrlId then some ⟨.ctrl,id⟩
      else if other = c then some ⟨.data,id⟩ else s.conn? other)
    (issued : ∀ other, s'.Issued other ↔ s.Issued other) : Coherent s' := by
  have different : c ≠ ctrlId := by
    rintro rfl
    exact absurd (sender.symm.trans ctrl) (by simp)
  have refersTo {other : Nat} : device.References other ↔ other = ctrlId ∨ other = c := by
    simp [Device.References,toCtrl,toData,eq_comm]
  have apart {other : Nat} {d : Device} {c' : Nat} (found : s.device? other = some d)
      (refers : d.References c') : c' ≠ ctrlId ∧ c' ≠ c := by
    have positive : other ≠ 0 := Storage.ne_zero_of_find? found
    constructor
    · rintro rfl
      exact positive (coherent.owned other d _ _ found refers ctrl).symm
    · rintro rfl
      exact positive (coherent.owned other d _ _ found refers sender).symm
  have atCtrl : s'.conn? ctrlId = some ⟨.ctrl,id⟩ := by rw [connections,if_pos rfl]
  have atData : s'.conn? c = some ⟨.data,id⟩ := by rw [connections,if_neg different,if_pos rfl]
  have elsewhere {other : Nat} (notCtrl : other ≠ ctrlId) (notData : other ≠ c) :
      s'.conn? other = s.conn? other := by rw [connections,if_neg notCtrl,if_neg notData]
  have cases' {other : Nat} {d : Device} (found : s'.device? other = some d) :
      (other = id ∧ d = device) ∨ (other ≠ id ∧ s.device? other = some d) := by
    rw [devices] at found
    split at found
    · rename_i here
      exact .inl ⟨here,(Option.some.inj found).symm⟩
    · rename_i there
      exact .inr ⟨there,found⟩
  refine ⟨⟨?bound,?unshared⟩,?runtimeId,?owned,?known,?issued⟩
  case bound =>
    intro other d live
    obtain ⟨found,alive⟩ := getDeviceById_iff.mp live
    rcases cases' found with ⟨rfl,rfl⟩ | ⟨-,old⟩
    · refine ⟨⟨ctrlId,toCtrl,?_⟩,⟨c,toData,?_⟩,?_⟩
      · rw [runtimeId]; exact atCtrl
      · rw [runtimeId]; exact atData
      · rw [toCtrl,toData]; exact fun same => different (Option.some.inj same).symm
    · refine (coherent.bound other d (getDeviceById_iff.mpr ⟨old,alive⟩)).frame
        (fun c' conn refers held => ?_)
      obtain ⟨notCtrl,notData⟩ := apart old refers
      exact (elsewhere notCtrl notData).trans held
  case unshared =>
    intro a b d d' c' foundA foundB refersA refersB
    rcases cases' foundA with ⟨rfl,rfl⟩ | ⟨-,oldA⟩ <;> rcases cases' foundB with ⟨rfl,rfl⟩ | ⟨-,oldB⟩
    · rfl
    · obtain ⟨notCtrl,notData⟩ := apart oldB refersB
      exact absurd (refersTo.mp refersA) (by simp [notCtrl,notData])
    · obtain ⟨notCtrl,notData⟩ := apart oldA refersA
      exact absurd (refersTo.mp refersB) (by simp [notCtrl,notData])
    · exact coherent.unshared a b d d' c' oldA oldB refersA refersB
  case runtimeId =>
    intro other d found
    rcases cases' found with ⟨rfl,rfl⟩ | ⟨-,old⟩
    · exact runtimeId
    · exact coherent.runtimeId other d old
  case owned =>
    intro other d c' conn found refers held
    rcases cases' found with ⟨rfl,rfl⟩ | ⟨-,old⟩
    · rcases refersTo.mp refers with rfl | rfl
      · rw [← Option.some.inj (atCtrl.symm.trans held)]
      · rw [← Option.some.inj (atData.symm.trans held)]
    · obtain ⟨notCtrl,notData⟩ := apart old refers
      exact coherent.owned other d c' conn old refers ((elsewhere notCtrl notData).symm.trans held)
  case known =>
    intro c' conn held bound
    by_cases isCtrl : c' = ctrlId
    · subst isCtrl
      obtain rfl := Option.some.inj (atCtrl.symm.trans held)
      exact ⟨device,by rw [devices,if_pos rfl],refersTo.mpr (.inl rfl)⟩
    · by_cases isData : c' = c
      · subst isData
        obtain rfl := Option.some.inj (atData.symm.trans held)
        exact ⟨device,by rw [devices,if_pos rfl],refersTo.mpr (.inr rfl)⟩
      · obtain ⟨d,found,refers⟩ :=
          coherent.known c' conn ((elsewhere isCtrl isData).symm.trans held) bound
        refine ⟨d,?_,refers⟩
        rw [devices,if_neg ?_,found]
        intro same
        rw [same,fresh] at found
        simp at found
  case issued =>
    intro other d c' found refers
    rw [issued]
    rcases cases' found with ⟨rfl,rfl⟩ | ⟨-,old⟩
    · rcases refersTo.mp refers with rfl | rfl
      · exact TimedPool.issued_of_get? ctrl
      · exact TimedPool.issued_of_get? sender
    · exact coherent.issued other d c' old refers

/-- A sound event keeps the relay coherent. -/
theorem move_coherent {cfg : Config} {s s' : DeviceRelayService keys} {e : RelayEvent}
    (coherent : Coherent s) (move : TableMove cfg s e s') (sound : Sound cfg s e) : Coherent s' := by
  cases move with
  | same _ quiet => exact coherent_quiet coherent quiet
  | accepted type c fresh devices connections issued =>
    exact coherent_accepted coherent fresh devices connections issued
  | streamed c requestId id m conn ctrlConn device sender type ctrl unbound room fresh nonzero
      runtimeId live devices issued outcome =>
    obtain ⟨wellFormed,ctrlType,free⟩ := sound conn ctrlConn sender type ctrl unbound room
    rcases outcome with ⟨malformed,-⟩ | ⟨-,toCtrl,toData,connections⟩
    · simp [malformed] at wellFormed
    · obtain ⟨_,_⟩ := conn
      obtain ⟨_,_⟩ := ctrlConn
      subst type unbound ctrlType free
      exact coherent_bound coherent sender ctrl fresh nonzero runtimeId toCtrl toData devices
        connections issued
  | released c id devices connections issued =>
    exact coherent_released coherent devices connections issued
  | destroyed nowMS devices connections issued =>
    exact coherent_destroyed coherent sound devices connections issued

/-- An event that is not sound leaves a table that is not one. -/
theorem move_sound {cfg : Config} {s s' : DeviceRelayService keys} {e : RelayEvent}
    (coherent : Coherent s) (move : TableMove cfg s e s') (table : DeviceTable s') :
    Sound cfg s e := by
  cases move with
  | same sound _ => exact sound
  | accepted type c fresh devices connections issued => trivial
  | streamed c requestId id m conn ctrlConn device sender type ctrl unbound room fresh nonzero
      runtimeId live devices issued outcome =>
    have found : s'.device? id = some device := by rw [devices,if_pos rfl]
    obtain ⟨⟨ctrlId,toCtrl',isCtrl⟩,-,-⟩ :=
      table.bound id device (getDeviceById_iff.mpr ⟨found,live⟩)
    rcases outcome with ⟨-,noCtrl,-⟩ | ⟨wellFormed,toCtrl,toData,connections⟩
    · exact absurd (noCtrl.symm.trans toCtrl') (by simp)
    · intro conn' ctrlConn' sender' _ ctrl' _ _
      obtain rfl := Option.some.inj (sender.symm.trans sender')
      obtain rfl := Option.some.inj (ctrl.symm.trans ctrl')
      obtain rfl := Option.some.inj (toCtrl.symm.trans toCtrl')
      refine ⟨wellFormed,?_,?_⟩
      · rw [connections,if_pos rfl] at isCtrl
        exact congrArg DeviceConnection.type (Option.some.inj isCtrl)
      · -- A sender bound before is now referenced by its old device and by the new one.
        apply Classical.byContradiction
        intro bound
        obtain ⟨old,known,refers⟩ := coherent.known c conn sender bound
        have other : conn.deviceId ≠ id := by
          intro same
          rw [same,fresh] at known
          simp at known
        exact other (table.unshared _ _ old device c (by rw [devices,if_neg other,known]) found refers
          (.inr toData))
  | released c id devices connections issued => trivial
  | destroyed nowMS devices connections issued =>
    intro id d c live refers due
    have gone : s'.conn? c = none := by
      rcases connections c with ⟨-,gone⟩ | ⟨notDue,-⟩
      · exact gone
      · exact absurd due notDue
    obtain ⟨⟨ctrl,toCtrl,isCtrl⟩,⟨data,toData,isData⟩,-⟩ := table.bound id d (by rw [devices]; exact live)
    rcases refers with refers | refers
    · obtain rfl := Option.some.inj (toCtrl.symm.trans refers)
      exact absurd (gone.symm.trans isCtrl) (by simp)
    · obtain rfl := Option.some.inj (toData.symm.trans refers)
      exact absurd (gone.symm.trans isData) (by simp)

/-! ## What is posted -/

/-- A message posted through a pointer that leads to no connection. -/
def RelayAction.Dangling : RelayAction → Prop
  | .useAfterFree _ _ | .nullConnection _ => True
  | _ => False

/-- The message, where the action is to post one to a device. -/
def RelayAction.posted : RelayAction → Option TR.Message
  | .toDevice _ m | .useAfterFree _ m | .nullConnection m => some m
  | _ => none

/-- What is posted without a device's pointers and without an id of the device's side. -/
def RelayAction.Plain (a : RelayAction) : Prop :=
  ¬ a.Dangling ∧ ∀ m ∈ a.posted, m.deviceSideId = none

theorem post_registered {s : DeviceRelayService keys} {pointer : Option Nat}
    {type : DeviceConnectionType} {id : Nat} (holds : Holds s pointer type id) (m : TR.Message) :
    ∀ a ∈ s.post pointer m, ¬ a.Dangling := by
  obtain ⟨c,rfl,registered⟩ := holds
  have found : s.deviceConnectionManager.getConnectionById c = some ⟨type,id⟩ := registered
  simp [DeviceRelayService.post,found,RelayAction.Dangling]

theorem ctrlPacket_plain (cfg : Config) (s : DeviceRelayService keys) (c : Nat)
    (packet : DevicePacket) : ∀ a ∈ (s.onCtrlPacket cfg c packet).actions, a.Plain := by
  cases packet with
  | initCtrlStream requestId m =>
    cases m <;> simp [DeviceRelayService.onCtrlPacket,DeviceRelayService.onTerminalInitCtrlStream,
      RelayAction.Plain,RelayAction.Dangling,RelayAction.posted,TR.Message.deviceSideId]
  | dnsQueryResp requestId m =>
    simp only [DeviceRelayService.onCtrlPacket,DeviceRelayService.onTerminalDnsQueryResp]
    repeat' split
    all_goals simp [RelayAction.Plain,RelayAction.Dangling,RelayAction.posted,TR.Message.deviceSideId]
  | _ => simp [DeviceRelayService.onCtrlPacket]

theorem dataPacket_plain (cfg : Config) (s : DeviceRelayService keys) (c : Nat)
    (packet : DevicePacket) : ∀ a ∈ (s.onDataPacket cfg c packet).actions, a.Plain := by
  cases packet with
  | initDataStream requestId m =>
    simp only [DeviceRelayService.onDataPacket,DeviceRelayService.onTerminalInitDataStream]
    repeat' split
    all_goals simp [RelayAction.Plain,RelayAction.Dangling,RelayAction.posted,TR.Message.deviceSideId]
  | notifyConnectionState m =>
    simp only [DeviceRelayService.onDataPacket,DeviceRelayService.onTerminalTargetConnectionUpdate]
    repeat' split
    all_goals simp [RelayAction.Plain,RelayAction.Dangling,RelayAction.posted,TR.Message.deviceSideId]
  | postData m =>
    simp only [DeviceRelayService.onDataPacket,DeviceRelayService.onTerminalPostData]
    repeat' split
    all_goals simp [RelayAction.Plain,RelayAction.Dangling,RelayAction.posted,TR.Message.deviceSideId]
  | _ => simp [DeviceRelayService.onDataPacket]

theorem devicePacket_plain (cfg : Config) (s : DeviceRelayService keys) (c : Nat)
    (conn : DeviceConnection) (packet : DevicePacket) :
    ∀ a ∈ (s.onDevicePacket cfg c conn packet).actions, a.Plain := by
  unfold DeviceRelayService.onDevicePacket
  split
  · simp only [DeviceRelayService.onDeviceKeepAlive,DeviceRelayService.reportDeviceOnState]
    repeat' split
    all_goals simp [RelayAction.Plain,RelayAction.Dangling,RelayAction.posted,TR.Message.deviceSideId]
  · split
    · exact ctrlPacket_plain cfg s c packet
    · exact dataPacket_plain cfg s c packet

/-- What a proxy's packet makes the relay post goes through the pointers of a live device. -/
theorem proxyData_registered {s : DeviceRelayService keys} (table : DeviceTable s) (cfg : Config)
    (p : Nat) (packet : ProxyPacket) :
    ∀ a ∈ (s.onProxyData cfg p packet).actions, ¬ a.Dangling := by
  cases packet with
  | keepAlive => simp [DeviceRelayService.onProxyData,RelayAction.Dangling]
  | message m =>
    simp only [DeviceRelayService.onProxyData,DeviceRelayService.onProxyPacket]
    split
    · simp [DeviceRelayService.onProxyChallenge,RelayAction.Dangling]
    · unfold DeviceRelayService.onProxyCreateConnection
      split
      · simp [RelayAction.Dangling]
      · rename_i d live
        have ctrl := (table.bound _ d live).ctrl
        dsimp only
        split
        · simp [RelayAction.Dangling]
        · split
          · exact post_registered ctrl _
          · split
            · exact post_registered ctrl _
            · simp
    · unfold DeviceRelayService.onProxyDestroyConnection
      repeat' split
      · simp
      · simp
      · rename_i d live
        exact post_registered (table.bound _ d live).data _
    · unfold DeviceRelayService.onProxyPushData
      repeat' split
      · simp
      · simp
      · simp
      · rename_i d live
        exact post_registered (table.bound _ d live).data _
    · unfold DeviceRelayService.onProxyNotifyConnectionState
      repeat' split
      · simp
      · simp
      · rename_i d live
        exact post_registered (table.bound _ d live).data _
    · simp
    · simp

theorem step_registered {s : DeviceRelayService keys} (table : DeviceTable s) (cfg : Config)
    (e : RelayEvent) : ∀ a ∈ (s.step cfg e).2, ¬ a.Dangling := by
  intro a member
  rcases step_actions member with unasked | ⟨c,conn,packet,-,-,handled⟩ | ⟨p,-,packet,-,-,handled⟩
  · cases a <;> simp_all [RelayAction.Unasked,RelayAction.Dangling]
  · exact (devicePacket_plain cfg s c conn packet a handled).1
  · exact proxyData_registered table cfg p packet a handled

/-! ## Runs -/

variable {cfg : Config}

theorem coherent_init (ticker maxDeviceConnections maxDevices maxProxyConnections
    maxRelayConnections : Nat) :
    Coherent (DeviceRelayService.init keys ticker maxDeviceConnections maxDevices
      maxProxyConnections maxRelayConnections) := by
  let s : DeviceRelayService keys := .init keys ticker maxDeviceConnections maxDevices
    maxProxyConnections maxRelayConnections
  have noDevice (id : Nat) : s.device? id = none := rfl
  have noConnection (c : Nat) : s.conn? c = none := rfl
  refine ⟨⟨?bound,?unshared⟩,?runtimeId,?owned,?known,?issued⟩
  case bound =>
    intro id d live
    exact absurd ((noDevice id).symm.trans (getDeviceById_iff.mp live).1) (by simp)
  case unshared => exact fun id _ d _ _ found => absurd ((noDevice id).symm.trans found) (by simp)
  case runtimeId => exact fun id d found => absurd ((noDevice id).symm.trans found) (by simp)
  case owned => exact fun id d _ _ found => absurd ((noDevice id).symm.trans found) (by simp)
  case known => exact fun c conn found => absurd ((noConnection c).symm.trans found) (by simp)
  case issued => exact fun id d _ found => absurd ((noDevice id).symm.trans found) (by simp)

theorem device_table_run {s : DeviceRelayService keys} {log : List RelayAction}
    (reach : (relayMachine cfg keys).Reach (fun s _ e => Sound cfg s e) s log) :
    Coherent s ∧ ∀ a ∈ log, ¬ a.Dangling := by
  apply reach.invariant (I := fun s log => Coherent s ∧ ∀ a ∈ log, ¬ a.Dangling)
  · rintro s ⟨ticker,_,_,_,_,rfl⟩
    exact ⟨coherent_init _ _ _ _ _,by simp⟩
  · rintro s log e - sound ⟨coherent,safe⟩
    refine ⟨move_coherent coherent (step_move cfg s e) sound,fun a member => ?_⟩
    rcases List.mem_append.mp member with old | new
    · exact safe a old
    · exact step_registered coherent.toDeviceTable cfg e a new

/-- As long as every event is sound, the device table is right and nothing is posted through
a dangling pointer; and the first event that is not sound breaks the table. -/
theorem device_table_sound {s : DeviceRelayService keys} {log : List RelayAction}
    (reach : (relayMachine cfg keys).Reach (fun s _ e => Sound cfg s e) s log) :
    DeviceTable s ∧ (∀ a ∈ log, ¬ a.Dangling) ∧
      ∀ e, DeviceTable (s.step cfg e).1 ↔ Sound cfg s e := by
  obtain ⟨coherent,safe⟩ := device_table_run reach
  refine ⟨coherent.toDeviceTable,safe,fun e => ⟨?_,?_⟩⟩
  · exact move_sound coherent (step_move cfg s e)
  · exact fun sound => (move_coherent coherent (step_move cfg s e) sound).toDeviceTable

theorem registration_reach : (relayMachine referenceConfig .sequential).Reach
    (fun s _ e => Sound referenceConfig s e)
    (after (registration ++ [.deviceConnectionTick 1000500])).1
    (after (registration ++ [.deviceConnectionTick 1000500])).2 := by
  have start : (relayMachine referenceConfig .sequential).Reach
      (fun s _ e => Sound referenceConfig s e) smallRelay [] := .start ⟨_,_,_,_,_,rfl⟩
  refine start.run _ ⟨trivial,trivial,trivial,?_,?_,trivial⟩
  · intro conn ctrlConn sender _ ctrl _ _
    obtain rfl : (⟨.data,0⟩ : DeviceConnection) = conn := Option.some.inj (sender ▸ rfl)
    obtain rfl : (⟨.ctrl,0⟩ : DeviceConnection) = ctrlConn := Option.some.inj (ctrl ▸ rfl)
    exact ⟨by decide,rfl,rfl⟩
  · intro id d c _ _ due
    have none : DeviceConnectionManager.idleConnections
        ((after registration).1.deviceConnectionManager.setTicker 1000500) = [] := by decide
    have listed := mem_idleConnections.mpr due
    exact absurd (none ▸ listed) (by simp)

theorem device_table_sound_registration :
    DeviceTable (after (registration ++ [.deviceConnectionTick 1000500])).1 :=
  (device_table_sound registration_reach).1

/-- The data connection is closed and destroyed; its device stays, and what a proxy sends to
it is posted through the destroyed connection. -/
theorem closed_data_connection_dangles :
    ¬ ∀ s log, (relayMachine referenceConfig .sequential).Reach Machine.anything s log →
      DeviceTable s ∧ ∀ a ∈ log, ¬ a.Dangling := by
  intro always
  let es : List RelayEvent := registration ++ opening ++ [.devicePeerClose 2,
    .deviceConnectionTick 1000001,.proxyPacket 1 (.message (some (.postData ⟨7,1,[1]⟩)))]
  have posted : .useAfterFree 2 (.postData ⟨80,1,[1]⟩) ∈ (after es).2 := by decide
  exact (always _ _ (after_reach es)).2 _ posted trivial

end MiniPP.Relay
