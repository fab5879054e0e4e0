import MiniPP.Relay.Service

/-! The relay's device table: the pointers between devices and their connections, and the
few moves that the events make on it. -/
namespace MiniPP.Relay

variable {keys : Keys}

abbrev DeviceRelayService.conn? (s : DeviceRelayService keys) (c : Nat) : Option DeviceConnection :=
  s.deviceConnectionManager.get? c

/-- Devices of the pool, released ones included. -/
abbrev DeviceRelayService.device? (s : DeviceRelayService keys) (id : Nat) : Option Device :=
  s.deviceManager.devicePool.find? id

abbrev DeviceRelayService.Issued (s : DeviceRelayService keys) (c : Nat) : Prop :=
  s.deviceConnectionManager.members.Issued c

def Device.References (d : Device) (c : Nat) : Prop :=
  d.ctrlConnection = some c ∨ d.dataConnection = some c

/-- The pointer leads to a registered connection of this type and device. -/
def Holds (s : DeviceRelayService keys) (pointer : Option Nat) (type : DeviceConnectionType)
    (deviceId : Nat) : Prop :=
  ∃ c, pointer = some c ∧ s.conn? c = some ⟨type,deviceId⟩

structure Bound (s : DeviceRelayService keys) (d : Device) : Prop where
  ctrl : Holds s d.ctrlConnection .ctrl d.deviceRuntimeId
  data : Holds s d.dataConnection .data d.deviceRuntimeId
  distinct : d.ctrlConnection ≠ d.dataConnection

/-- Devices that can be looked up are bound, and no connection is shared. -/
structure DeviceTable (s : DeviceRelayService keys) : Prop where
  bound : ∀ id d, s.deviceManager.getDeviceById id = some d → Bound s d
  unshared : ∀ id id' d d' c, s.device? id = some d → s.device? id' = some d' →
    d.References c → d'.References c → id = id'

/-- The connection is about to be destroyed: it was given up, or no connection of its list
up to it was heard of in time. -/
def Due (m : DeviceConnectionManager keys.deviceConnection) (c : Nat) : Prop :=
  c ∈ m.doomed ∨
    m.Lapsed m.newcomers (sub64 m.ticker DeviceConnectionManager.newConnectionTimeoutMS) c ∨
    m.Lapsed m.idle (sub64 m.ticker DeviceConnectionManager.idleTimeoutMS) c

/-- A data stream that gets as far as a new device names an idle ctrl connection, comes on an
unbound data connection and has a well-formed key; and no tick finds a bound connection due. -/
def Sound (cfg : Config) (s : DeviceRelayService keys) : RelayEvent → Prop
  | .devicePacket c (.initDataStream _ (some m)) =>
    ∀ conn ctrlConn, s.conn? c = some conn → conn.type = .data → s.conn? m.ctrlId = some ctrlConn →
      ctrlConn.deviceId = 0 → s.deviceManager.newDevice ≠ none →
      (DeviceRelayService.geoSegment cfg m.dataKey).isSome ∧ ctrlConn.type = .ctrl ∧ conn.deviceId = 0
  | .deviceConnectionTick nowMS =>
    ∀ id d c, s.deviceManager.getDeviceById id = some d → d.References c →
      ¬ Due (s.deviceConnectionManager.setTicker nowMS) c
  | _ => True

theorem mem_idleConnections {m : DeviceConnectionManager keys.deviceConnection} {c : Nat} :
    c ∈ DeviceConnectionManager.idleConnections m ↔ Due m c := by
  simp [DeviceConnectionManager.idleConnections,TimedPool.expired,Due,TimedPool.mem_timedOut]

/-! ## The moves on the table -/

/-- What only touches the lists and timestamps of the device connections. -/
def Quiet (s s' : DeviceRelayService keys) : Prop :=
  s'.deviceManager = s.deviceManager ∧ (∀ c, s'.conn? c = s.conn? c) ∧ ∀ c, s'.Issued c ↔ s.Issued c

theorem Quiet.refl (s : DeviceRelayService keys) : Quiet s s := ⟨rfl,fun _ => rfl,fun _ => Iff.rfl⟩

/-- What one event does to devices and their connections. -/
inductive TableMove (cfg : Config) (s : DeviceRelayService keys) :
    RelayEvent → DeviceRelayService keys → Prop where
  | same {e : RelayEvent} {s' : DeviceRelayService keys} (sound : Sound cfg s e) (quiet : Quiet s s') :
      TableMove cfg s e s'
  | accepted {s' : DeviceRelayService keys} (type : DeviceConnectionType) (c : Nat)
      (fresh : ¬ s.Issued c) (devices : s'.deviceManager = s.deviceManager)
      (connections : ∀ other, s'.conn? other = if other = c then some { type } else s.conn? other)
      (issued : ∀ other, s'.Issued other ↔ other = c ∨ s.Issued other) :
      TableMove cfg s (.newDeviceConnection type) s'
  | streamed {s' : DeviceRelayService keys} (c requestId id : Nat) (m : TR.InitDataStream)
      (conn ctrlConn : DeviceConnection) (device : Device) (sender : s.conn? c = some conn)
      (type : conn.type = .data) (ctrl : s.conn? m.ctrlId = some ctrlConn)
      (unbound : ctrlConn.deviceId = 0) (room : s.deviceManager.newDevice ≠ none)
      (fresh : s.device? id = none) (nonzero : id ≠ 0) (runtimeId : device.deviceRuntimeId = id)
      (live : device.deleted = false)
      (devices : ∀ other, s'.device? other = if other = id then some device else s.device? other)
      (issued : ∀ other, s'.Issued other ↔ s.Issued other)
      (outcome :
        (DeviceRelayService.geoSegment cfg m.dataKey = none ∧
          device.ctrlConnection = none ∧ device.dataConnection = none ∧
          ∀ other, s'.conn? other = s.conn? other) ∨
        ((DeviceRelayService.geoSegment cfg m.dataKey).isSome ∧
          device.ctrlConnection = some m.ctrlId ∧ device.dataConnection = some c ∧
          ∀ other, s'.conn? other =
            if other = m.ctrlId then some { ctrlConn with deviceId := id }
            else if other = c then some { conn with deviceId := id } else s.conn? other)) :
      TableMove cfg s (.devicePacket c (.initDataStream requestId (some m))) s'
  | released {s' : DeviceRelayService keys} (c id : Nat)
      (devices : ∀ other, s'.device? other =
        if other = id then (s.device? id).map (fun d => { d with deleted := true }) else s.device? other)
      (connections : ∀ c, s'.conn? c = s.conn? c) (issued : ∀ c, s'.Issued c ↔ s.Issued c) :
      TableMove cfg s (.devicePeerClose c) s'
  | destroyed {s' : DeviceRelayService keys} (nowMS : Nat)
      (devices : s'.deviceManager = s.deviceManager)
      (connections : ∀ c,
        (Due (s.deviceConnectionManager.setTicker nowMS) c ∧ s'.conn? c = none) ∨
        (¬ Due (s.deviceConnectionManager.setTicker nowMS) c ∧
          s'.conn? c = s.conn? c))
      (issued : ∀ c, s'.Issued c ↔ s.Issued c) :
      TableMove cfg s (.deviceConnectionTick nowMS) s'

theorem quiet_keepAlive (s : DeviceRelayService keys) (c : Nat) :
    Quiet s { s with deviceConnectionManager := s.deviceConnectionManager.keepAlive c } :=
  ⟨rfl,fun _ => TimedPool.get?_keepAlive _ _ _,fun _ => TimedPool.issued_keepAlive _ _ _⟩

theorem quiet_giveUp (s : DeviceRelayService keys) (c : Nat) :
    Quiet s { s with deviceConnectionManager := s.deviceConnectionManager.deferReleaseConnection c } :=
  ⟨rfl,fun _ => TimedPool.get?_giveUp _ _ _,fun _ => TimedPool.issued_giveUp _ _ _⟩

theorem TableMove.unchanged {cfg : Config} {s : DeviceRelayService keys} {e : RelayEvent}
    (sound : Sound cfg s e) : TableMove cfg s e s :=
  .same sound (.refl s)

theorem newDevice_spec {m : DeviceManager keys.device} {m' : DeviceManager keys.device} {id : Nat}
    (new : m.newDevice = some (id,m')) :
    id ≠ 0 ∧ m.devicePool.find? id = none ∧ ∀ other, m'.devicePool.find? other =
      if other = id then some { deviceRuntimeId := id } else m.devicePool.find? other := by
  obtain ⟨⟨key,pool⟩,acquired,same⟩ := Option.map_eq_some_iff.mp new
  obtain ⟨rfl,rfl⟩ := Prod.mk.inj same
  refine ⟨?_,(Storage.acquired_fresh acquired).1,Storage.find?_acquire acquired⟩
  have found := Storage.find?_acquire acquired key
  exact Storage.ne_zero_of_find? (by rw [found,if_pos rfl])

/-- The lookups after both ends of a data stream were given their device. -/
theorem conn_bound (m : DeviceConnectionManager keys.deviceConnection) (c ctrlId id other : Nat)
    {conn ctrlConn : DeviceConnection} (sender : m.get? c = some conn)
    (ctrl : m.get? ctrlId = some ctrlConn) :
    (((m.setDeviceId c id).setDeviceId ctrlId id).keepAlive c).get? other =
      if other = ctrlId then some { ctrlConn with deviceId := id }
      else if other = c then some { conn with deviceId := id } else m.get? other := by
  simp only [DeviceConnectionManager.keepAlive,DeviceConnectionManager.setDeviceId,
    TimedPool.get?_keepAlive,TimedPool.get?_modify]
  by_cases atCtrl : other = ctrlId
  · subst atCtrl
    by_cases same : other = c
    · subst same
      simp [sender,Option.some.inj (sender.symm.trans ctrl)]
    · simp [same,ctrl]
  · by_cases atData : other = c
    · subst atData
      simp [atCtrl,sender]
    · simp [atCtrl,atData]

/-- What comes of a packet that starts a data stream. Behind a device that was made, a key that
does not parse is refused with nothing undone. -/
inductive StreamOutcome (cfg : Config) (s : DeviceRelayService keys) (c : Nat) (conn : DeviceConnection)
    (payload : Option TR.InitDataStream) (handled : Handled keys) : Prop where
  | refused (accepted : handled.accepted = false) (quiet : Quiet s handled.relay)
      (early : ∀ m ctrlConn, payload = some m → s.conn? m.ctrlId = some ctrlConn →
        ctrlConn.deviceId = 0 → s.deviceManager.newDevice = none)
  | malformed (m : TR.InitDataStream) (ctrlConn : DeviceConnection) (id : Nat) (decoded : payload = some m)
      (ctrl : s.conn? m.ctrlId = some ctrlConn) (unbound : ctrlConn.deviceId = 0)
      (room : s.deviceManager.newDevice ≠ none)
      (key : DeviceRelayService.geoSegment cfg m.dataKey = none) (accepted : handled.accepted = false)
      (fresh : s.device? id = none) (nonzero : id ≠ 0)
      (devices : ∀ other, handled.relay.device? other =
        if other = id then some { deviceRuntimeId := id } else s.device? other)
      (connections : handled.relay.deviceConnectionManager = s.deviceConnectionManager)
  | bound (m : TR.InitDataStream) (ctrlConn : DeviceConnection) (id : Nat) (device : Device)
      (decoded : payload = some m) (ctrl : s.conn? m.ctrlId = some ctrlConn)
      (unbound : ctrlConn.deviceId = 0) (room : s.deviceManager.newDevice ≠ none)
      (key : (DeviceRelayService.geoSegment cfg m.dataKey).isSome) (accepted : handled.accepted = true)
      (fresh : s.device? id = none) (nonzero : id ≠ 0) (runtimeId : device.deviceRuntimeId = id)
      (live : device.deleted = false) (toCtrl : device.ctrlConnection = some m.ctrlId)
      (toData : device.dataConnection = some c)
      (devices : ∀ other, handled.relay.device? other = if other = id then some device else s.device? other)
      (issued : ∀ other, handled.relay.Issued other ↔ s.Issued other)
      (connections : ∀ other, handled.relay.conn? other =
        if other = m.ctrlId then some { ctrlConn with deviceId := id }
        else if other = c then some { conn with deviceId := id } else s.conn? other)

theorem initDataStream_outcome (cfg : Config) (s : DeviceRelayService keys) (c requestId : Nat)
    (payload : Option TR.InitDataStream) {conn : DeviceConnection} (sender : s.conn? c = some conn) :
    StreamOutcome cfg s c conn payload (s.onTerminalInitDataStream cfg c requestId payload) := by
  unfold DeviceRelayService.onTerminalInitDataStream
  split
  · exact .refused rfl (.refl s) (fun _ _ decoded => nomatch decoded)
  · rename_i m
    split
    · rename_i unknown
      refine .refused rfl (.refl s) ?_
      rintro _ ctrlConn ⟨⟩ ctrl
      exact absurd (unknown.symm.trans ctrl) (by simp)
    · rename_i ctrlConn ctrl
      split
      · rename_i bound
        refine .refused rfl (.refl s) ?_
        rintro _ other ⟨⟩ found unbound
        obtain rfl := Option.some.inj (ctrl.symm.trans found)
        exact absurd unbound bound
      · rename_i unbound
        have unbound : ctrlConn.deviceId = 0 := by simpa using unbound
        split
        · rename_i full
          exact .refused rfl (quiet_giveUp s m.ctrlId) (fun _ _ _ _ _ => full)
        · rename_i id manager new
          obtain ⟨nonzero,fresh,devices⟩ := newDevice_spec new
          have room : s.deviceManager.newDevice ≠ none := by simp [new]
          split
          · rename_i malformed
            exact .malformed m ctrlConn id rfl ctrl unbound room malformed rfl fresh nonzero devices rfl
          · rename_i segment wellFormed
            refine .bound m ctrlConn id
              { deviceRuntimeId := id
                ctrlConnection := some m.ctrlId
                dataConnection := some c
                deviceLocalIdString := m.deviceLocalIdString
                geoInfo := DeviceRelayService.geoInfo cfg (cfg.xel.hexToStr segment) }
              rfl ctrl unbound room (by simp [wellFormed]) rfl fresh nonzero rfl rfl rfl rfl
              ?devices ?issued ?connections
            case devices =>
              intro other
              simp only [DeviceRelayService.device?,DeviceManager.update,Storage.find?_modify,devices]
              split <;> simp
            case issued =>
              intro other
              simp [DeviceRelayService.Issued,DeviceConnectionManager.keepAlive,
                DeviceConnectionManager.setDeviceId]
            case connections =>
              exact fun other => conn_bound _ c m.ctrlId id other sender ctrl

theorem move_initDataStream (cfg : Config) (s : DeviceRelayService keys) (c requestId : Nat)
    (payload : Option TR.InitDataStream) (conn : DeviceConnection) (sender : s.conn? c = some conn)
    (type : conn.type = .data) :
    TableMove cfg s (.devicePacket c (.initDataStream requestId payload))
      (s.onTerminalInitDataStream cfg c requestId payload).relay := by
  have outcome := initDataStream_outcome cfg s c requestId payload sender
  cases outcome with
  | refused accepted quiet early =>
    refine .same ?_ quiet
    cases payload with
    | none => trivial
    | some m =>
      intro _ ctrlConn _ _ ctrl unbound room
      exact absurd (early m ctrlConn rfl ctrl unbound) room
  | malformed m ctrlConn id decoded ctrl unbound room key accepted fresh nonzero devices connections =>
    subst decoded
    refine .streamed c requestId id m conn ctrlConn { deviceRuntimeId := id } sender type ctrl unbound room
      fresh nonzero rfl rfl devices ?_ (.inl ⟨key,rfl,rfl,?_⟩)
    · intro other
      simp only [DeviceRelayService.Issued,connections]
    · intro other
      simp only [DeviceRelayService.conn?,connections]
  | bound m ctrlConn id device decoded ctrl unbound room key accepted fresh nonzero runtimeId live toCtrl
      toData devices issued connections =>
    subst decoded
    exact .streamed c requestId id m conn ctrlConn device sender type ctrl unbound room fresh nonzero
      runtimeId live devices issued (.inr ⟨key,toCtrl,toData,connections⟩)

/-! ## Packets -/

theorem onDevicePacket_dispatch (cfg : Config) (s : DeviceRelayService keys) (c : Nat)
    (conn : DeviceConnection) (packet : DevicePacket) (notAlive : packet ≠ .keepAlive) :
    s.onDevicePacket cfg c conn packet = match conn.type with
      | .ctrl => s.onCtrlPacket cfg c packet
      | .data => s.onDataPacket cfg c packet := by
  cases packet with
  | keepAlive => exact absurd rfl notAlive
  | _ => rfl

/-- What a packet of a device does to the relay. -/
inductive DevicePacketMove (cfg : Config) (s : DeviceRelayService keys) (c : Nat)
    (conn : DeviceConnection) : DevicePacket → DeviceRelayService keys → Prop where
  | same (packet : DevicePacket) : DevicePacketMove cfg s c conn packet s
  | keepAlive (packet : DevicePacket) : DevicePacketMove cfg s c conn packet
      { s with deviceConnectionManager := s.deviceConnectionManager.keepAlive c }
  | initDataStream (requestId : Nat) (m : Option TR.InitDataStream) (type : conn.type = .data) :
      DevicePacketMove cfg s c conn (.initDataStream requestId m)
        (s.onTerminalInitDataStream cfg c requestId m).relay
  | connectionUpdate (m : Option TR.ConnectionStateNotify) (type : conn.type = .data) :
      DevicePacketMove cfg s c conn (.notifyConnectionState m)
        (s.onTerminalTargetConnectionUpdate m).relay

theorem relay_postData (s : DeviceRelayService keys) (m : Option TR.PostData) :
    (s.onTerminalPostData m).relay = s := by
  unfold DeviceRelayService.onTerminalPostData
  cases m with
  | none => rfl
  | some m =>
    dsimp only
    repeat' split
    all_goals rfl

theorem relay_dnsQueryResp (cfg : Config) (s : DeviceRelayService keys) (c requestId : Nat)
    (m : Option TR.DnsQueryResp) : (s.onTerminalDnsQueryResp cfg c requestId m).relay = s := by
  unfold DeviceRelayService.onTerminalDnsQueryResp
  cases m with
  | none => rfl
  | some m =>
    dsimp only
    repeat' split
    all_goals rfl

theorem devicePacket_move (cfg : Config) (s : DeviceRelayService keys) (c : Nat)
    (conn : DeviceConnection) (packet : DevicePacket) :
    DevicePacketMove cfg s c conn packet (s.onDevicePacket cfg c conn packet).relay := by
  by_cases alive : packet = .keepAlive
  · subst alive
    exact .keepAlive _
  · rw [onDevicePacket_dispatch cfg s c conn packet alive]
    cases type : conn.type with
    | ctrl =>
      cases packet with
      | initCtrlStream requestId m =>
        cases m with
        | none => exact .same _
        | some m => exact .keepAlive _
      | dnsQueryResp requestId m =>
        simp only [DeviceRelayService.onCtrlPacket,relay_dnsQueryResp]
        exact .same _
      | _ => exact .same _
    | data =>
      cases packet with
      | initDataStream requestId m => exact .initDataStream requestId m type
      | notifyConnectionState m => exact .connectionUpdate m type
      | postData m =>
        simp only [DeviceRelayService.onDataPacket,relay_postData]
        exact .same _
      | _ => exact .same _

/-- What a packet of a proxy-access server does to the relay. -/
inductive ProxyPacketMove (cfg : Config) (s : DeviceRelayService keys) (p : Nat) :
    ProxyPacket → DeviceRelayService keys → Prop where
  | same (packet : ProxyPacket) : ProxyPacketMove cfg s p packet s
  | keepAlive : ProxyPacketMove cfg s p .keepAlive
      { s with proxyConnectionManager := s.proxyConnectionManager.keepAlive p }
  | challenge : ProxyPacketMove cfg s p (.message (some .challenge)) (s.onProxyChallenge p).relay
  | createConnection (m : PR.CreateConnection) :
      ProxyPacketMove cfg s p (.message (some (.createConnection m)))
        (s.onProxyCreateConnection cfg p m).relay

theorem relay_destroyConnection (s : DeviceRelayService keys) (m : PR.DestroyConnection) :
    (s.onProxyDestroyConnection m).relay = s := by
  unfold DeviceRelayService.onProxyDestroyConnection
  repeat' split
  all_goals rfl

theorem relay_pushData (s : DeviceRelayService keys) (m : PR.PushData) :
    (s.onProxyPushData m).relay = s := by
  unfold DeviceRelayService.onProxyPushData
  repeat' split
  all_goals rfl

theorem relay_notifyConnectionState (s : DeviceRelayService keys) (m : PR.ConnectionStateNotify) :
    (s.onProxyNotifyConnectionState m).relay = s := by
  unfold DeviceRelayService.onProxyNotifyConnectionState
  repeat' split
  all_goals rfl

theorem proxyPacket_move (cfg : Config) (s : DeviceRelayService keys) (p : Nat) (packet : ProxyPacket) :
    ProxyPacketMove cfg s p packet (s.onProxyData cfg p packet).relay := by
  rcases packet with _ | _ | m
  · exact .keepAlive
  · exact .same _
  · cases m with
    | challenge => exact .challenge
    | challengeResp _ => exact .same _
    | createConnection m => exact .createConnection m
    | destroyConnection m =>
      simp only [DeviceRelayService.onProxyData,DeviceRelayService.onProxyPacket,relay_destroyConnection]
      exact .same _
    | postData m =>
      simp only [DeviceRelayService.onProxyData,DeviceRelayService.onProxyPacket,relay_pushData]
      exact .same _
    | notifyConnectionState m =>
      simp only [DeviceRelayService.onProxyData,DeviceRelayService.onProxyPacket,
        relay_notifyConnectionState]
      exact .same _

/-- What is not an answer to a packet. -/
def RelayAction.Unasked : RelayAction → Prop
  | .report _ | .acceptedDevice _ _ | .acceptedProxy _ | .invalidDeviceData _ | .invalidProxyData _
  | .destroyedDevice _ | .destroyedProxy _ => True
  | _ => False

/-- Where the actions of an event come from. -/
theorem step_actions {cfg : Config} {s : DeviceRelayService keys} {e : RelayEvent} {a : RelayAction}
    (member : a ∈ (s.step cfg e).2) :
    a.Unasked ∨
    (∃ c conn packet, e = .devicePacket c packet ∧ s.conn? c = some conn ∧
      a ∈ (s.onDevicePacket cfg c conn packet).actions) ∨
    (∃ p conn packet, e = .proxyPacket p packet ∧
      s.proxyConnectionManager.getConnectionById p = some conn ∧
      a ∈ (s.onProxyData cfg p packet).actions) := by
  cases e with
  | newDeviceConnection type =>
    left
    simp only [DeviceRelayService.step] at member
    split at member <;> simp_all [RelayAction.Unasked]
  | newProxyConnection =>
    left
    simp only [DeviceRelayService.step] at member
    split at member <;> simp_all [RelayAction.Unasked]
  | devicePacket c packet =>
    simp only [DeviceRelayService.step] at member
    split at member
    · simp at member
    · rename_i conn known
      rcases List.mem_append.mp member with handled | invalid
      · exact .inr (.inl ⟨c,conn,packet,rfl,known,handled⟩)
      · left
        split at invalid <;> simp_all [RelayAction.Unasked]
  | proxyPacket p packet =>
    simp only [DeviceRelayService.step] at member
    split at member
    · simp at member
    · rename_i conn known
      rcases List.mem_append.mp member with handled | invalid
      · exact .inr (.inr ⟨p,conn,packet,rfl,known,handled⟩)
      · left
        split at invalid <;> simp_all [RelayAction.Unasked]
  | devicePeerClose c =>
    left
    simp only [DeviceRelayService.step,DeviceRelayService.onDevicePeerClose,
      DeviceRelayService.removeDeviceFromConnection] at member
    repeat' split at member
    all_goals simp_all [RelayAction.Unasked]
  | proxyPeerClose p => simp [DeviceRelayService.step] at member
  | deviceConnectionTick nowMS =>
    obtain ⟨c,-,rfl⟩ := List.mem_map.mp member
    exact .inl trivial
  | proxyConnectionTick nowMS =>
    obtain ⟨p,-,rfl⟩ := List.mem_map.mp member
    exact .inl trivial

/-! ## Every event is a move -/

theorem quiet_update (s : DeviceRelayService keys) (m : Option TR.ConnectionStateNotify) :
    Quiet s (s.onTerminalTargetConnectionUpdate m).relay := by
  unfold DeviceRelayService.onTerminalTargetConnectionUpdate
  cases m with
  | none => exact .refl s
  | some m =>
    dsimp only
    repeat' split
    all_goals exact .refl s

/-- Of a device's packets, only an `InitDataStream` on a data connection changes the table. -/
theorem quiet_devicePacket (cfg : Config) (s : DeviceRelayService keys) (c : Nat)
    (conn : DeviceConnection) (packet : DevicePacket)
    (other : conn.type = .data → ∀ requestId m, packet ≠ .initDataStream requestId m) :
    Quiet s (s.onDevicePacket cfg c conn packet).relay := by
  have move := devicePacket_move cfg s c conn packet
  generalize (s.onDevicePacket cfg c conn packet).relay = s' at move
  cases move with
  | same => exact .refl s
  | keepAlive => exact quiet_keepAlive s c
  | initDataStream requestId m type => exact absurd rfl (other type requestId m)
  | connectionUpdate m => exact quiet_update s m

theorem quiet_proxyData (cfg : Config) (s : DeviceRelayService keys) (p : Nat) (packet : ProxyPacket) :
    let s' := (s.onProxyData cfg p packet).relay
    s'.deviceManager = s.deviceManager ∧ s'.deviceConnectionManager = s.deviceConnectionManager := by
  have move := proxyPacket_move cfg s p packet
  generalize (s.onProxyData cfg p packet).relay = s' at move
  cases move with
  | same | keepAlive | challenge => exact ⟨rfl,rfl⟩
  | createConnection m =>
    dsimp only [DeviceRelayService.onProxyCreateConnection]
    repeat' split
    all_goals exact ⟨rfl,rfl⟩

theorem move_newDeviceConnection (cfg : Config) (s : DeviceRelayService keys)
    (type : DeviceConnectionType) :
    TableMove cfg s (.newDeviceConnection type) (s.step cfg (.newDeviceConnection type)).1 := by
  simp only [DeviceRelayService.step]
  split
  · exact .unchanged trivial
  · rename_i c m accepted
    exact .accepted type c (TimedPool.accept_fresh accepted).2 rfl (TimedPool.get?_accept accepted)
      (TimedPool.issued_accept accepted)

theorem move_devicePacket (cfg : Config) (s : DeviceRelayService keys) (c : Nat)
    (packet : DevicePacket) :
    TableMove cfg s (.devicePacket c packet) (s.step cfg (.devicePacket c packet)).1 := by
  simp only [DeviceRelayService.step]
  split
  · rename_i unknown
    refine .unchanged ?_
    cases packet with
    | initDataStream requestId m =>
      cases m with
      | none => trivial
      | some m => exact fun _ _ known => absurd (unknown.symm.trans known) (by simp)
    | _ => trivial
  · rename_i conn known
    by_cases stream : conn.type = .data ∧ ∃ requestId m, packet = .initDataStream requestId m
    · obtain ⟨type,requestId,m,rfl⟩ := stream
      have := move_initDataStream cfg s c requestId m conn known type
      simpa [DeviceRelayService.onDevicePacket,type,DeviceRelayService.onDataPacket] using this
    · have other : conn.type = .data → ∀ requestId m, packet ≠ .initDataStream requestId m :=
        fun type requestId m is => stream ⟨type,requestId,m,is⟩
      refine .same ?_ (quiet_devicePacket cfg s c conn packet other)
      cases packet with
      | initDataStream requestId m =>
        cases m with
        | none => trivial
        | some m =>
          intro found _ sender type
          obtain rfl := Option.some.inj (known.symm.trans sender)
          exact absurd rfl (other type requestId _)
      | _ => trivial

theorem device_released (m : DeviceManager keys.device) (id other : Nat) :
    (m.releaseDevice id).devicePool.find? other =
      if other = id then (m.devicePool.find? id).map (fun d => { d with deleted := true })
      else m.devicePool.find? other := Storage.find?_modify _ _ _ _

theorem move_devicePeerClose (cfg : Config) (s : DeviceRelayService keys) (c : Nat) :
    TableMove cfg s (.devicePeerClose c) (s.step cfg (.devicePeerClose c)).1 := by
  simp only [DeviceRelayService.step]
  split
  · exact .unchanged trivial
  · rename_i conn known
    unfold DeviceRelayService.onDevicePeerClose
    cases type : conn.type with
    | data => exact .same trivial (quiet_giveUp s c)
    | ctrl =>
      unfold DeviceRelayService.removeDeviceFromConnection
      cases live : s.deviceManager.getDeviceById conn.deviceId with
      | none => exact .same trivial (quiet_giveUp s c)
      | some d =>
        exact .released c conn.deviceId (device_released _ _)
          (fun _ => TimedPool.get?_giveUp _ _ _) (fun _ => TimedPool.issued_giveUp _ _ _)

theorem move_tick (cfg : Config) (s : DeviceRelayService keys) (nowMS : Nat) :
    TableMove cfg s (.deviceConnectionTick nowMS) (s.step cfg (.deviceConnectionTick nowMS)).1 := by
  refine .destroyed nowMS rfl (fun c => ?_) (fun c => TimedPool.issued_destroyAll _ _ _)
  have found := TimedPool.get?_destroyAll (s.deviceConnectionManager.setTicker nowMS)
    (DeviceConnectionManager.idleConnections (s.deviceConnectionManager.setTicker nowMS)) c
  by_cases due : Due (s.deviceConnectionManager.setTicker nowMS) c
  · exact .inl ⟨due,found.trans (if_pos (mem_idleConnections.mpr due))⟩
  · exact .inr ⟨due,found.trans (if_neg (mt mem_idleConnections.mp due))⟩

theorem step_move (cfg : Config) (s : DeviceRelayService keys) (e : RelayEvent) :
    TableMove cfg s e (s.step cfg e).1 := by
  cases e with
  | newDeviceConnection type => exact move_newDeviceConnection cfg s type
  | newProxyConnection =>
    simp only [DeviceRelayService.step]
    split <;> exact .same trivial (.refl s)
  | devicePacket c packet => exact move_devicePacket cfg s c packet
  | proxyPacket p packet =>
    simp only [DeviceRelayService.step]
    split
    · exact .unchanged trivial
    · obtain ⟨devices,connections⟩ := quiet_proxyData cfg s p packet
      refine .same trivial ⟨devices,fun c => ?_,fun c => ?_⟩
      · simp only [DeviceRelayService.conn?,connections]
      · simp only [DeviceRelayService.Issued,connections]
  | devicePeerClose c => exact move_devicePeerClose cfg s c
  | proxyPeerClose p => exact .same trivial (.refl s)
  | deviceConnectionTick nowMS => exact move_tick cfg s nowMS
  | proxyConnectionTick nowMS => exact .same trivial (.refl s)

end MiniPP.Relay
