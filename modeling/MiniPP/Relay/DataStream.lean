import MiniPP.Relay.TableMoves

/-! A data stream that is refused leaves nothing behind, and one that is accepted binds two
free connections: when that is so, and when it is not. -/
namespace MiniPP.Relay

variable {keys : Keys}

/-- No device slot is taken and no connection is bound. -/
def LeftAsWas (s s' : DeviceRelayService keys) : Prop :=
  s'.deviceManager = s.deviceManager ∧ ∀ c, s'.conn? c = s.conn? c

/-- One device is new, and the only thing that changed is that it holds the two connections, which
were free. -/
def BoundAnew (s s' : DeviceRelayService keys) (ctrlId c : Nat) : Prop :=
  ∃ id device, s.device? id = none ∧ device.deviceRuntimeId = id ∧
    device.ctrlConnection = some ctrlId ∧ device.dataConnection = some c ∧
    (∀ other, s'.device? other = if other = id then some device else s.device? other) ∧
    s.conn? ctrlId = some ⟨.ctrl,0⟩ ∧ s.conn? c = some ⟨.data,0⟩ ∧
    ∀ other, s'.conn? other =
      if other = ctrlId then some ⟨.ctrl,id⟩ else if other = c then some ⟨.data,id⟩ else s.conn? other

def AllOrNothing (s : DeviceRelayService keys) (c : Nat) (payload : Option TR.InitDataStream)
    (handled : Handled keys) : Prop :=
  (handled.accepted = false → LeftAsWas s handled.relay) ∧
  (handled.accepted = true → ∃ m, payload = some m ∧ BoundAnew s handled.relay m.ctrlId c)

/-- A packet that gets as far as a new device has a well-formed key, names a connection of Ctrl
type and comes on a connection with no device. -/
def ProperStream (cfg : Config) (s : DeviceRelayService keys) (conn : DeviceConnection)
    (payload : Option TR.InitDataStream) : Prop :=
  ∀ m ctrlConn, payload = some m → s.conn? m.ctrlId = some ctrlConn → ctrlConn.deviceId = 0 →
    s.deviceManager.newDevice ≠ none →
    (DeviceRelayService.geoSegment cfg m.dataKey).isSome ∧ ctrlConn.type = .ctrl ∧ conn.deviceId = 0

/-- For every state and every packet on a data connection. -/
theorem init_data_stream_atomic (cfg : Config) (s : DeviceRelayService keys) (c requestId : Nat)
    (payload : Option TR.InitDataStream) {conn : DeviceConnection} (sender : s.conn? c = some conn)
    (type : conn.type = .data) :
    AllOrNothing s c payload (s.onTerminalInitDataStream cfg c requestId payload) ↔
      ProperStream cfg s conn payload := by
  have outcome := initDataStream_outcome cfg s c requestId payload sender
  generalize s.onTerminalInitDataStream cfg c requestId payload = handled at outcome ⊢
  cases outcome with
  | refused accepted quiet early =>
    constructor
    · intro _ m ctrlConn decoded ctrl unbound room
      exact absurd (early m ctrlConn decoded ctrl unbound) room
    · intro _
      refine ⟨fun _ => ⟨quiet.1,quiet.2.1⟩,fun yes => ?_⟩
      rw [accepted] at yes
      cases yes
  | malformed m ctrlConn id decoded ctrl unbound room key accepted fresh nonzero devices connections =>
    constructor
    · -- The device that was made is still there.
      intro atomic
      have same := (atomic.1 accepted).1
      have made : handled.relay.device? id = some { deviceRuntimeId := id } := by rw [devices,if_pos rfl]
      have none : handled.relay.device? id = none := by
        rw [DeviceRelayService.device?,same]
        exact fresh
      rw [none] at made
      cases made
    · intro proper
      have wellFormed := (proper m ctrlConn decoded ctrl unbound room).1
      rw [key] at wellFormed
      cases wellFormed
  | bound m ctrlConn id device decoded ctrl unbound room key accepted fresh nonzero runtimeId live toCtrl
      toData devices issued connections =>
    constructor
    · intro atomic m' ctrlConn' decoded' ctrl' _ _
      obtain ⟨m'',again,_,_,_,_,_,_,_,isCtrl,isData,_⟩ := atomic.2 accepted
      obtain rfl : m' = m := Option.some.inj (decoded'.symm.trans decoded)
      obtain rfl : m' = m'' := Option.some.inj (decoded.symm.trans again)
      refine ⟨key,?_,?_⟩
      · rw [ctrl'] at isCtrl
        exact congrArg DeviceConnection.type (Option.some.inj isCtrl)
      · rw [sender] at isData
        exact congrArg DeviceConnection.deviceId (Option.some.inj isData)
    · intro proper
      obtain ⟨-,ctrlType,free⟩ := proper m ctrlConn decoded ctrl unbound room
      refine ⟨fun no => ?_,fun _ => ⟨m,decoded,id,device,fresh,runtimeId,toCtrl,toData,devices,?_,?_,?_⟩⟩
      · rw [accepted] at no
        cases no
      · rw [ctrl,← ctrlType,← unbound]
      · rw [sender,← type,← free]
      · intro other
        rw [connections,ctrlType,type]

/-- Two connections of a device that has not registered yet. -/
abbrev unregistered : DeviceRelayService .sequential :=
  (after [.newDeviceConnection .ctrl,.newDeviceConnection .data]).1

theorem init_data_stream_atomic_registration :
    AllOrNothing unregistered 2 (some ⟨1,ascii "key:000000010000000200000003",ascii "d"⟩)
      (unregistered.onTerminalInitDataStream referenceConfig 2 2
        (some ⟨1,ascii "key:000000010000000200000003",ascii "d"⟩)) := by
  have sender : unregistered.conn? 2 = some ⟨.data,0⟩ := by decide
  apply (init_data_stream_atomic referenceConfig unregistered 2 2 _ sender rfl).mpr
  rintro m ctrlConn ⟨⟩ ctrl - -
  obtain rfl : (⟨.ctrl,0⟩ : DeviceConnection) = ctrlConn := Option.some.inj ctrl
  exact ⟨by decide,rfl,rfl⟩

/-- A data key without a location is refused, and the device slot stays taken. -/
theorem refused_stream_keeps_slot :
    ¬ AllOrNothing unregistered 2 (some ⟨1,ascii "key",ascii "d"⟩)
      (unregistered.onTerminalInitDataStream referenceConfig 2 2 (some ⟨1,ascii "key",ascii "d"⟩)) := by
  intro atomic
  have same := (atomic.1 (by decide)).1
  have devices := congrArg (fun m => m.devicePool.find? 1) same
  exact absurd devices (by decide)

end MiniPP.Relay
