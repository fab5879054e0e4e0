import MiniPP.Relay.Ports

/-! The assertions on the way of a packet: which packets make one fail. A failed assertion
ends the process, so a run goes on only as long as none has failed. -/
namespace MiniPP.Relay

variable {keys : Keys} {cfg : Config}

/-! ## The type bits of a connection -/

/-- `Flags` of a connection. -/
abbrev ConnectionFlags := BitVec 64

namespace ConnectionFlags

def flagNone : ConnectionFlags := 0
def flagTypeMask : ConnectionFlags := 0x00FF
def flagCtrl : ConnectionFlags := 0x01
def flagData : ConnectionFlags := 0x02
def flagProxyClient : ConnectionFlags := 0x04
def flagMarkDelete : ConnectionFlags := 0x0100

def clearType (flags : ConnectionFlags) : ConnectionFlags := flags &&& ~~~flagTypeMask

/-- `SetType_Ctrl`, `SetType_Data` and `SetType_ProxyClient`. -/
def setType (flags type : ConnectionFlags) : ConnectionFlags := flags.clearType ||| type

/-- `IsType_Ctrl`, `IsType_Data` and `IsType_ProxyClient`. -/
def isType (flags type : ConnectionFlags) : Bool := flags &&& type != 0

def markDelete (flags : ConnectionFlags) : ConnectionFlags := flags ||| flagMarkDelete

/-- `assert(Conn->IsType_ProxyClient())`, reached with a connection of no other type. -/
def AssertsProxyClient (flags : ConnectionFlags) : Prop :=
  flags.isType flagCtrl = false → flags.isType flagData = false → flags.isType flagProxyClient = true

instance (flags : ConnectionFlags) : Decidable flags.AssertsProxyClient :=
  inferInstanceAs (Decidable (_ → _ → _))

end ConnectionFlags

open ConnectionFlags

def DeviceConnectionType.flag : DeviceConnectionType → ConnectionFlags
  | .ctrl => flagCtrl
  | .data => flagData

/-- The flags since the connection was accepted, and since it was marked if it was. -/
def flagsOf (type : ConnectionFlags) (marked : Bool) : ConnectionFlags :=
  let flags := setType flagNone type
  if marked then flags.markDelete else flags

theorem isType_flagsOf (type : DeviceConnectionType) (marked : Bool) :
    (flagsOf type.flag marked).isType flagCtrl = (type == .ctrl) ∧
      (flagsOf type.flag marked).isType flagData = (type == .data) := by
  cases type <;> cases marked <;> decide

theorem asserts_device (type : DeviceConnectionType) (marked : Bool) :
    (flagsOf type.flag marked).AssertsProxyClient := by
  cases type <;> cases marked <;> decide

theorem asserts_proxy (marked : Bool) : (flagsOf flagProxyClient marked).AssertsProxyClient := by
  cases marked <;> decide

/-! ## Failed assertions -/

/-- An assertion fails while the event is handled. -/
inductive Trips (s : DeviceRelayService keys) : RelayEvent → Prop where
  | deviceData (c : Nat) (packet : DevicePacket) (conn : DeviceConnection) (known : s.conn? c = some conn)
      (fails : ¬ (flagsOf conn.type.flag (s.deviceConnectionManager.marked c)).AssertsProxyClient) :
      Trips s (.devicePacket c packet)
  | devicePeerClose (c : Nat) (conn : DeviceConnection) (known : s.conn? c = some conn)
      (fails : ¬ (flagsOf conn.type.flag (s.deviceConnectionManager.marked c)).AssertsProxyClient) :
      Trips s (.devicePeerClose c)
  | proxyData (p : Nat) (packet : ProxyPacket) (registered : s.proxy? p ≠ none)
      (fails : ¬ (flagsOf flagProxyClient (s.proxyConnectionManager.marked p)).AssertsProxyClient) :
      Trips s (.proxyPacket p packet)
  | proxyPeerClose (p : Nat) (registered : s.proxy? p ≠ none)
      (fails : ¬ (flagsOf flagProxyClient (s.proxyConnectionManager.marked p)).AssertsProxyClient) :
      Trips s (.proxyPeerClose p)
  /-- `assert(D->CtrlConnection)` in `OnProxyCreateConnection`. -/
  | ctrlConnection (p : Nat) (m : PR.CreateConnection) (d : Device) (registered : s.proxy? p ≠ none)
      (device : s.deviceManager.getDeviceById m.relaySideDeviceId = some d)
      (null : d.ctrlConnection = none) :
      Trips s (.proxyPacket p (.message (some (.createConnection m))))
  /-- `assert(D->DataConnection)` in `OnProxyDestroyConnection`. -/
  | dataConnection (p : Nat) (m : PR.DestroyConnection) (rc : RelayConnectionContext) (d : Device)
      (registered : s.proxy? p ≠ none) (context : s.context? m.relaySideConnectionId = some rc)
      (device : s.deviceManager.getDeviceById rc.deviceId = some d) (null : d.dataConnection = none) :
      Trips s (.proxyPacket p (.message (some (.destroyConnection m))))
  /-- `assert(PayloadView.data() && PayloadView.size())` when `OnProxyPushData` posts. -/
  | emptyPayload (p : Nat) (m : PR.PushData) (rc : RelayConnectionContext)
      (registered : s.proxy? p ≠ none) (context : s.context? m.relaySideConnectionId = some rc)
      (client : rc.proxySideConnectionId = m.proxySideConnectionId)
      (device : s.deviceManager.getDeviceById rc.deviceId ≠ none) (empty : m.payload = []) :
      Trips s (.proxyPacket p (.message (some (.postData m))))

/-! ## Devices without connections -/

/-- An `InitDataStream` that is refused for its data key. -/
def malformedKey (cfg : Config) : RelayEvent → Bool
  | .devicePacket _ (.initDataStream _ (some m)) => (DeviceRelayService.geoSegment cfg m.dataKey).isNone
  | _ => false

/-- The devices that such a refusal left in the pool. -/
def leftBehind (cfg : Config) (s : DeviceRelayService keys) (e : RelayEvent) (halfMade : Nat → Bool)
    (id : Nat) : Bool :=
  halfMade id ||
    (malformedKey cfg e && (s.device? id).isNone && ((s.step cfg e).1.device? id).isSome)

abbrev halfMadeMachine (cfg : Config) (keys : Keys) :
    Machine (DeviceRelayService keys × (Nat → Bool)) RelayEvent RelayAction :=
  (relayMachine cfg keys).withGhost (fun _ => false) (leftBehind cfg)

/-- No request to open a connection names a device that was left behind, and no push of
nothing reaches a device. -/
def Careful (s : DeviceRelayService keys) (halfMade : Nat → Bool) : RelayEvent → Prop
  | .proxyPacket p (.message (some (.createConnection m))) =>
    s.proxy? p ≠ none → s.deviceManager.getDeviceById m.relaySideDeviceId ≠ none →
      halfMade m.relaySideDeviceId = false
  | .proxyPacket p (.message (some (.postData m))) =>
    ∀ rc, s.proxy? p ≠ none → s.context? m.relaySideConnectionId = some rc →
      rc.proxySideConnectionId = m.proxySideConnectionId →
      s.deviceManager.getDeviceById rc.deviceId ≠ none → m.payload ≠ []
  | _ => True

/-- Exactly the devices left behind have no connections, and no context is on one of them. -/
structure WellMade (s : DeviceRelayService keys) (halfMade : Nat → Bool) : Prop where
  runtimeId : ∀ id d, s.device? id = some d → d.deviceRuntimeId = id
  ctrl : ∀ id d, s.device? id = some d → (d.ctrlConnection = none ↔ halfMade id = true)
  data : ∀ id d, s.device? id = some d → (d.dataConnection = none ↔ halfMade id = true)
  known : ∀ id, halfMade id = true → s.device? id ≠ none
  contexts : ∀ id rc, s.context? id = some rc →
    s.device? rc.deviceId ≠ none ∧ halfMade rc.deviceId = false

theorem device_kept (cfg : Config) {s : DeviceRelayService keys} {id : Nat} {d : Device}
    (found : s.device? id = some d) (e : RelayEvent) :
    ∃ d', (s.step cfg e).1.device? id = some d' ∧ d'.deviceRuntimeId = d.deviceRuntimeId ∧
      d'.ctrlConnection = d.ctrlConnection ∧ d'.dataConnection = d.dataConnection := by
  have move := step_move cfg s e
  generalize (s.step cfg e).1 = s' at move
  cases move with
  | same _ quiet => exact ⟨d,by rw [DeviceRelayService.device?,quiet.1]; exact found,rfl,rfl,rfl⟩
  | accepted _ _ _ devices _ _ =>
    exact ⟨d,by rw [DeviceRelayService.device?,devices]; exact found,rfl,rfl,rfl⟩
  | destroyed _ devices _ _ =>
    exact ⟨d,by rw [DeviceRelayService.device?,devices]; exact found,rfl,rfl,rfl⟩
  | streamed c requestId new m conn ctrlConn device sender type ctrl unbound room fresh nonzero
      runtimeId live devices issued outcome =>
    refine ⟨d,?_,rfl,rfl,rfl⟩
    rw [devices,if_neg ?_,found]
    rintro rfl
    exact absurd (fresh.symm.trans found) (by simp)
  | released c released devices connections issued =>
    rw [devices]
    by_cases here : id = released
    · subst here
      exact ⟨{ d with deleted := true },by simp [found],rfl,rfl,rfl⟩
    · exact ⟨d,by rw [if_neg here,found],rfl,rfl,rfl⟩

/-- A device is new with the first packet of a data stream, if there is room for it. -/
theorem streamed_of_new {s : DeviceRelayService keys} {e : RelayEvent} {id : Nat} {d : Device}
    (fresh : s.device? id = none) (made : (s.step cfg e).1.device? id = some d) :
    ∃ c requestId m ctrlConn, e = .devicePacket c (.initDataStream requestId (some m)) ∧
      (∃ deviceId, s.conn? c = some ⟨.data,deviceId⟩) ∧ s.conn? m.ctrlId = some ctrlConn ∧
      ctrlConn.deviceId = 0 ∧ s.deviceManager.newDevice ≠ none ∧ d.deviceRuntimeId = id ∧
      ((DeviceRelayService.geoSegment cfg m.dataKey = none ∧ d.ctrlConnection = none ∧
          d.dataConnection = none) ∨
        ((DeviceRelayService.geoSegment cfg m.dataKey).isSome ∧ d.ctrlConnection = some m.ctrlId ∧
          d.dataConnection = some c ∧ (s.step cfg e).1.conn? m.ctrlId ≠ none)) := by
  have move := step_move cfg s e
  generalize (s.step cfg e).1 = s' at move made ⊢
  have unmade (still : s.device? id = some d) : False := by
    rw [fresh] at still
    cases still
  cases move with
  | same _ quiet =>
    rw [DeviceRelayService.device?,quiet.1] at made
    exact absurd made unmade
  | accepted _ _ _ devices _ _ | destroyed _ devices _ _ =>
    rw [DeviceRelayService.device?,devices] at made
    exact absurd made unmade
  | released c released devices connections issued =>
    rw [devices] at made
    split at made
    · rename_i here
      rw [← here,fresh] at made
      simp at made
    · exact absurd made unmade
  | streamed c requestId new m conn ctrlConn device sender type ctrl unbound room free nonzero
      runtimeId live devices issued outcome =>
    rw [devices] at made
    split at made
    · rename_i here
      obtain rfl := Option.some.inj made
      obtain ⟨kind,deviceId⟩ := conn
      obtain rfl : kind = .data := type
      refine ⟨c,requestId,m,ctrlConn,rfl,⟨deviceId,sender⟩,ctrl,unbound,room,runtimeId.trans here.symm,?_⟩
      rcases outcome with ⟨malformed,noCtrl,noData,-⟩ | ⟨wellFormed,toCtrl,toData,connections⟩
      · exact .inl ⟨malformed,noCtrl,noData⟩
      · refine .inr ⟨wellFormed,toCtrl,toData,?_⟩
        rw [connections,if_pos rfl]
        simp
    · exact absurd made unmade

/-- A new device has both its connections, or neither because its data key was malformed. -/
theorem device_made {s : DeviceRelayService keys} {e : RelayEvent} {id : Nat} {d : Device}
    (fresh : s.device? id = none) (made : (s.step cfg e).1.device? id = some d) :
    d.deviceRuntimeId = id ∧ (d.ctrlConnection = none ↔ malformedKey cfg e = true) ∧
      (d.dataConnection = none ↔ malformedKey cfg e = true) := by
  obtain ⟨c,requestId,m,ctrlConn,rfl,-,-,-,-,runtimeId,outcome⟩ := streamed_of_new fresh made
  refine ⟨runtimeId,?_⟩
  rcases outcome with ⟨malformed,noCtrl,noData⟩ | ⟨wellFormed,toCtrl,toData,-⟩
  · simp [malformedKey,malformed,noCtrl,noData]
  · simp [malformedKey,Option.isSome_iff_ne_none.mp wellFormed,toCtrl,toData]

theorem leftBehind_known {s : DeviceRelayService keys} {halfMade : Nat → Bool} {id : Nat}
    (known : s.device? id ≠ none) (e : RelayEvent) :
    leftBehind cfg s e halfMade id = halfMade id := by
  simp [leftBehind,Option.isNone_iff_eq_none,known]

theorem leftBehind_new {s : DeviceRelayService keys} {halfMade : Nat → Bool}
    (wellMade : WellMade s halfMade) {e : RelayEvent} {id : Nat} {d : Device}
    (fresh : s.device? id = none) (made : (s.step cfg e).1.device? id = some d) :
    leftBehind cfg s e halfMade id = malformedKey cfg e := by
  have unmarked : halfMade id = false := by
    by_contra marked
    exact wellMade.known id (by simpa using marked) fresh
  simp [leftBehind,unmarked,fresh,made]

theorem wellMade_step {s : DeviceRelayService keys} {halfMade : Nat → Bool} (self : SelfNamed s)
    (wellMade : WellMade s halfMade) {e : RelayEvent} (passes : ¬ Trips s e) :
    WellMade (s.step cfg e).1 (leftBehind cfg s e halfMade) := by
  refine ⟨?runtimeId,?ctrl,?data,?known,?contexts⟩
  case runtimeId =>
    intro id d present
    cases before : s.device? id with
    | none => exact (device_made before present).1
    | some old =>
      obtain ⟨d',present',same,-⟩ := device_kept cfg before e
      obtain rfl := Option.some.inj (present.symm.trans present')
      exact same.trans (wellMade.runtimeId id old before)
  case ctrl =>
    intro id d present
    cases before : s.device? id with
    | none => rw [leftBehind_new wellMade before present]; exact (device_made before present).2.1
    | some old =>
      obtain ⟨d',present',-,same,-⟩ := device_kept cfg before e
      obtain rfl := Option.some.inj (present.symm.trans present')
      rw [leftBehind_known (by simp [before]),same]
      exact wellMade.ctrl id old before
  case data =>
    intro id d present
    cases before : s.device? id with
    | none => rw [leftBehind_new wellMade before present]; exact (device_made before present).2.2
    | some old =>
      obtain ⟨d',present',-,-,same⟩ := device_kept cfg before e
      obtain rfl := Option.some.inj (present.symm.trans present')
      rw [leftBehind_known (by simp [before]),same]
      exact wellMade.data id old before
  case known =>
    intro id marked
    cases before : s.device? id with
    | none =>
      have unmarked : halfMade id ≠ true := fun old => wellMade.known id old before
      simp only [leftBehind,unmarked,Bool.false_or,Bool.and_eq_true] at marked
      exact Option.isSome_iff_ne_none.mp marked.2
    | some old =>
      obtain ⟨d',present',-⟩ := device_kept cfg before e
      simp [present']
  case contexts =>
    intro id rc present
    have device : s.device? rc.deviceId ≠ none ∧ halfMade rc.deviceId = false := by
      cases before : s.context? id with
      | some old =>
        have kept := Option.some.inj ((context_kept self before e).symm.trans present)
        have same : rc.deviceId = old.deviceId := by
          rw [← kept]
          split
          · rfl
          · split <;> rfl
        rw [same]
        exact wellMade.contexts id old before
      | none =>
        obtain ⟨p,m,d,rfl,registered,found,-,rfl⟩ := context_opened before present
        have known : s.device? m.relaySideDeviceId = some d := (getDeviceById_iff.mp found).1
        have runtimeId : d.deviceRuntimeId = m.relaySideDeviceId := wellMade.runtimeId _ d known
        change s.device? d.deviceRuntimeId ≠ none ∧ halfMade d.deviceRuntimeId = false
        rw [runtimeId]
        refine ⟨by simp [known],?_⟩
        -- Were the device half made, the assertion would have failed before the context.
        by_contra marked
        refine passes (.ctrlConnection p m d registered found ?_)
        exact (wellMade.ctrl _ d known).mpr (by simpa using marked)
    refine ⟨?_,by rw [leftBehind_known device.1]; exact device.2⟩
    obtain ⟨old,before⟩ := Option.ne_none_iff_exists'.mp device.1
    obtain ⟨d',present',-⟩ := device_kept cfg before e
    simp [present']

theorem wellMade_run {s : DeviceRelayService keys} {halfMade : Nat → Bool} {log : List RelayAction}
    (reach : (halfMadeMachine cfg keys).Reach (fun c _ e => ¬ Trips c.1 e) (s,halfMade) log) :
    WellMade s halfMade := by
  apply reach.invariant (I := fun c _ => WellMade c.1 c.2)
  · rintro ⟨s,halfMade⟩ ⟨⟨ticker,_,_,_,_,rfl⟩,rfl⟩
    refine ⟨?_,?_,?_,by simp,?_⟩
    all_goals
      intro id _ found
      simp [DeviceRelayService.init,RelayConnectionManager.init,DeviceManager.init,
        DeviceRelayService.context?,DeviceRelayService.device?] at found
  · exact fun c _ e before passes wellMade => wellMade_step (self_named before.forget) wellMade passes

/-- Only the null pointer of a device that a request names, and an empty payload, are left:
the other assertions hold in every state that is reached. -/
theorem trips_iff {s : DeviceRelayService keys} {halfMade : Nat → Bool}
    (wellMade : WellMade s halfMade) (e : RelayEvent) : ¬ Trips s e ↔ Careful s halfMade e := by
  constructor
  · intro passes
    unfold Careful
    split
    · rename_i p m
      intro registered found
      obtain ⟨d,device⟩ := Option.ne_none_iff_exists'.mp found
      by_contra marked
      refine passes (.ctrlConnection p m d registered device ?_)
      exact (wellMade.ctrl _ d (getDeviceById_iff.mp device).1).mpr (by simpa using marked)
    · rename_i p m
      intro rc registered context client device empty
      exact passes (.emptyPayload p m rc registered context client device empty)
    · trivial
  · intro careful trips
    cases trips with
    | deviceData c packet conn known fails => exact fails (asserts_device conn.type _)
    | devicePeerClose c conn known fails => exact fails (asserts_device conn.type _)
    | proxyData p packet registered fails => exact fails (asserts_proxy _)
    | proxyPeerClose p registered fails => exact fails (asserts_proxy _)
    | ctrlConnection p m d registered device null =>
      have unmarked := careful registered (by simp [device])
      have marked := (wellMade.ctrl _ d (getDeviceById_iff.mp device).1).mp null
      exact absurd (unmarked.symm.trans marked) (by simp)
    | dataConnection p m rc d registered context device null =>
      have unmarked := (wellMade.contexts _ rc context).2
      have marked := (wellMade.data _ d (getDeviceById_iff.mp device).1).mp null
      exact absurd (unmarked.symm.trans marked) (by simp)
    | emptyPayload p m rc registered context client device empty =>
      exact careful rc registered context client device empty

/-- No assertion fails in a run just when all its events are careful. -/
theorem no_assertion_fails {s : DeviceRelayService keys} (start : (relayMachine cfg keys).start s)
    (es : List RelayEvent) :
    (halfMadeMachine cfg keys).Allowed (fun c _ e => ¬ Trips c.1 e) (s,fun _ => false) [] es ↔
      (halfMadeMachine cfg keys).Allowed (fun c _ e => Careful c.1 c.2 e) (s,fun _ => false) [] es :=
  Machine.allowed_iff (fun _ _ e reach => trips_iff (wellMade_run reach) e) (.start ⟨start,rfl⟩) es

theorem no_assertion_fails_push :
    (halfMadeMachine referenceConfig .sequential).Allowed (fun c _ e => ¬ Trips c.1 e)
      (smallRelay,fun _ => false) []
      (registration ++ opening ++ [.proxyPacket 1 (.message (some (.postData ⟨7,1,[1]⟩)))]) := by
  refine (no_assertion_fails ⟨_,_,_,_,_,rfl⟩ _).mpr ?_
  refine ⟨trivial,trivial,trivial,trivial,trivial,trivial,?create,?push,trivial⟩
  case create => exact fun _ _ => by decide
  case push => exact fun _ _ _ _ _ => by decide

/-- The client sends nothing, and the relay aborts when it passes that on. -/
theorem empty_push_aborts :
    ¬ ∀ s es, (relayMachine referenceConfig .sequential).start s →
      (halfMadeMachine referenceConfig .sequential).Allowed (fun c _ e => ¬ Trips c.1 e)
        (s,fun _ => false) [] es := by
  intro always
  let es : List RelayEvent := registration ++ opening
  let last : RelayEvent := .proxyPacket 1 (.message (some (.postData ⟨7,1,[]⟩)))
  have allowed := always smallRelay (es ++ [last]) ⟨_,_,_,_,_,rfl⟩
  have passes := ((Machine.allowed_append es [last]).mp allowed).2.1
  refine passes (.emptyPayload 1 _
    { relaySideConnectionId := 1, deviceSlot := 80, proxySideConnectionId := 7, deviceId := 1
      proxyConnectionId := 1 } (by decide) (by decide) rfl (by decide) rfl)

end MiniPP.Relay
