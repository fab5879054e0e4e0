import MiniPP.Relay.Contexts

/-! Who may act on a relayed connection. A packet names a context by its id alone; when the
handler acts on it, and when that context belongs to somebody else, is worked out here for
the packets of devices and of proxy-access servers. -/
namespace MiniPP.Relay

variable {keys : Keys} {cfg : Config}

def trContext : TR.Message → Option Nat
  | .createConnection m => some m.relaySideConnectionId
  | .destroyConnection m => some m.relaySideConnectionId
  | .proxyClientNotify m => some m.relaySideConnectionId
  | .postData m => some m.relaySideConnectionId
  | .dnsQuery requestId _ => some requestId
  | .initCtrlStreamResp _ _ | .initDataStreamResp _ _ => none

/-- The context on whose behalf a message is sent. -/
def RelayAction.context : RelayAction → Option Nat
  | .toDevice _ m | .useAfterFree _ m | .nullConnection m => trContext m
  | .toProxy _ (.notifyConnectionState m) => some m.relaySideConnectionId
  | .toProxy _ (.postData m) => some m.relaySideConnectionId
  | _ => none

/-- The event changes the context, or makes the relay send something on its behalf. -/
def Touches (s : DeviceRelayService keys) (out : DeviceRelayService keys × List RelayAction)
    (id : Nat) : Prop :=
  out.1.context? id ≠ s.context? id ∨ ∃ a ∈ out.2, a.context = some id

/-! ## Packets of devices -/

/-- The id by which a handler looks up a context. -/
def DevicePacket.named : DeviceConnectionType → DevicePacket → Option Nat
  | .ctrl, .dnsQueryResp requestId (some _) => some requestId
  | .data, .notifyConnectionState (some m) => some m.relaySideConnectionId
  | .data, .postData (some m) => some m.relaySideConnectionId
  | _, _ => none

/-- The packet is dropped before it changes anything: no usable address; a state that is not
recognised, or no proxy to tell and no new id on the device's side; no proxy to send to. -/
def Dropped (cfg : Config) (s : DeviceRelayService keys) (rc : RelayConnectionContext) :
    DevicePacket → Prop
  | .dnsQueryResp _ (some m) => DeviceRelayService.selectAddress cfg m = none
  | .notifyConnectionState (some m) =>
    DeviceRelayService.proxyState m.newState = none ∨
      s.proxy? rc.proxyConnectionId = none ∧
        (m.newState = stateEstablished → m.deviceSideConnectionId = rc.deviceSlot)
  | .postData (some _) => s.proxy? rc.proxyConnectionId = none
  | _ => True

theorem touches_handled {s : DeviceRelayService keys} {c : Nat} {conn : DeviceConnection}
    (known : s.conn? c = some conn) (packet : DevicePacket) (id : Nat) :
    Touches s (s.step cfg (.devicePacket c packet)) id ↔
      Touches s ((s.onDevicePacket cfg c conn packet).relay,
        (s.onDevicePacket cfg c conn packet).actions) id := by
  have found : s.deviceConnectionManager.getConnectionById c = some conn := known
  simp only [DeviceRelayService.step,found,Touches]
  constructor
  · rintro (changed | ⟨a,member,context⟩)
    · exact .inl changed
    · rcases List.mem_append.mp member with handled | invalid
      · exact .inr ⟨a,handled,context⟩
      · split at invalid
        · simp at invalid
        · obtain rfl := List.mem_singleton.mp invalid
          exact absurd context (by simp [RelayAction.context])
  · rintro (changed | ⟨a,member,context⟩)
    · exact .inl changed
    · exact .inr ⟨a,List.mem_append_left _ member,context⟩

theorem not_touches_nothing (s : DeviceRelayService keys) (id : Nat) : ¬ Touches s (s,[]) id := by
  simp [Touches]

theorem touches_one (s : DeviceRelayService keys) (a : RelayAction) (id : Nat) :
    Touches s (s,[a]) id ↔ a.context = some id := by
  simp [Touches]

/-- What is said of the context that is named. -/
theorem exists_context {s : DeviceRelayService keys} {named : Nat} {rc : RelayConnectionContext}
    (found : s.context? named = some rc) {Q : RelayConnectionContext → Prop} {id : Nat} :
    (∃ rc, named = id ∧ s.context? id = some rc ∧ Q rc) ↔ named = id ∧ Q rc := by
  constructor
  · rintro ⟨rc',rfl,known,holds⟩
    obtain rfl := Option.some.inj (found.symm.trans known)
    exact ⟨rfl,holds⟩
  · rintro ⟨rfl,holds⟩
    exact ⟨rc,rfl,found,holds⟩

theorem not_exists_context {s : DeviceRelayService keys} {named : Nat} (missing : s.context? named = none)
    {Q : RelayConnectionContext → Prop} {id : Nat} :
    ¬ ∃ rc, named = id ∧ s.context? id = some rc ∧ Q rc := by
  rintro ⟨rc,rfl,known,-⟩
  rw [missing] at known
  cases known

theorem touches_dnsQueryResp {s : DeviceRelayService keys} (self : SelfNamed s) (c requestId : Nat)
    (m : TR.DnsQueryResp) (id : Nat) :
    let handled := s.onTerminalDnsQueryResp cfg c requestId (some m)
    Touches s (handled.relay,handled.actions) id ↔
      ∃ rc, requestId = id ∧ s.context? id = some rc ∧ DeviceRelayService.selectAddress cfg m ≠ none := by
  dsimp only [DeviceRelayService.onTerminalDnsQueryResp]
  cases found : s.relayConnectionManager.getConnectionById requestId with
  | none => exact iff_of_false (not_touches_nothing s id) (not_exists_context found)
  | some rc =>
    have own : rc.relaySideConnectionId = requestId := self requestId rc found
    rw [exists_context found]
    cases selected : DeviceRelayService.selectAddress cfg m with
    | none => exact iff_of_false (not_touches_nothing s id) (by simp)
    | some address =>
      dsimp only
      rw [touches_one]
      change some rc.relaySideConnectionId = some id ↔ _
      rw [own]
      simp

theorem touches_postData {s : DeviceRelayService keys} (self : SelfNamed s) (m : TR.PostData)
    (id : Nat) :
    let handled := s.onTerminalPostData (some m)
    Touches s (handled.relay,handled.actions) id ↔
      ∃ rc, m.relaySideConnectionId = id ∧ s.context? id = some rc ∧
        s.proxy? rc.proxyConnectionId ≠ none := by
  dsimp only [DeviceRelayService.onTerminalPostData]
  cases found : s.relayConnectionManager.getConnectionById m.relaySideConnectionId with
  | none => exact iff_of_false (not_touches_nothing s id) (not_exists_context found)
  | some rc =>
    have own : rc.relaySideConnectionId = m.relaySideConnectionId := self _ rc found
    rw [exists_context found]
    dsimp only
    rw [if_neg (by simp [own])]
    cases proxy : s.proxyConnectionManager.getConnectionById rc.proxyConnectionId with
    | none =>
      apply iff_of_false (not_touches_nothing s id)
      rintro ⟨-,present⟩
      exact present proxy
    | some _ =>
      have present : s.proxy? rc.proxyConnectionId ≠ none := fun gone => by
        cases gone.symm.trans proxy
      dsimp only
      rw [touches_one]
      change some rc.relaySideConnectionId = some id ↔ _
      rw [own,Option.some_inj]
      exact (and_iff_left present).symm

/-- Setting the slot of a context changes that context, unless it had the value before. -/
theorem slot_changed {s : DeviceRelayService keys} {named : Nat} {rc : RelayConnectionContext}
    (found : s.context? named = some rc) (slot id : Nat) :
    (s.relayConnectionManager.setDeviceSideConnectionId named slot).contextPool.find? id ≠
      s.context? id ↔ id = named ∧ slot ≠ rc.deviceSlot := by
  rw [contexts_established]
  by_cases here : id = named
  · subst here
    have known : s.relayConnectionManager.contextPool.find? id = some rc := found
    simp [known,RelayConnectionContext.ext_iff]
  · simp [here]

/-- A notification of a state that is recognised, for a context that exists. -/
theorem touches_recognised {s : DeviceRelayService keys} (m : TR.ConnectionStateNotify)
    {rc : RelayConnectionContext} (found : s.context? m.relaySideConnectionId = some rc)
    (own : rc.relaySideConnectionId = m.relaySideConnectionId)
    (recognised : DeviceRelayService.proxyState m.newState ≠ none) (id : Nat) :
    let handled := s.onTerminalTargetConnectionUpdate (some m)
    Touches s (handled.relay,handled.actions) id ↔ id = m.relaySideConnectionId ∧
      (s.proxy? rc.proxyConnectionId ≠ none ∨
        m.newState = stateEstablished ∧ m.deviceSideConnectionId ≠ rc.deviceSlot) := by
  dsimp only
  have known : s.relayConnectionManager.getConnectionById m.relaySideConnectionId = some rc := found
  obtain ⟨newState,state⟩ := Option.ne_none_iff_exists'.mp recognised
  have relay : (s.onTerminalTargetConnectionUpdate (some m)).relay.context? id ≠ s.context? id ↔
      id = m.relaySideConnectionId ∧
        (m.newState = stateEstablished ∧ m.deviceSideConnectionId ≠ rc.deviceSlot) := by
    have changed := slot_changed found m.deviceSideConnectionId id
    simp only [DeviceRelayService.onTerminalTargetConnectionUpdate,known,own,state,ne_eq,
      not_true_eq_false,if_false]
    by_cases established : m.newState = stateEstablished
    · simp only [if_pos established]
      cases s.proxyConnectionManager.getConnectionById rc.proxyConnectionId <;>
        simpa [established] using changed
    · simp only [if_neg established]
      cases s.proxyConnectionManager.getConnectionById rc.proxyConnectionId <;> simp [established]
  have actions : (∃ a ∈ (s.onTerminalTargetConnectionUpdate (some m)).actions, a.context = some id) ↔
      id = m.relaySideConnectionId ∧ s.proxy? rc.proxyConnectionId ≠ none := by
    have unchanged : (if m.newState = stateEstablished then
        { s with
          relayConnectionManager := s.relayConnectionManager.setDeviceSideConnectionId
            m.relaySideConnectionId m.deviceSideConnectionId }
        else s).proxyConnectionManager = s.proxyConnectionManager := by split <;> rfl
    have same : s.proxyConnectionManager.getConnectionById rc.proxyConnectionId =
        s.proxy? rc.proxyConnectionId := rfl
    simp only [DeviceRelayService.onTerminalTargetConnectionUpdate,known,own,state,ne_eq,
      not_true_eq_false,if_false,unchanged,same]
    cases s.proxy? rc.proxyConnectionId <;> simp [RelayAction.context,eq_comm]
  rw [Touches,relay,actions,← and_or_left,or_comm]

theorem touches_connectionUpdate {s : DeviceRelayService keys} (self : SelfNamed s)
    (m : TR.ConnectionStateNotify) (id : Nat) :
    let handled := s.onTerminalTargetConnectionUpdate (some m)
    Touches s (handled.relay,handled.actions) id ↔
      ∃ rc, m.relaySideConnectionId = id ∧ s.context? id = some rc ∧
        ¬ Dropped cfg s rc (.notifyConnectionState (some m)) := by
  dsimp only
  cases found : s.context? m.relaySideConnectionId with
  | none =>
    have unknown : s.relayConnectionManager.getConnectionById m.relaySideConnectionId = none := found
    simp only [DeviceRelayService.onTerminalTargetConnectionUpdate,unknown]
    exact iff_of_false (not_touches_nothing s id) (not_exists_context found)
  | some rc =>
    have own := self _ rc found
    rw [exists_context found]
    by_cases state : DeviceRelayService.proxyState m.newState = none
    · have known : s.relayConnectionManager.getConnectionById m.relaySideConnectionId = some rc := found
      have other : m.newState ≠ stateEstablished := by
        intro same
        simp [same,DeviceRelayService.proxyState] at state
      simp only [DeviceRelayService.onTerminalTargetConnectionUpdate,known,own,state,other,ne_eq,
        not_true_eq_false,if_false]
      exact iff_of_false (not_touches_nothing s id) (by simp [Dropped,state])
    · apply (touches_recognised m found own state id).trans
      constructor
      · rintro ⟨rfl,acts⟩
        refine ⟨rfl,?_⟩
        simp only [Dropped,state,false_or]
        tauto
      · rintro ⟨rfl,acts⟩
        refine ⟨rfl,?_⟩
        simp only [Dropped,state,false_or] at acts
        tauto

/-- A handler that leaves the contexts alone and sends nothing on behalf of one. -/
theorem not_touches_silent {s : DeviceRelayService keys} {handled : Handled keys}
    (contexts : handled.relay.relayConnectionManager = s.relayConnectionManager)
    (actions : ∀ a ∈ handled.actions, a.context = none) (id : Nat) :
    ¬ Touches s (handled.relay,handled.actions) id := by
  rintro (changed | ⟨a,member,context⟩)
  · exact changed (by simp only [DeviceRelayService.context?,contexts])
  · exact absurd ((actions a member).symm.trans context) (by simp)

theorem touches_ctrlPacket {s : DeviceRelayService keys} (self : SelfNamed s) (c : Nat)
    (packet : DevicePacket) (id : Nat) :
    let handled := s.onCtrlPacket cfg c packet
    Touches s (handled.relay,handled.actions) id ↔
      ∃ rc, packet.named .ctrl = some id ∧ s.context? id = some rc ∧ ¬ Dropped cfg s rc packet := by
  dsimp only
  cases packet with
  | dnsQueryResp requestId m =>
    cases m with
    | none => exact iff_of_false (not_touches_nothing s id) (by simp [DevicePacket.named])
    | some m =>
      simp only [DevicePacket.named,Dropped,Option.some.injEq]
      exact touches_dnsQueryResp self c requestId m id
  | initCtrlStream requestId m =>
    refine iff_of_false ?_ (by simp [DevicePacket.named])
    cases m with
    | none => exact not_touches_nothing s id
    | some m =>
      refine not_touches_silent rfl ?_ id
      simp [DeviceRelayService.onCtrlPacket,DeviceRelayService.onTerminalInitCtrlStream,
        RelayAction.context,trContext]
  | _ => exact iff_of_false (not_touches_nothing s id) (by simp [DevicePacket.named])

theorem touches_dataPacket {s : DeviceRelayService keys} (self : SelfNamed s) (c : Nat)
    (packet : DevicePacket) (id : Nat) :
    let handled := s.onDataPacket cfg c packet
    Touches s (handled.relay,handled.actions) id ↔
      ∃ rc, packet.named .data = some id ∧ s.context? id = some rc ∧ ¬ Dropped cfg s rc packet := by
  dsimp only
  cases packet with
  | notifyConnectionState m =>
    cases m with
    | none => exact iff_of_false (not_touches_nothing s id) (by simp [DevicePacket.named])
    | some m =>
      simp only [DevicePacket.named,Option.some.injEq]
      exact touches_connectionUpdate self m id
  | postData m =>
    cases m with
    | none => exact iff_of_false (not_touches_nothing s id) (by simp [DevicePacket.named])
    | some m =>
      simp only [DevicePacket.named,Dropped,Option.some.injEq]
      exact touches_postData self m id
  | initDataStream requestId m =>
    refine iff_of_false (not_touches_silent ?_ ?_ id) (by simp [DevicePacket.named])
    · exact contexts_initDataStream cfg s c requestId m
    · simp only [DeviceRelayService.onDataPacket,DeviceRelayService.onTerminalInitDataStream]
      repeat' split
      all_goals simp [RelayAction.context,trContext]
  | _ => exact iff_of_false (not_touches_nothing s id) (by simp [DevicePacket.named])

/-- A packet touches exactly the context that it names, unless it is dropped. -/
theorem touches_devicePacket {s : DeviceRelayService keys} (self : SelfNamed s) {c : Nat}
    {conn : DeviceConnection} (known : s.conn? c = some conn) (packet : DevicePacket) (id : Nat) :
    Touches s (s.step cfg (.devicePacket c packet)) id ↔
      ∃ rc, packet.named conn.type = some id ∧ s.context? id = some rc ∧ ¬ Dropped cfg s rc packet := by
  rw [touches_handled known]
  obtain ⟨type,deviceId⟩ := conn
  by_cases alive : packet = .keepAlive
  · subst alive
    refine iff_of_false (not_touches_silent rfl ?_ id) (by cases type <;> simp [DevicePacket.named])
    simp only [DeviceRelayService.onDevicePacket,DeviceRelayService.onDeviceKeepAlive,
      DeviceRelayService.reportDeviceOnState]
    repeat' split
    all_goals simp [RelayAction.context]
  · rw [onDevicePacket_dispatch cfg s c _ packet alive]
    cases type with
    | ctrl => exact touches_ctrlPacket self c packet id
    | data => exact touches_dataPacket self c packet id

/-- A packet of a device acts on no context of another device. -/
def DeviceIsolated (cfg : Config) (s : DeviceRelayService keys) (c : Nat) (conn : DeviceConnection)
    (packet : DevicePacket) : Prop :=
  ∀ id rc, s.context? id = some rc → Touches s (s.step cfg (.devicePacket c packet)) id →
    rc.deviceId = conn.deviceId

/-- No handler compares the device of the context with that of the sender, so a device is
kept off another's connections just when the packet names none of them or is dropped. -/
theorem device_isolation {s : DeviceRelayService keys} {log : List RelayAction}
    (reach : (relayMachine cfg keys).Reach Machine.anything s log) {c : Nat} {conn : DeviceConnection}
    (known : s.conn? c = some conn) (packet : DevicePacket) :
    DeviceIsolated cfg s c conn packet ↔
      ∀ id rc, packet.named conn.type = some id → s.context? id = some rc →
        rc.deviceId = conn.deviceId ∨ Dropped cfg s rc packet := by
  have touches (id : Nat) : Touches s (s.step cfg (.devicePacket c packet)) id ↔ ∃ rc,
      packet.named conn.type = some id ∧ s.context? id = some rc ∧ ¬ Dropped cfg s rc packet :=
    touches_devicePacket (self_named reach) known packet id
  constructor
  · intro isolated id rc named found
    by_cases dropped : Dropped cfg s rc packet
    · exact .inr dropped
    · exact .inl (isolated id rc found ((touches id).mpr ⟨rc,named,found,dropped⟩))
  · intro condition id rc found touched
    obtain ⟨rc',named,found',acts⟩ := (touches id).mp touched
    obtain rfl := Option.some.inj (found.symm.trans found')
    exact (condition id rc named found).resolve_right acts

/-- Two devices: device 1 with a relayed connection, and device 2. -/
def twoDevices : List RelayEvent :=
  registration ++ opening ++
    [.newDeviceConnection .ctrl,.newDeviceConnection .data,
      .devicePacket 4 (.initDataStream 2 (some ⟨3,ascii "key:000000010000000200000003",ascii "e"⟩))]

/-- Device 1 pushes data on its own connection. -/
theorem device_isolation_own :
    DeviceIsolated referenceConfig (after twoDevices).1 2 ⟨.data,1⟩ (.postData (some ⟨5,1,[1]⟩)) := by
  apply (device_isolation (after_reach twoDevices) (by decide) _).mpr
  intro id rc named found
  obtain rfl : 1 = id := Option.some.inj named
  obtain rfl := Option.some.inj (found.symm.trans (by decide : _ = some
    { relaySideConnectionId := 1, deviceSlot := 80, proxySideConnectionId := 7, deviceId := 1
      proxyConnectionId := 1 }))
  exact .inl rfl

/-- Device 2 injects a payload into the connection that was opened on device 1. -/
theorem device_injects_payload :
    ¬ ∀ s log c conn packet, (relayMachine referenceConfig .sequential).Reach Machine.anything s log →
      s.conn? c = some conn → conn.deviceId ≠ 0 → DeviceIsolated referenceConfig s c conn packet := by
  intro always
  have isolated := always _ _ 4 ⟨.data,2⟩ (.postData (some ⟨5,1,[1]⟩)) (after_reach twoDevices)
    (by decide) (by decide)
  have same := isolated 1
    { relaySideConnectionId := 1, deviceSlot := 80, proxySideConnectionId := 7, deviceId := 1
      proxyConnectionId := 1 } (by decide)
    (.inr ⟨.toProxy 1 (.postData ⟨7,1,[1]⟩),by decide,by decide⟩)
  exact absurd same (by decide)

/-! ## Packets of proxy-access servers -/

/-- The ids that the three requests on an open connection carry: the proxy's and the relay's. -/
def requestIds : PR.Message → Option (Nat × Nat)
  | .destroyConnection m => some (m.proxySideConnectionId,m.relaySideConnectionId)
  | .notifyConnectionState m => some (m.proxySideConnectionId,m.relaySideConnectionId)
  | .postData m => some (m.proxySideConnectionId,m.relaySideConnectionId)
  | _ => none

/-- Only pushed data is checked, and only against the id on the proxy's side. -/
def Refused (rc : RelayConnectionContext) : PR.Message → Prop
  | .postData m => rc.proxySideConnectionId ≠ m.proxySideConnectionId
  | _ => False

theorem touches_post {s : DeviceRelayService keys} (pointer : Option Nat) (m : TR.Message) (id : Nat) :
    Touches s (s,s.post pointer m) id ↔ trContext m = some id := by
  unfold DeviceRelayService.post
  cases pointer with
  | none => exact touches_one s _ id
  | some c =>
    dsimp only
    split <;> exact touches_one s _ id

/-- What the three handlers share: nothing without the context or its device, else one
message on the device's data connection. -/
theorem request_handled (cfg : Config) (s : DeviceRelayService keys) {m : PR.Message}
    {client relaySide : Nat} (ids : requestIds m = some (client,relaySide)) (p : Nat) :
    ∃ actions, s.onProxyData cfg p (.message (some m)) = ⟨s,actions,true⟩ ∧
      (actions = [] ∧ (∀ rc, s.context? relaySide = some rc →
          s.deviceManager.getDeviceById rc.deviceId = none ∨ Refused rc m) ∨
        ∃ rc pointer sent, actions = s.post pointer sent ∧ s.context? relaySide = some rc ∧
          s.deviceManager.getDeviceById rc.deviceId ≠ none ∧ ¬ Refused rc m ∧
          trContext sent = some rc.relaySideConnectionId ∧
          sent.deviceSideId = some rc.deviceSideConnectionId) := by
  cases found : s.context? relaySide with
  | none =>
    have unknown : s.relayConnectionManager.getConnectionById relaySide = none := found
    refine ⟨[],?_,.inl ⟨rfl,by simp⟩⟩
    cases m <;> simp [requestIds] at ids
    all_goals
      obtain ⟨-,rfl⟩ := ids
      simp [DeviceRelayService.onProxyData,DeviceRelayService.onProxyPacket,
        DeviceRelayService.onProxyDestroyConnection,DeviceRelayService.onProxyNotifyConnectionState,
        DeviceRelayService.onProxyPushData,unknown]
  | some rc =>
    have known : s.relayConnectionManager.getConnectionById relaySide = some rc := found
    cases device : s.deviceManager.getDeviceById rc.deviceId with
    | none =>
      refine ⟨[],?_,.inl ⟨rfl,by simp [device]⟩⟩
      cases m <;> simp [requestIds] at ids
      all_goals
        obtain ⟨-,rfl⟩ := ids
        simp [DeviceRelayService.onProxyData,DeviceRelayService.onProxyPacket,
          DeviceRelayService.onProxyDestroyConnection,DeviceRelayService.onProxyNotifyConnectionState,
          DeviceRelayService.onProxyPushData,known,device]
    | some d =>
      cases m with
      | destroyConnection m =>
        obtain ⟨-,rfl⟩ := Prod.mk.inj (Option.some.inj ids)
        refine ⟨_,?_,.inr ⟨rc,d.dataConnection,.destroyConnection
          ⟨rc.deviceSideConnectionId,rc.relaySideConnectionId⟩,rfl,rfl,by simp [device],id,rfl,rfl⟩⟩
        simp only [DeviceRelayService.onProxyData,DeviceRelayService.onProxyPacket,
          DeviceRelayService.onProxyDestroyConnection,known,device]
      | notifyConnectionState m =>
        obtain ⟨-,rfl⟩ := Prod.mk.inj (Option.some.inj ids)
        refine ⟨_,?_,.inr ⟨rc,d.dataConnection,.proxyClientNotify
          ⟨rc.deviceSideConnectionId,rc.relaySideConnectionId,stateUpdateTransfer,
            m.totalDumpedBytes,m.totalUploadedBytes⟩,rfl,rfl,by simp [device],id,rfl,rfl⟩⟩
        simp only [DeviceRelayService.onProxyData,DeviceRelayService.onProxyPacket,
          DeviceRelayService.onProxyNotifyConnectionState,known,device]
      | postData m =>
        obtain ⟨-,rfl⟩ := Prod.mk.inj (Option.some.inj ids)
        by_cases same : rc.proxySideConnectionId = m.proxySideConnectionId
        · refine ⟨_,?_,.inr ⟨rc,d.dataConnection,.postData
            ⟨rc.deviceSideConnectionId,rc.relaySideConnectionId,m.payload⟩,rfl,rfl,by simp [device],
            fun other => other same,rfl,rfl⟩⟩
          simp only [DeviceRelayService.onProxyData,DeviceRelayService.onProxyPacket,
            DeviceRelayService.onProxyPushData,known,device,same,ne_eq,not_true_eq_false,if_false]
        · refine ⟨[],?_,.inl ⟨rfl,?_⟩⟩
          · simp [DeviceRelayService.onProxyData,DeviceRelayService.onProxyPacket,
              DeviceRelayService.onProxyPushData,known,same]
          · rintro rc' equal
            obtain rfl := Option.some.inj equal
            exact .inr same
      | _ => simp [requestIds] at ids

/-- The three requests touch the context they name as long as its device can be looked up. -/
theorem touches_request {s : DeviceRelayService keys} (self : SelfNamed s) {p : Nat}
    (registered : s.proxy? p ≠ none) {m : PR.Message} {client relaySide : Nat}
    (ids : requestIds m = some (client,relaySide)) (id : Nat) :
    Touches s (s.step cfg (.proxyPacket p (.message (some m)))) id ↔
      ∃ rc, relaySide = id ∧ s.context? id = some rc ∧
        s.deviceManager.getDeviceById rc.deviceId ≠ none ∧ ¬ Refused rc m := by
  obtain ⟨conn,known⟩ := Option.ne_none_iff_exists'.mp registered
  have found : s.proxyConnectionManager.getConnectionById p = some conn := known
  obtain ⟨actions,handled,outcome⟩ := request_handled cfg s ids p
  have step : s.step cfg (.proxyPacket p (.message (some m))) = (s,actions) := by
    simp [DeviceRelayService.step,found,handled]
  rw [step]
  rcases outcome with ⟨rfl,refused⟩ | ⟨rc,pointer,sent,rfl,context,device,accepted,own,-⟩
  · apply iff_of_false (not_touches_nothing s id)
    rintro ⟨rc,rfl,context,device,accepted⟩
    rcases refused rc context with gone | refuses
    · exact device gone
    · exact accepted refuses
  · rw [touches_post,own,self relaySide rc context]
    constructor
    · intro same
      obtain rfl := Option.some.inj same
      exact ⟨rc,rfl,context,device,accepted⟩
    · rintro ⟨_,rfl,-⟩
      rfl

/-- A request acts only on a context that was opened over the same connection, under the same
id on the proxy's side; with ids of another proxy's connection it does nothing. -/
def ProxyIsolated (cfg : Config) (s : DeviceRelayService keys) (p : Nat) (m : PR.Message)
    (client relaySide : Nat) : Prop :=
  (∀ id rc, s.context? id = some rc →
    Touches s (s.step cfg (.proxyPacket p (.message (some m)))) id →
      rc.proxyConnectionId = p ∧ rc.proxySideConnectionId = client) ∧
  (∀ rc, s.context? relaySide = some rc → rc.proxyConnectionId ≠ p →
    s.step cfg (.proxyPacket p (.message (some m))) = (s,[]))

/-- No handler looks at the connection that the request came over, and only pushed data is
checked against the id on the proxy's side. -/
theorem proxy_isolation {s : DeviceRelayService keys} {log : List RelayAction}
    (reach : (relayMachine cfg keys).Reach Machine.anything s log) {p : Nat}
    (registered : s.proxy? p ≠ none) {m : PR.Message} {client relaySide : Nat}
    (ids : requestIds m = some (client,relaySide)) :
    ProxyIsolated cfg s p m client relaySide ↔ ∀ rc, s.context? relaySide = some rc →
      (rc.proxyConnectionId = p ∧ rc.proxySideConnectionId = client) ∨
        s.deviceManager.getDeviceById rc.deviceId = none ∨ Refused rc m := by
  have touches (id : Nat) : Touches s (s.step cfg (.proxyPacket p (.message (some m)))) id ↔
      ∃ rc, relaySide = id ∧ s.context? id = some rc ∧
        s.deviceManager.getDeviceById rc.deviceId ≠ none ∧ ¬ Refused rc m :=
    touches_request (self_named reach) registered ids id
  constructor
  · rintro ⟨isolated,-⟩ rc found
    by_cases touched : Touches s (s.step cfg (.proxyPacket p (.message (some m)))) relaySide
    · exact .inl (isolated relaySide rc found touched)
    · right
      rw [touches] at touched
      by_contra acts
      obtain ⟨device,refused⟩ := not_or.mp acts
      exact touched ⟨rc,rfl,found,device,refused⟩
  · intro condition
    constructor
    · intro id rc found touched
      obtain ⟨rc',rfl,found',device,accepted⟩ := (touches id).mp touched
      obtain rfl := Option.some.inj (found.symm.trans found')
      rcases condition rc found with own | gone | refused
      · exact own
      · exact absurd gone device
      · exact absurd refused accepted
    · intro rc found foreign
      obtain ⟨conn,known⟩ := Option.ne_none_iff_exists'.mp registered
      have proxy : s.proxyConnectionManager.getConnectionById p = some conn := known
      obtain ⟨actions,handled,outcome⟩ := request_handled cfg s ids p
      have step : s.step cfg (.proxyPacket p (.message (some m))) = (s,actions) := by
        simp [DeviceRelayService.step,proxy,handled]
      rw [step]
      rcases outcome with ⟨rfl,-⟩ | ⟨rc',pointer,sent,rfl,context,device,accepted,-⟩
      · rfl
      · obtain rfl := Option.some.inj (found.symm.trans context)
        rcases condition rc found with own | gone | refused
        · exact absurd own.1 foreign
        · exact absurd gone device
        · exact absurd refused accepted

/-- A second proxy-access server connects to a relay where the first has a connection. -/
def twoProxies : List RelayEvent :=
  registration ++ opening ++ [.newProxyConnection,.proxyPacket 2 (.message (some .challenge))]

theorem proxy_isolation_own :
    ProxyIsolated referenceConfig (after twoProxies).1 1 (.postData ⟨7,1,[1]⟩) 7 1 := by
  apply (proxy_isolation (after_reach twoProxies) (by decide) rfl).mpr
  intro rc found
  obtain rfl := Option.some.inj (found.symm.trans (by decide : _ = some
    { relaySideConnectionId := 1, deviceSlot := 80, proxySideConnectionId := 7, deviceId := 1
      proxyConnectionId := 1 }))
  exact .inl ⟨rfl,rfl⟩

/-- The second proxy destroys the first one's connection, under an id that is not even its. -/
theorem proxy_destroys_foreign :
    ¬ ∀ s log p m client relaySide,
      (relayMachine referenceConfig .sequential).Reach Machine.anything s log →
      s.proxy? p ≠ none → requestIds m = some (client,relaySide) →
      ProxyIsolated referenceConfig s p m client relaySide := by
  intro always
  have isolated := always _ _ 2 (.destroyConnection ⟨9,1⟩) 9 1 (after_reach twoProxies) (by decide) rfl
  have own := isolated.1 1
    { relaySideConnectionId := 1, deviceSlot := 80, proxySideConnectionId := 7, deviceId := 1
      proxyConnectionId := 1 } (by decide)
    (.inr ⟨.toDevice 2 (.destroyConnection ⟨80,1⟩),by decide,by decide⟩)
  exact absurd own.1 (by decide)

end MiniPP.Relay
