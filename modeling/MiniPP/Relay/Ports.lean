import MiniPP.Relay.DeviceTable
import MiniPP.Relay.Isolation

/-! A context keeps its target port and the id on its device's side in one slot. Which of
the two a handler reads is fixed by the packet it handles; which of the two the slot holds
depends on what devices have announced by then. -/
namespace MiniPP.Relay

variable {keys : Keys} {cfg : Config}

/-! ## What was announced -/

/-- The past of a context: the port it was opened with, the last id that its own device
announced for it, and the last id that any device announced. -/
structure Ledger where
  port : Nat := 0
  own : Option Nat := none
  latest : Option Nat := none
  deriving DecidableEq, Repr

/-- A `STATE_ESTABLISHED` that its handler gets to see, with the device it comes from. -/
def announcement (s : DeviceRelayService keys) : RelayEvent → Option (Nat × TR.ConnectionStateNotify)
  | .devicePacket c (.notifyConnectionState (some m)) =>
    match s.conn? c with
    | some ⟨.data,deviceId⟩ => if m.newState = stateEstablished then some (deviceId,m) else none
    | _ => none
  | _ => none

def Ledger.announce (entry : Ledger) (rc : RelayConnectionContext) (deviceId : Nat)
    (m : TR.ConnectionStateNotify) : Ledger :=
  if rc.relaySideConnectionId ≠ m.relaySideConnectionId then entry
  else
    { entry with
      own := if rc.deviceId = deviceId then some (m.deviceSideConnectionId % 2^32) else entry.own
      latest := some (m.deviceSideConnectionId % 2^32) }

/-- Ids that are not in use are noted down with the port of the last request to open a
context, so a new context finds its own port there. -/
def record (s : DeviceRelayService keys) (e : RelayEvent) (ledger : Nat → Ledger) (id : Nat) : Ledger :=
  match s.context? id with
  | none =>
    match e with
    | .proxyPacket _ (.message (some (.createConnection m))) => { port := m.hostnamePort % 2^16 }
    | _ => ledger id
  | some rc =>
    match announcement s e with
    | none => ledger id
    | some (deviceId,m) => (ledger id).announce rc deviceId m

abbrev ledgerMachine (cfg : Config) (keys : Keys) :
    Machine (DeviceRelayService keys × (Nat → Ledger)) RelayEvent RelayAction :=
  (relayMachine cfg keys).withGhost (fun _ => {}) record

/-! ## What the slot holds -/

/-- The slot holds the last id that was announced, and before that the port. -/
structure Noted (entry : Ledger) (rc : RelayConnectionContext) : Prop where
  slot : rc.deviceSideConnectionId = entry.latest.getD entry.port
  announced : entry.own ≠ none → entry.latest ≠ none
  port : entry.port < 2^16

theorem Noted.targetPort {entry : Ledger} {rc : RelayConnectionContext} (noted : Noted entry rc) :
    rc.targetPort = entry.port ↔ ∀ v, entry.latest = some v → v % 2^16 = entry.port := by
  have slot := noted.slot
  have bound := noted.port
  have half : rc.targetPort = rc.deviceSideConnectionId % 2^16 := by
    simp only [RelayConnectionContext.targetPort,RelayConnectionContext.deviceSideConnectionId]
    omega
  rw [half,slot]
  cases latest : entry.latest with
  | none =>
    rw [Option.getD_none,Nat.mod_eq_of_lt bound]
    simp
  | some v => simp

theorem Noted.deviceSide {entry : Ledger} {rc : RelayConnectionContext} (noted : Noted entry rc) :
    entry.own = some rc.deviceSideConnectionId ↔
      ∃ v, entry.own = some v ∧ entry.latest = some v := by
  constructor
  · intro own
    obtain ⟨v,latest⟩ := Option.ne_none_iff_exists'.mp (noted.announced (by simp [own]))
    refine ⟨v,?_,latest⟩
    rw [own,noted.slot,latest,Option.getD_some]
  · rintro ⟨v,own,latest⟩
    rw [noted.slot,latest,Option.getD_some,own]

theorem noted_announce {entry : Ledger} {rc : RelayConnectionContext} (noted : Noted entry rc)
    (deviceId : Nat) (m : TR.ConnectionStateNotify) :
    Noted (entry.announce rc deviceId m)
      (if rc.relaySideConnectionId ≠ m.relaySideConnectionId then rc
        else { rc with deviceSlot := m.deviceSideConnectionId }) := by
  unfold Ledger.announce
  split
  · exact noted
  · exact ⟨rfl,by simp,noted.port⟩

/-! ## What a step does to a context -/

/-- A context is opened by a request of a proxy, on a device that can be looked up, and gets
the next key. -/
theorem context_opened {s : DeviceRelayService keys} {e : RelayEvent} {id : Nat}
    {rc : RelayConnectionContext} (fresh : s.context? id = none)
    (opened : (s.step cfg e).1.context? id = some rc) :
    ∃ p m d, e = .proxyPacket p (.message (some (.createConnection m))) ∧ s.proxy? p ≠ none ∧
      s.deviceManager.getDeviceById m.relaySideDeviceId = some d ∧
      id = s.relayConnectionManager.contextPool.nextKey ∧
      rc = DeviceRelayService.fillContext d p m { relaySideConnectionId := id } := by
  have move := step_contextMove cfg s e
  generalize after : (s.step cfg e).1 = s' at move opened
  cases move with
  | same contexts =>
    rw [DeviceRelayService.context?,contexts] at opened
    exact absurd (fresh.symm.trans opened) (by simp)
  | established c m state contexts =>
    rw [contexts,fresh] at opened
    simp at opened
  | created p new m rc' registered free self proxy client contexts =>
    obtain ⟨conn,known⟩ := Option.ne_none_iff_exists'.mp registered
    have found : s.proxyConnectionManager.getConnectionById p = some conn := known
    have step : s' = (s.onProxyCreateConnection cfg p m).relay := by
      rw [← after]
      simp [DeviceRelayService.step,found,DeviceRelayService.onProxyData,
        DeviceRelayService.onProxyPacket]
    subst step
    cases device : s.deviceManager.getDeviceById m.relaySideDeviceId with
    | none =>
      simp only [DeviceRelayService.onProxyCreateConnection,device] at opened
      exact absurd (fresh.symm.trans opened) (by simp)
    | some d =>
      refine ⟨p,m,d,rfl,registered,device,?_⟩
      simp only [DeviceRelayService.onProxyCreateConnection,device] at opened
      cases create : s.relayConnectionManager.create (DeviceRelayService.fillContext d p m) with
      | none =>
        simp only [create] at opened
        exact absurd (fresh.symm.trans opened) (by simp)
      | some new =>
        obtain ⟨new,manager⟩ := new
        simp only [create,apply_ite Handled.relay,ite_self,DeviceRelayService.context?,
          (create_spec create).2.2 id] at opened
        split at opened
        · rename_i here
          exact ⟨here.trans (create_spec create).1,by rw [← Option.some.inj opened,here]⟩
        · exact absurd (fresh.symm.trans opened) (by simp)

theorem announcement_spec {s : DeviceRelayService keys} {e : RelayEvent} {deviceId : Nat}
    {m : TR.ConnectionStateNotify} (announced : announcement s e = some (deviceId,m)) :
    ∃ c, e = .devicePacket c (.notifyConnectionState (some m)) ∧
      s.conn? c = some ⟨.data,deviceId⟩ ∧ m.newState = stateEstablished := by
  unfold announcement at announced
  split at announced
  · split at announced
    · rename_i held
      split at announced
      · rename_i state
        obtain ⟨rfl,rfl⟩ := Prod.mk.inj (Option.some.inj announced)
        exact ⟨_,rfl,held,state⟩
      · simp at announced
    · simp at announced
  · simp at announced

theorem step_connectionUpdate {s : DeviceRelayService keys} {c deviceId : Nat}
    (known : s.conn? c = some ⟨.data,deviceId⟩) (m : Option TR.ConnectionStateNotify) :
    (s.step cfg (.devicePacket c (.notifyConnectionState m))).1 =
      (s.onTerminalTargetConnectionUpdate m).relay := by
  have found : s.deviceConnectionManager.getConnectionById c = some ⟨.data,deviceId⟩ := known
  simp only [DeviceRelayService.step,found,DeviceRelayService.onDevicePacket,
    DeviceRelayService.onDataPacket]

/-- An id that is announced on anything but a data connection is not looked at. -/
theorem step_not_announced {s : DeviceRelayService keys} {c : Nat} {m : TR.ConnectionStateNotify}
    (silent : announcement s (.devicePacket c (.notifyConnectionState (some m))) = none)
    (state : m.newState = stateEstablished) :
    (s.step cfg (.devicePacket c (.notifyConnectionState (some m)))).1 = s := by
  cases known : s.conn? c with
  | none =>
    have unknown : s.deviceConnectionManager.getConnectionById c = none := known
    simp only [DeviceRelayService.step,unknown]
  | some conn =>
    have found : s.deviceConnectionManager.getConnectionById c = some conn := known
    obtain ⟨type,deviceId⟩ := conn
    cases type with
    | ctrl =>
      simp only [DeviceRelayService.step,found,DeviceRelayService.onDevicePacket,
        DeviceRelayService.onCtrlPacket]
    | data => simp [announcement,known,state] at silent

theorem relay_named {s : DeviceRelayService keys} (self : SelfNamed s) {rc : RelayConnectionContext}
    {m : TR.ConnectionStateNotify} (found : s.context? m.relaySideConnectionId = some rc)
    (state : m.newState = stateEstablished) :
    (s.onTerminalTargetConnectionUpdate (some m)).relay =
      { s with
        relayConnectionManager := s.relayConnectionManager.setDeviceSideConnectionId
          m.relaySideConnectionId m.deviceSideConnectionId } := by
  have known : s.relayConnectionManager.getConnectionById m.relaySideConnectionId = some rc := found
  have own : rc.relaySideConnectionId = m.relaySideConnectionId := self _ rc found
  simp only [DeviceRelayService.onTerminalTargetConnectionUpdate,known,own,state,ne_eq,
    not_true_eq_false,if_false,if_true,DeviceRelayService.proxyState]
  split <;> rfl

/-- A context that exists only ever has its slot overwritten, by an announcement. -/
theorem context_kept {s : DeviceRelayService keys} (self : SelfNamed s) {id : Nat}
    {rc : RelayConnectionContext} (found : s.context? id = some rc) (e : RelayEvent) :
    (s.step cfg e).1.context? id = some (match announcement s e with
      | none => rc
      | some (_,m) => if rc.relaySideConnectionId ≠ m.relaySideConnectionId then rc
        else { rc with deviceSlot := m.deviceSideConnectionId }) := by
  cases announced : announcement s e with
  | some announcer =>
    obtain ⟨deviceId,m⟩ := announcer
    obtain ⟨c,rfl,known,state⟩ := announcement_spec announced
    rw [step_connectionUpdate known]
    have own : rc.relaySideConnectionId = id := self id rc found
    by_cases named : id = m.relaySideConnectionId
    · subst named
      rw [relay_named self found state]
      simp [DeviceRelayService.context?,contexts_established,own,found]
    · dsimp only
      rw [if_pos (by rw [own]; exact named)]
      rcases s.relay_connectionUpdate m with same | ⟨-,new⟩
      · rw [same,found]
      · rw [new,DeviceRelayService.context?,contexts_established,if_neg named]
        exact found
  | none =>
    have move := step_contextMove cfg s e
    revert announced
    generalize after : (s.step cfg e).1 = s' at move
    cases move with
    | same contexts => intro _; rw [DeviceRelayService.context?,contexts]; exact found
    | created p new m rc' registered fresh self proxy client contexts =>
      intro _
      rw [contexts,if_neg ?_,found]
      rintro rfl
      exact absurd (fresh.symm.trans found) (by simp)
    | established c m state contexts =>
      intro announced
      rw [← after,step_not_announced announced state]
      exact found

/-! ## Runs -/

def Recorded (s : DeviceRelayService keys) (ledger : Nat → Ledger) : Prop :=
  ∀ id rc, s.context? id = some rc → Noted (ledger id) rc

theorem recorded_step {s : DeviceRelayService keys} {ledger : Nat → Ledger} (self : SelfNamed s)
    (recorded : Recorded s ledger) (e : RelayEvent) :
    Recorded (s.step cfg e).1 (record s e ledger) := by
  intro id rc present
  cases before : s.context? id with
  | none =>
    obtain ⟨p,m,d,rfl,-,-,-,rfl⟩ := context_opened before present
    simp only [record,before]
    have bound : m.hostnamePort % 2^16 < 2^16 := Nat.mod_lt _ (by decide)
    refine ⟨?_,by simp,bound⟩
    simp only [DeviceRelayService.fillContext,RelayConnectionContext.deviceSideConnectionId,
      RelayConnectionContext.setTargetPort,Option.getD_none]
    omega
  | some old =>
    have noted : Noted (ledger id) old := recorded id old before
    have kept := Option.some.inj ((context_kept self before e).symm.trans present)
    simp only [record,before]
    cases announced : announcement s e with
    | none =>
      simp only [announced] at kept
      exact kept ▸ noted
    | some announcer =>
      simp only [announced] at kept
      exact kept ▸ noted_announce noted announcer.1 announcer.2

theorem recorded_run {s : DeviceRelayService keys} {ledger : Nat → Ledger} {log : List RelayAction}
    {ok : DeviceRelayService keys × (Nat → Ledger) → List RelayAction → RelayEvent → Prop}
    (reach : (ledgerMachine cfg keys).Reach ok (s,ledger) log) : Recorded s ledger := by
  apply reach.invariant (I := fun c _ => Recorded c.1 c.2)
  · rintro ⟨s,ledger⟩ ⟨⟨ticker,_,_,_,_,rfl⟩,-⟩ id rc found
    simp [DeviceRelayService.init,RelayConnectionManager.init,DeviceRelayService.context?] at found
  · exact fun c _ e before _ recorded => recorded_step (self_named before.forget) recorded e

/-! ## What is sent to devices -/

/-- The messages that a step posts to devices: an id of the device's side is the one that the
context's own device announced, and a connection asked for after a DNS answer is to the port
of the original request. -/
structure Truthful (cfg : Config) (s : DeviceRelayService keys) (ledger : Nat → Ledger)
    (e : RelayEvent) : Prop where
  ids : ∀ a ∈ (s.step cfg e).2, ∀ m v, a.posted = some m → m.deviceSideId = some v →
    ∃ id, trContext m = some id ∧ (ledger id).own = some v
  ports : ∀ c requestId answer, e = .devicePacket c (.dnsQueryResp requestId answer) →
    ∀ a ∈ (s.step cfg e).2, ∀ m, a.posted = some (.createConnection m) →
      m.targetAddress.port = (ledger m.relaySideConnectionId).port

/-- A request of a proxy that gets to a device comes when the last id announced for the
context is its own device's; a DNS answer that is used comes before any announcement, or
after one whose lower half-word happens to be the port. -/
def Timely (cfg : Config) (s : DeviceRelayService keys) (ledger : Nat → Ledger) : RelayEvent → Prop
  | .proxyPacket p (.message (some m)) =>
    ∀ client relaySide rc, s.proxy? p ≠ none → requestIds m = some (client,relaySide) →
      s.context? relaySide = some rc → s.deviceManager.getDeviceById rc.deviceId ≠ none →
      ¬ Refused rc m →
        ∃ v, (ledger relaySide).own = some v ∧ (ledger relaySide).latest = some v
  | .devicePacket c (.dnsQueryResp requestId (some m)) =>
    ∀ deviceId, s.conn? c = some ⟨.ctrl,deviceId⟩ → s.context? requestId ≠ none →
      DeviceRelayService.selectAddress cfg m ≠ none →
        ∀ v, (ledger requestId).latest = some v → v % 2^16 = (ledger requestId).port
  | _ => True

theorem posted_post (s : DeviceRelayService keys) (pointer : Option Nat) (m : TR.Message) :
    ∃ a, s.post pointer m = [a] ∧ a.posted = some m := by
  unfold DeviceRelayService.post
  split
  · exact ⟨_,rfl,rfl⟩
  · split <;> exact ⟨_,rfl,rfl⟩

theorem post_anonymous (s : DeviceRelayService keys) (pointer : Option Nat) {m : TR.Message}
    (anonymous : m.deviceSideId = none) :
    ∀ a ∈ s.post pointer m, ∀ m ∈ a.posted, m.deviceSideId = none := by
  obtain ⟨a,posts,posted⟩ := posted_post s pointer m
  simp [posts,posted,anonymous]

theorem createConnection_anonymous (cfg : Config) (s : DeviceRelayService keys) (p : Nat)
    (m : PR.CreateConnection) :
    ∀ a ∈ (s.onProxyCreateConnection cfg p m).actions, ∀ m ∈ a.posted, m.deviceSideId = none := by
  unfold DeviceRelayService.onProxyCreateConnection
  split
  · simp [RelayAction.posted]
  · dsimp only
    split
    · simp [RelayAction.posted]
    · split
      · exact post_anonymous _ _ rfl
      · split
        · exact post_anonymous _ _ rfl
        · simp

/-- The three requests are the only ones that send an id of the device's side. -/
theorem proxyData_anonymous (cfg : Config) (s : DeviceRelayService keys) (p : Nat) {packet : ProxyPacket}
    (other : ∀ m, packet = .message (some m) → requestIds m = none) :
    ∀ a ∈ (s.onProxyData cfg p packet).actions, ∀ m ∈ a.posted, m.deviceSideId = none := by
  rcases packet with _ | _ | m
  · simp [DeviceRelayService.onProxyData,RelayAction.posted]
  · simp [DeviceRelayService.onProxyData,DeviceRelayService.onProxyPacket]
  · have notRequest := other m rfl
    cases m with
    | challenge =>
      simp [DeviceRelayService.onProxyData,DeviceRelayService.onProxyPacket,
        DeviceRelayService.onProxyChallenge,RelayAction.posted]
    | challengeResp _ => simp [DeviceRelayService.onProxyData,DeviceRelayService.onProxyPacket]
    | createConnection m => exact createConnection_anonymous cfg s p m
    | destroyConnection _ | notifyConnectionState _ | postData _ => simp [requestIds] at notRequest

/-- Every other event sends no id of the device's side. -/
theorem step_anonymous (cfg : Config) (s : DeviceRelayService keys) {e : RelayEvent}
    (other : ∀ p m, e = .proxyPacket p (.message (some m)) → requestIds m = none) :
    ∀ a ∈ (s.step cfg e).2, ∀ m ∈ a.posted, m.deviceSideId = none := by
  intro a member
  rcases step_actions member with unasked | ⟨c,conn,packet,-,-,handled⟩ | ⟨p,-,packet,rfl,-,handled⟩
  · cases a <;> simp_all [RelayAction.Unasked,RelayAction.posted]
  · exact (devicePacket_plain cfg s c conn packet a handled).2
  · refine proxyData_anonymous cfg s p (fun m same => other p m ?_) a handled
    rw [same]

/-- A request sends the slot of the context that it names. -/
theorem truthful_request {s : DeviceRelayService keys} {ledger : Nat → Ledger} (self : SelfNamed s)
    (recorded : Recorded s ledger) (p : Nat) {m : PR.Message} {client relaySide : Nat}
    (ids : requestIds m = some (client,relaySide)) :
    Truthful cfg s ledger (.proxyPacket p (.message (some m))) ↔
      Timely cfg s ledger (.proxyPacket p (.message (some m))) := by
  cases proxy : s.proxy? p with
  | none =>
    have unknown : s.proxyConnectionManager.getConnectionById p = none := proxy
    refine iff_of_true ⟨?_,by simp⟩ ?_
    · simp [DeviceRelayService.step,unknown]
    · simp [Timely,proxy]
  | some conn =>
    have found : s.proxyConnectionManager.getConnectionById p = some conn := proxy
    obtain ⟨actions,handled,outcome⟩ := request_handled cfg s ids p
    have step : s.step cfg (.proxyPacket p (.message (some m))) = (s,actions) := by
      simp [DeviceRelayService.step,found,handled]
    have only : Truthful cfg s ledger (.proxyPacket p (.message (some m))) ↔
        ∀ a ∈ actions, ∀ m v, a.posted = some m → m.deviceSideId = some v →
          ∃ id, trContext m = some id ∧ (ledger id).own = some v := by
      have sends : (s.step cfg (.proxyPacket p (.message (some m)))).2 = actions :=
        congrArg Prod.snd step
      rw [← sends]
      exact ⟨fun h => h.ids,fun h => ⟨h,by simp⟩⟩
    rw [only]
    rcases outcome with ⟨rfl,refused⟩ | ⟨rc,pointer,sent,rfl,context,device,accepted,own,slot⟩
    · apply iff_of_true (by simp)
      intro client' relaySide' rc _ ids' context device accepted
      obtain ⟨-,rfl⟩ := Prod.mk.inj (Option.some.inj (ids.symm.trans ids'))
      rcases refused rc context with gone | refuses
      · exact absurd gone device
      · exact absurd refuses accepted
    · obtain ⟨a,posts,posted⟩ := posted_post s pointer sent
      have named : rc.relaySideConnectionId = relaySide := self relaySide rc context
      have noted : Noted (ledger relaySide) rc := recorded relaySide rc context
      have carries : (∀ a ∈ s.post pointer sent, ∀ m v, a.posted = some m → m.deviceSideId = some v →
          ∃ id, trContext m = some id ∧ (ledger id).own = some v) ↔
            (ledger relaySide).own = some rc.deviceSideConnectionId := by
        rw [posts]
        constructor
        · intro right
          obtain ⟨id,here,announced⟩ := right a (List.mem_singleton_self a) sent _ posted slot
          rw [own,named] at here
          exact Option.some.inj here ▸ announced
        · rintro announced _ member m v posts' slot'
          rw [List.mem_singleton.mp member,posted] at posts'
          obtain rfl := Option.some.inj posts'
          obtain rfl := Option.some.inj (slot.symm.trans slot')
          exact ⟨relaySide,by rw [own,named],announced⟩
      rw [carries,noted.deviceSide]
      constructor
      · intro announced client' relaySide' rc' _ ids' _ _ _
        obtain ⟨-,rfl⟩ := Prod.mk.inj (Option.some.inj (ids.symm.trans ids'))
        exact announced
      · intro timely
        exact timely client relaySide rc (by simp [proxy]) ids context device accepted

theorem truthful_silent {s : DeviceRelayService keys} {ledger : Nat → Ledger} {e : RelayEvent}
    (anonymous : ∀ a ∈ (s.step cfg e).2, ∀ m ∈ a.posted, m.deviceSideId = none)
    (none : ∀ a ∈ (s.step cfg e).2, ∀ m, a.posted ≠ some (.createConnection m)) :
    Truthful cfg s ledger e := by
  refine ⟨?_,fun _ _ _ _ a member m posted => absurd posted (none a member m)⟩
  intro a member m v posted slot
  exact absurd ((anonymous a member m posted).symm.trans slot) (by simp)

/-- A DNS answer is dropped, or its context's connection is asked for. -/
theorem step_answer (cfg : Config) (s : DeviceRelayService keys) (c requestId : Nat)
    (m : Option TR.DnsQueryResp) :
    let sends := (s.step cfg (.devicePacket c (.dnsQueryResp requestId m))).2
    ((∀ a ∈ sends, a.posted = none) ∧
      ∀ answer deviceId, m = some answer → s.conn? c = some ⟨.ctrl,deviceId⟩ →
        s.context? requestId = none ∨ DeviceRelayService.selectAddress cfg answer = none) ∨
    ∃ answer deviceId rc address, m = some answer ∧ s.conn? c = some ⟨.ctrl,deviceId⟩ ∧
      s.context? requestId = some rc ∧ DeviceRelayService.selectAddress cfg answer = some address ∧
      sends = [.toDevice c (.createConnection
        { relaySideConnectionId := rc.relaySideConnectionId
          targetAddress := { address with port := rc.targetPort } })] := by
  dsimp only
  cases known : s.conn? c with
  | none =>
    have unknown : s.deviceConnectionManager.getConnectionById c = none := known
    simp [DeviceRelayService.step,unknown]
  | some conn =>
    have found : s.deviceConnectionManager.getConnectionById c = some conn := known
    obtain ⟨type,deviceId⟩ := conn
    cases type with
    | data =>
      left
      simp [DeviceRelayService.step,found,DeviceRelayService.onDevicePacket,
        DeviceRelayService.onDataPacket,RelayAction.posted]
    | ctrl =>
      simp only [DeviceRelayService.step,found,DeviceRelayService.onDevicePacket,
        DeviceRelayService.onCtrlPacket]
      cases m with
      | none => simp [DeviceRelayService.onTerminalDnsQueryResp,RelayAction.posted]
      | some answer =>
        cases context : s.relayConnectionManager.getConnectionById requestId with
        | none =>
          have unknown : s.context? requestId = none := context
          simp [DeviceRelayService.onTerminalDnsQueryResp,context,unknown]
        | some rc =>
          have known : s.context? requestId = some rc := context
          cases selected : DeviceRelayService.selectAddress cfg answer with
          | none => simp [DeviceRelayService.onTerminalDnsQueryResp,context,selected]
          | some address =>
            right
            refine ⟨answer,deviceId,rc,address,rfl,rfl,known,selected,?_⟩
            simp [DeviceRelayService.onTerminalDnsQueryResp,context,selected]

/-- A DNS answer that is used asks for a connection to the lower half-word of the slot. -/
theorem truthful_answer {s : DeviceRelayService keys} {ledger : Nat → Ledger} (self : SelfNamed s)
    (recorded : Recorded s ledger) (c requestId : Nat) (m : Option TR.DnsQueryResp) :
    Truthful cfg s ledger (.devicePacket c (.dnsQueryResp requestId m)) ↔
      Timely cfg s ledger (.devicePacket c (.dnsQueryResp requestId m)) := by
  have anonymous : ∀ a ∈ (s.step cfg (.devicePacket c (.dnsQueryResp requestId m))).2,
      ∀ m ∈ a.posted, m.deviceSideId = none := step_anonymous cfg s (by simp)
  rcases step_answer cfg s c requestId m with ⟨silent,dropped⟩ |
    ⟨answer,deviceId,rc,address,rfl,known,context,selected,sends⟩
  · apply iff_of_true (truthful_silent anonymous fun a member m => by simp [silent a member])
    cases m with
    | none => trivial
    | some answer =>
      intro deviceId known context selected
      rcases dropped answer deviceId rfl known with gone | unusable
      · exact absurd gone context
      · exact absurd unusable selected
  · have named : rc.relaySideConnectionId = requestId := self requestId rc context
    have noted : Noted (ledger requestId) rc := recorded requestId rc context
    have port : Truthful cfg s ledger (.devicePacket c (.dnsQueryResp requestId (some answer))) ↔
        rc.targetPort = (ledger requestId).port := by
      constructor
      · intro truthful
        have right := truthful.ports c requestId (some answer) rfl
        rw [sends] at right
        simpa [named] using right _ (List.mem_singleton_self _) _ rfl
      · intro same
        refine ⟨fun a member m v posted slot => ?_,?_⟩
        · exact absurd ((anonymous a member m posted).symm.trans slot) (by simp)
        · rintro _ _ _ - a member m posted
          rw [sends] at member
          rw [List.mem_singleton.mp member] at posted
          cases posted
          simpa [named] using same
    rw [port,noted.targetPort]
    constructor
    · exact fun same _ _ _ _ => same
    · exact fun timely => timely deviceId known (by simp [context]) (by simp [selected])

/-- Every message to a device is right just when its event is timely. -/
theorem truthful_iff_timely {s : DeviceRelayService keys} {ledger : Nat → Ledger}
    {log : List RelayAction}
    {ok : DeviceRelayService keys × (Nat → Ledger) → List RelayAction → RelayEvent → Prop}
    (reach : (ledgerMachine cfg keys).Reach ok (s,ledger) log) (e : RelayEvent) :
    Truthful cfg s ledger e ↔ Timely cfg s ledger e := by
  have self : SelfNamed s := self_named reach.forget
  have recorded : Recorded s ledger := recorded_run reach
  by_cases request : ∃ p m ids, e = .proxyPacket p (.message (some m)) ∧ requestIds m = some ids
  · obtain ⟨p,m,⟨client,relaySide⟩,rfl,ids⟩ := request
    exact truthful_request self recorded p ids
  · by_cases answer : ∃ c requestId m, e = .devicePacket c (.dnsQueryResp requestId m)
    · obtain ⟨c,requestId,m,rfl⟩ := answer
      exact truthful_answer self recorded c requestId m
    · have named (p : Nat) (m : PR.Message) (same : e = .proxyPacket p (.message (some m))) :
          requestIds m = none :=
        Option.eq_none_iff_forall_ne_some.mpr fun ids named => request ⟨p,m,ids,same,named⟩
      have anonymous := step_anonymous cfg s named
      refine iff_of_true ⟨?_,?_⟩ ?_
      · intro a member m v posted slot
        exact absurd ((anonymous a member m posted).symm.trans slot) (by simp)
      · exact fun c requestId m same => absurd ⟨c,requestId,m,same⟩ answer
      · unfold Timely
        split
        · rename_i p m
          intro client relaySide rc _ ids
          exact absurd ((named p m rfl).symm.trans ids) (by simp)
        · exact absurd ⟨_,_,_,rfl⟩ answer
        · trivial

/-- A run sends only right messages to devices just when all its events are timely. -/
theorem device_ids_not_ports {s : DeviceRelayService keys} (start : (relayMachine cfg keys).start s)
    (es : List RelayEvent) :
    (ledgerMachine cfg keys).Allowed (fun c _ e => Truthful cfg c.1 c.2 e) (s,fun _ => {}) [] es ↔
      (ledgerMachine cfg keys).Allowed (fun c _ e => Timely cfg c.1 c.2 e) (s,fun _ => {}) [] es :=
  Machine.allowed_iff (fun _ _ e reach => truthful_iff_timely reach e) (.start ⟨start,rfl⟩) es

/-- The target is looked up, the device announces its id, and then the client sends data. -/
def orderly : List RelayEvent :=
  registration ++ opening ++
    [.devicePacket 1 (.dnsQueryResp 1 (some ⟨ascii "h",⟨.ipv4,[9,9,9,9],0⟩,.unspecified⟩)),
      .devicePacket 2 (.notifyConnectionState (some ⟨5,1,stateEstablished,0,0⟩)),
      .proxyPacket 1 (.message (some (.postData ⟨7,1,[1]⟩)))]

theorem device_ids_not_ports_orderly :
    (ledgerMachine referenceConfig .sequential).Allowed
      (fun c _ e => Truthful referenceConfig c.1 c.2 e) (smallRelay,fun _ => {}) [] orderly := by
  refine (device_ids_not_ports ⟨_,_,_,_,_,rfl⟩ orderly).mpr ?_
  refine ⟨trivial,trivial,trivial,trivial,trivial,?challenge,?create,?answer,trivial,?push,trivial⟩
  case challenge => exact fun _ _ _ _ ids => absurd ids (by simp [requestIds])
  case create => exact fun _ _ _ _ ids => absurd ids (by simp [requestIds])
  case answer => exact fun _ _ _ _ v latest => by cases latest
  case push =>
    intro client relaySide rc _ ids _ _ _
    obtain rfl : 1 = relaySide := (Prod.mk.inj (Option.some.inj ids)).2
    exact ⟨5,by decide,by decide⟩

/-- The client gives up before the device has announced an id: the device is told to destroy
its connection 80, which is the port. -/
theorem port_sent_as_id :
    ¬ ∀ s es, (relayMachine referenceConfig .sequential).start s →
      (ledgerMachine referenceConfig .sequential).Allowed
        (fun c _ e => Truthful referenceConfig c.1 c.2 e) (s,fun _ => {}) [] es := by
  intro always
  let es : List RelayEvent := registration ++ opening
  let last : RelayEvent := .proxyPacket 1 (.message (some (.destroyConnection ⟨7,1⟩)))
  have allowed := always smallRelay (es ++ [last]) ⟨_,_,_,_,_,rfl⟩
  have truthful := ((Machine.allowed_append es [last]).mp allowed).2.1
  obtain ⟨id,context,own⟩ := truthful.ids (.toDevice 2 (.destroyConnection ⟨80,1⟩)) (by decide) _ 80
    rfl rfl
  obtain rfl : 1 = id := Option.some.inj context
  exact absurd own (by decide)

end MiniPP.Relay
