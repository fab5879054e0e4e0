import MiniPP.Relay.Notifications
import MiniPP.Relay.Ports

/-! What comes of a request to open a connection: the device is told to connect, it is first
asked for an address, or the proxy-access server learns that there will be no connection. -/
namespace MiniPP.Relay

variable {keys : Keys} {cfg : Config}

/-! ## Attempts -/

/-- A DNS query on its way: the context it is for, the connection it was sent on, and what the
proxy-access server asked for. -/
structure Attempt where
  id : Nat
  ctrl : Nat
  proxy : Nat
  client : Nat
  port : Nat
  deriving DecidableEq, Repr

def RelayAction.query : RelayAction → Option (Nat × Nat)
  | .toDevice c (.dnsQuery id _) => some (c,id)
  | _ => none

/-- The query that a request to open a connection leads to. -/
def attempted (cfg : Config) (s : DeviceRelayService keys) (e : RelayEvent) : Option Attempt :=
  match e with
  | .proxyPacket p (.message (some (.createConnection m))) =>
    ((s.step cfg e).2.findSome? RelayAction.query).map (fun (c,id) =>
      { id, ctrl := c, proxy := p, client := m.proxySideConnectionId, port := m.hostnamePort % 2^16 })
  | _ => none

abbrev attemptMachine (cfg : Config) (keys : Keys) :
    Machine ((DeviceRelayService keys × (Nat → Ledger)) × List Attempt) RelayEvent RelayAction :=
  (ledgerMachine cfg keys).withGhost [] (fun x e attempts => attempts ++ (attempted cfg x.1 e).toList)

/-! ## Outcomes -/

/-- A device is told to connect to a set address, at this port. -/
def Dialled (cfg : Config) (c id port : Nat) (out : List RelayAction) : Prop :=
  ∃ address : NetAddress, cfg.xel.isSet address = true ∧
    .toDevice c (.createConnection ⟨id,{ address with port }⟩) ∈ out

/-- The proxy-access server is told that there is no connection for its client. -/
def Informed (p client : Nat) (out : List RelayAction) : Prop :=
  (∃ m : PR.DestroyConnection, m.proxySideConnectionId = client ∧
    .toProxy p (.destroyConnection m) ∈ out) ∨
  ∃ n : PR.ConnectionStateNotify, n.proxySideConnectionId = client ∧ n.newState = stateClosed ∧
    .toProxy p (.notifyConnectionState n) ∈ out

/-- A handled request gets an outcome or leads to a query on the ctrl connection of its
device, and each answer to the query gets an outcome. -/
def Concluded (cfg : Config) (x : (DeviceRelayService keys × (Nat → Ledger)) × List Attempt)
    (_ : List RelayAction) (e : RelayEvent) : Prop :=
  let s := x.1.1
  let out := (s.step cfg e).2
  match e with
  | .proxyPacket p (.message (some (.createConnection m))) =>
    s.proxy? p ≠ none → Informed p m.proxySideConnectionId out ∨
      ∃ d c id, s.deviceManager.getDeviceById m.relaySideDeviceId = some d ∧ d.ctrlConnection = some c ∧
        (Dialled cfg c id m.targetAddress.port out ∨ .toDevice c (.dnsQuery id m.hostname) ∈ out)
  | .devicePacket c (.dnsQueryResp requestId (some _)) =>
    ∀ a ∈ x.2, a.id = requestId → a.ctrl = c → s.conn? c ≠ none →
      Informed a.proxy a.client out ∨ Dialled cfg c a.id a.port out
  | _ => True

/-- A request that gets a context names a target, and its device has a live connection; an
answer comes on a ctrl connection, has an address that is used, and finds the port of the
request in the slot that it shares with the id announced by a device. -/
def Usable (cfg : Config) (x : (DeviceRelayService keys × (Nat → Ledger)) × List Attempt)
    (_ : List RelayAction) (e : RelayEvent) : Prop :=
  let s := x.1.1
  match e with
  | .proxyPacket p (.message (some (.createConnection m))) =>
    s.proxy? p ≠ none → ∀ d, s.deviceManager.getDeviceById m.relaySideDeviceId = some d → ¬ Full s →
      (∃ c, d.ctrlConnection = some c ∧ s.conn? c ≠ none) ∧
        (cfg.xel.isSet m.targetAddress = true ∨ m.hostname ≠ [])
  | .devicePacket c (.dnsQueryResp requestId (some answer)) =>
    ∀ a ∈ x.2, a.id = requestId → a.ctrl = c → ∀ conn, s.conn? c = some conn →
      conn.type = .ctrl ∧ DeviceRelayService.selectAddress cfg answer ≠ none ∧
        ∀ v, (x.1.2 requestId).latest = some v → v % 2^16 = a.port
  | _ => True

/-! ## Requests -/

theorem mem_post {s : DeviceRelayService keys} {pointer : Option Nat} {m : TR.Message} {a : RelayAction} :
    a ∈ s.post pointer m ↔
      (∃ c, a = .toDevice c m ∧ pointer = some c ∧ s.conn? c ≠ none) ∨
      (∃ c, a = .useAfterFree c m ∧ pointer = some c ∧ s.conn? c = none) ∨
      (a = .nullConnection m ∧ pointer = none) := by
  unfold DeviceRelayService.post
  cases pointer with
  | none => simp
  | some c =>
    have same : s.deviceConnectionManager.getConnectionById c = s.conn? c := rfl
    cases known : s.conn? c with
    | none => simp [same,known]
    | some conn => simp [same,known]

/-- What the handler of a request does once it has a context. -/
def requestActions (cfg : Config) (s : DeviceRelayService keys) (d : Device) (id : Nat)
    (m : PR.CreateConnection) : List RelayAction :=
  if cfg.xel.isSet m.targetAddress then
    s.post d.ctrlConnection (.createConnection ⟨id,m.targetAddress⟩)
  else if m.hostname ≠ [] then s.post d.ctrlConnection (.dnsQuery id m.hostname)
  else []

theorem step_request {s : DeviceRelayService keys} {p : Nat} (registered : s.proxy? p ≠ none)
    (m : PR.CreateConnection) :
    (s.step cfg (.proxyPacket p (.message (some (.createConnection m))))).2 =
      (s.onProxyCreateConnection cfg p m).actions ++
        if (s.onProxyCreateConnection cfg p m).accepted then [] else [.invalidProxyData p] := by
  obtain ⟨conn,known⟩ := Option.ne_none_iff_exists'.mp registered
  have found : s.proxyConnectionManager.getConnectionById p = some conn := known
  simp only [DeviceRelayService.step,found,DeviceRelayService.onProxyData,
    DeviceRelayService.onProxyPacket]
  rfl

theorem request_unknown {s : DeviceRelayService keys} {p : Nat} (registered : s.proxy? p ≠ none)
    {m : PR.CreateConnection} (device : s.deviceManager.getDeviceById m.relaySideDeviceId = none) :
    .toProxy p (.destroyConnection ⟨m.proxySideConnectionId,0⟩) ∈
      (s.step cfg (.proxyPacket p (.message (some (.createConnection m))))).2 := by
  rw [step_request registered]
  simp [DeviceRelayService.onProxyCreateConnection,device]

theorem request_full {s : DeviceRelayService keys} {p : Nat} (registered : s.proxy? p ≠ none)
    {m : PR.CreateConnection} {d : Device}
    (device : s.deviceManager.getDeviceById m.relaySideDeviceId = some d) (full : Full s) :
    .toProxy p (.notifyConnectionState
      { proxySideConnectionId := m.proxySideConnectionId, relaySideConnectionId := 0
        newState := stateClosed }) ∈
      (s.step cfg (.proxyPacket p (.message (some (.createConnection m))))).2 := by
  rw [step_request registered]
  simp [DeviceRelayService.onProxyCreateConnection,device,create_none.mpr full]

theorem request_opened (cfg : Config) {s : DeviceRelayService keys} {p : Nat} (registered : s.proxy? p ≠ none)
    {m : PR.CreateConnection} {d : Device}
    (device : s.deviceManager.getDeviceById m.relaySideDeviceId = some d) (room : ¬ Full s) :
    ∃ rest, (∀ a ∈ rest, a = .invalidProxyData p) ∧
      (s.step cfg (.proxyPacket p (.message (some (.createConnection m))))).2 =
        requestActions cfg s d s.relayConnectionManager.contextPool.nextKey m ++ rest := by
  rw [step_request registered]
  cases create : s.relayConnectionManager.create (DeviceRelayService.fillContext d p m) with
  | none => exact absurd (create_none.mp create) room
  | some new =>
    obtain ⟨id,manager⟩ := new
    obtain ⟨rfl,-,-⟩ := create_spec create
    by_cases set : cfg.xel.isSet m.targetAddress = true
    · refine ⟨[],by simp,?_⟩
      simp [DeviceRelayService.onProxyCreateConnection,device,create,requestActions,set,
        DeviceRelayService.post]
    · by_cases named : m.hostname = []
      · refine ⟨[.invalidProxyData p],by simp,?_⟩
        simp [DeviceRelayService.onProxyCreateConnection,device,create,requestActions,set,named]
      · refine ⟨[],by simp,?_⟩
        simp [DeviceRelayService.onProxyCreateConnection,device,create,requestActions,set,named,
          DeviceRelayService.post]

theorem mem_requestActions {s : DeviceRelayService keys} {d : Device} {id : Nat}
    {m : PR.CreateConnection} {a : RelayAction} :
    a ∈ requestActions cfg s d id m ↔
      (cfg.xel.isSet m.targetAddress = true ∧
        a ∈ s.post d.ctrlConnection (.createConnection ⟨id,m.targetAddress⟩)) ∨
      (cfg.xel.isSet m.targetAddress = false ∧ m.hostname ≠ [] ∧
        a ∈ s.post d.ctrlConnection (.dnsQuery id m.hostname)) := by
  unfold requestActions
  cases set : cfg.xel.isSet m.targetAddress with
  | true => simp
  | false => by_cases named : m.hostname = [] <;> simp [named]

/-- A request that gets a context tells the proxy-access server nothing. -/
theorem request_not_informed {s : DeviceRelayService keys} {d : Device} {id p client : Nat}
    {m : PR.CreateConnection} {rest : List RelayAction}
    (invalid : ∀ a ∈ rest, a = RelayAction.invalidProxyData p) :
    ¬ Informed p client (requestActions cfg s d id m ++ rest) := by
  have silent (n : PR.Message) : .toProxy p n ∉ requestActions cfg s d id m ++ rest := by
    intro told
    rcases List.mem_append.mp told with sent | sent
    · rcases mem_requestActions.mp sent with ⟨-,post⟩ | ⟨-,-,post⟩
      all_goals exact not_told_post post
    · exact absurd (invalid _ sent) (by simp)
  rintro (⟨n,-,told⟩ | ⟨n,-,-,told⟩)
  all_goals exact silent _ told

theorem concluded_request (s : DeviceRelayService keys) (ledger : Nat → Ledger)
    (attempts : List Attempt) (log : List RelayAction) (p : Nat) (m : PR.CreateConnection) :
    Concluded cfg ((s,ledger),attempts) log (.proxyPacket p (.message (some (.createConnection m)))) ↔
      Usable cfg ((s,ledger),attempts) log (.proxyPacket p (.message (some (.createConnection m)))) := by
  simp only [Concluded,Usable]
  apply forall_congr'
  intro registered
  cases device : s.deviceManager.getDeviceById m.relaySideDeviceId with
  | none =>
    refine iff_of_true (.inl (.inl ⟨_,rfl,request_unknown registered device⟩)) ?_
    intro d live
    cases live
  | some d =>
    by_cases full : Full s
    · refine iff_of_true (.inl (.inr ⟨_,rfl,rfl,request_full registered device full⟩)) ?_
      intro d' _ room
      exact absurd full room
    · obtain ⟨rest,invalid,out⟩ := request_opened cfg registered device full
      rw [out]
      have sent {c : Nat} {n : TR.Message}
          (member : .toDevice c n ∈ requestActions cfg s d
            s.relayConnectionManager.contextPool.nextKey m ++ rest) :
          s.conn? c ≠ none ∧ (cfg.xel.isSet m.targetAddress = true ∨ m.hostname ≠ []) := by
        rcases List.mem_append.mp member with sent | sent
        · rcases mem_requestActions.mp sent with ⟨set,post⟩ | ⟨-,named,post⟩
          · have live : s.conn? c ≠ none := by simp_all [mem_post]
            exact ⟨live,.inl set⟩
          · have live : s.conn? c ≠ none := by simp_all [mem_post]
            exact ⟨live,.inr named⟩
        · exact absurd (invalid _ sent) (by simp)
      constructor
      · rintro (told | ⟨d',c,id,same,ctrl,dialled⟩) d'' same' -
        · exact absurd told (request_not_informed invalid)
        · obtain rfl := Option.some.inj same
          obtain rfl := Option.some.inj same'
          rcases dialled with ⟨address,-,member⟩ | member
          · obtain ⟨live,target⟩ := sent member
            exact ⟨⟨c,ctrl,live⟩,target⟩
          · obtain ⟨live,target⟩ := sent member
            exact ⟨⟨c,ctrl,live⟩,target⟩
      · intro usable
        obtain ⟨⟨c,ctrl,live⟩,target⟩ := usable d rfl full
        refine .inr ⟨d,c,s.relayConnectionManager.contextPool.nextKey,rfl,ctrl,?_⟩
        cases set : cfg.xel.isSet m.targetAddress with
        | true =>
          left
          refine ⟨m.targetAddress,set,List.mem_append_left _ ?_⟩
          exact mem_requestActions.mpr (.inl ⟨set,mem_post.mpr (.inl ⟨c,rfl,ctrl,live⟩)⟩)
        | false =>
          right
          have named : m.hostname ≠ [] := by simpa [set] using target
          apply List.mem_append_left
          exact mem_requestActions.mpr (.inr ⟨set,named,mem_post.mpr (.inl ⟨c,rfl,ctrl,live⟩)⟩)

/-! ## Answers -/

theorem request_context {s : DeviceRelayService keys} {p : Nat} (registered : s.proxy? p ≠ none)
    {m : PR.CreateConnection} {d : Device}
    (device : s.deviceManager.getDeviceById m.relaySideDeviceId = some d) (room : ¬ Full s) :
    s.context? s.relayConnectionManager.contextPool.nextKey = none ∧
      (s.step cfg (.proxyPacket p (.message (some (.createConnection m))))).1.context?
        s.relayConnectionManager.contextPool.nextKey ≠ none := by
  obtain ⟨conn,known⟩ := Option.ne_none_iff_exists'.mp registered
  have found : s.proxyConnectionManager.getConnectionById p = some conn := known
  cases create : s.relayConnectionManager.create (DeviceRelayService.fillContext d p m) with
  | none => exact absurd (create_none.mp create) room
  | some new =>
    obtain ⟨id,manager⟩ := new
    obtain ⟨rfl,fresh,contexts⟩ := create_spec create
    refine ⟨fresh,?_⟩
    simp only [DeviceRelayService.step,found,DeviceRelayService.onProxyData,
      DeviceRelayService.onProxyPacket,DeviceRelayService.onProxyCreateConnection,device,create,
      apply_ite Handled.relay,ite_self,DeviceRelayService.context?,contexts]
    simp

/-- A query is sent for the context that its request has just opened. -/
theorem query_opened {s : DeviceRelayService keys} {p c id : Nat} {hostname : Bytes}
    {m : PR.CreateConnection}
    (member : .toDevice c (.dnsQuery id hostname) ∈
      (s.step cfg (.proxyPacket p (.message (some (.createConnection m))))).2) :
    id = s.relayConnectionManager.contextPool.nextKey ∧ s.context? id = none ∧
      (s.step cfg (.proxyPacket p (.message (some (.createConnection m))))).1.context? id ≠ none := by
  by_cases registered : s.proxy? p = none
  · have unknown : s.proxyConnectionManager.getConnectionById p = none := registered
    simp [DeviceRelayService.step,unknown] at member
  · cases device : s.deviceManager.getDeviceById m.relaySideDeviceId with
    | none =>
      rw [step_request registered] at member
      simp [DeviceRelayService.onProxyCreateConnection,device] at member
    | some d =>
      by_cases full : Full s
      · rw [step_request registered] at member
        simp [DeviceRelayService.onProxyCreateConnection,device,create_none.mpr full] at member
      · obtain ⟨rest,invalid,out⟩ := request_opened cfg registered device full
        have here : id = s.relayConnectionManager.contextPool.nextKey := by
          rw [out] at member
          rcases List.mem_append.mp member with sent | sent
          · rcases mem_requestActions.mp sent with ⟨-,post⟩ | ⟨-,-,post⟩
            · simp [mem_post] at post
            · simp [mem_post] at post
              exact post.1.1
          · exact absurd (invalid _ sent) (by simp)
        subst here
        exact ⟨rfl,request_context registered device full⟩

theorem attempted_spec {s : DeviceRelayService keys} {e : RelayEvent} {a : Attempt}
    (query : attempted cfg s e = some a) :
    s.context? a.id = none ∧ (s.step cfg e).1.context? a.id ≠ none ∧
      ∃ p m, e = .proxyPacket p (.message (some (.createConnection m))) ∧
        a.port = m.hostnamePort % 2^16 := by
  unfold attempted at query
  split at query
  · rename_i p m
    obtain ⟨⟨c,id⟩,found,rfl⟩ := Option.map_eq_some_iff.mp query
    obtain ⟨action,member,sent⟩ := List.exists_of_findSome?_eq_some found
    have posted : ∃ hostname, action = .toDevice c (.dnsQuery id hostname) := by
      unfold RelayAction.query at sent
      split at sent
      · simp_all
      · cases sent
    obtain ⟨hostname,rfl⟩ := posted
    obtain ⟨-,fresh,opened⟩ := query_opened member
    exact ⟨fresh,opened,p,m,rfl,rfl⟩
  · cases query

/-- Every query on its way is for a context that still knows its own port. -/
def Pending (x : (DeviceRelayService keys × (Nat → Ledger)) × List Attempt) : Prop :=
  ∀ a ∈ x.2, x.1.1.context? a.id ≠ none ∧ (x.1.2 a.id).port = a.port

theorem port_kept {s : DeviceRelayService keys} {e : RelayEvent} {ledger : Nat → Ledger} {id : Nat}
    (open' : s.context? id ≠ none) : (record s e ledger id).port = (ledger id).port := by
  obtain ⟨rc,found⟩ := Option.ne_none_iff_exists'.mp open'
  simp only [record,found]
  cases announcement s e with
  | none => rfl
  | some announced =>
    simp only [Ledger.announce]
    split <;> rfl

theorem pending_run {x : (DeviceRelayService keys × (Nat → Ledger)) × List Attempt}
    {log : List RelayAction}
    {ok : (DeviceRelayService keys × (Nat → Ledger)) × List Attempt → List RelayAction → RelayEvent → Prop}
    (reach : (attemptMachine cfg keys).Reach ok x log) : Pending x := by
  apply reach.invariant (I := fun x _ => Pending x)
  · rintro ⟨x,attempts⟩ ⟨-,rfl⟩ a member
    cases member
  · rintro ⟨⟨s,ledger⟩,attempts⟩ log e before - pending a member
    rcases List.mem_append.mp member with old | new
    · obtain ⟨here,port⟩ := pending a old
      obtain ⟨rc,found⟩ := Option.ne_none_iff_exists'.mp here
      constructor
      · have kept : (s.step cfg e).1.context? a.id = some _ :=
          context_kept (self_named before.forget.forget) found e
        exact fun gone => absurd (kept.symm.trans gone) (by simp)
      · exact (port_kept here).trans port
    · have query : attempted cfg s e = some a := by simpa using new
      obtain ⟨fresh,opened,p,m,rfl,port⟩ := attempted_spec query
      have noted : (record s (.proxyPacket p (.message (some (.createConnection m)))) ledger a.id).port =
          a.port := by
        simp only [record,fresh]
        exact port.symm
      exact ⟨opened,noted⟩

/-- No answer of a device tells a proxy-access server anything. -/
theorem answer_not_informed {s : DeviceRelayService keys} {c requestId p client : Nat}
    {answer : Option TR.DnsQueryResp} :
    ¬ Informed p client (s.step cfg (.devicePacket c (.dnsQueryResp requestId answer))).2 := by
  have silent (n : PR.Message) :
      .toProxy p n ∉ (s.step cfg (.devicePacket c (.dnsQueryResp requestId answer))).2 := by
    intro told
    rcases step_actions told with unasked | ⟨c,conn,packet,same,-,handled⟩ | ⟨_,_,_,same,-,-⟩
    · exact absurd unasked (by simp [RelayAction.Unasked])
    · obtain ⟨rfl,rfl⟩ := RelayEvent.devicePacket.inj same
      rw [onDevicePacket_dispatch cfg s c conn _ (by simp)] at handled
      obtain ⟨type,deviceId⟩ := conn
      cases type with
      | ctrl => exact not_told_ctrlPacket handled
      | data => simp [DeviceRelayService.onDataPacket] at handled
    · cases same
  rintro (⟨n,-,told⟩ | ⟨n,-,-,told⟩)
  all_goals exact silent _ told

theorem selected_set {answer : TR.DnsQueryResp} {address : NetAddress}
    (selected : DeviceRelayService.selectAddress cfg answer = some address) :
    cfg.xel.isSet address = true := by
  unfold DeviceRelayService.selectAddress DeviceRelayService.usable at selected
  split at selected
  · simp_all
  · split at selected
    · simp_all
    · cases selected

theorem concluded_answer {s : DeviceRelayService keys} {ledger : Nat → Ledger}
    {attempts : List Attempt} {log : List RelayAction} (self : SelfNamed s)
    (recorded : Recorded s ledger) (pending : Pending ((s,ledger),attempts)) (c requestId : Nat)
    (answer : TR.DnsQueryResp) :
    Concluded cfg ((s,ledger),attempts) log (.devicePacket c (.dnsQueryResp requestId (some answer))) ↔
      Usable cfg ((s,ledger),attempts) log (.devicePacket c (.dnsQueryResp requestId (some answer))) := by
  simp only [Concluded,Usable,answer_not_informed,false_or]
  apply forall₂_congr
  rintro a member
  apply forall₂_congr
  rintro rfl rfl
  obtain ⟨here,port⟩ := pending a member
  rcases step_answer cfg s a.ctrl a.id (some answer) with ⟨silent,dropped⟩ |
    ⟨_,deviceId,rc,address,same,known,context,selected,sends⟩
  · have notDialled : ¬ Dialled cfg a.ctrl a.id a.port
        (s.step cfg (.devicePacket a.ctrl (.dnsQueryResp a.id (some answer)))).2 := by
      rintro ⟨address,-,sent⟩
      exact absurd (silent _ sent) (by simp [RelayAction.posted])
    constructor
    · intro dialled conn known
      exact absurd (dialled (by simp [known])) notDialled
    · intro usable live
      obtain ⟨⟨type,deviceId⟩,known⟩ := Option.ne_none_iff_exists'.mp live
      obtain ⟨rfl,selects,-⟩ := usable _ known
      rcases dropped answer deviceId rfl known with gone | unusable
      · exact absurd gone here
      · exact absurd unusable selects
  · obtain rfl := Option.some.inj same
    have named : rc.relaySideConnectionId = a.id := self a.id rc context
    have noted : Noted (ledger a.id) rc := recorded a.id rc context
    have dialled : Dialled cfg a.ctrl a.id a.port
        (s.step cfg (.devicePacket a.ctrl (.dnsQueryResp a.id (some answer)))).2 ↔
          rc.targetPort = a.port := by
      rw [sends,Dialled,named]
      constructor
      · rintro ⟨other,-,sent⟩
        have same := List.mem_singleton.mp sent
        simp only [RelayAction.toDevice.injEq,TR.Message.createConnection.injEq,
          TR.CreateConnection.mk.injEq,NetAddress.mk.injEq,true_and] at same
        exact same.2.2.symm
      · rintro same
        exact ⟨address,selected_set selected,by rw [same]; exact List.mem_singleton_self _⟩
    rw [dialled,← port,noted.targetPort]
    constructor
    · intro same conn known'
      obtain rfl := Option.some.inj (known.symm.trans known')
      exact ⟨rfl,by simp [selected],same (by simp [known])⟩
    · intro usable _
      exact (usable _ known).2.2

/-! ## Runs -/

theorem concluded_iff_usable {x : (DeviceRelayService keys × (Nat → Ledger)) × List Attempt}
    {log : List RelayAction}
    {ok : (DeviceRelayService keys × (Nat → Ledger)) × List Attempt → List RelayAction → RelayEvent → Prop}
    (reach : (attemptMachine cfg keys).Reach ok x log) (e : RelayEvent) :
    Concluded cfg x log e ↔ Usable cfg x log e := by
  obtain ⟨⟨s,ledger⟩,attempts⟩ := x
  have self : SelfNamed s := self_named reach.forget.forget
  have recorded : Recorded s ledger := recorded_run reach.forget
  have pending := pending_run reach
  by_cases request : ∃ p m, e = .proxyPacket p (.message (some (.createConnection m)))
  · obtain ⟨p,m,rfl⟩ := request
    exact concluded_request s ledger attempts log p m
  · by_cases answered : ∃ c requestId answer, e = .devicePacket c (.dnsQueryResp requestId (some answer))
    · obtain ⟨c,requestId,answer,rfl⟩ := answered
      exact concluded_answer self recorded pending c requestId answer
    · unfold Concluded Usable
      split
      · exact absurd ⟨_,_,rfl⟩ request
      · exact absurd ⟨_,_,_,rfl⟩ answered
      · exact Iff.rfl

/-- A run concludes every attempt just when each request names a target of a live device and
each answer has an address that is used. -/
theorem attempts_concluded {s : DeviceRelayService keys} (start : (relayMachine cfg keys).start s)
    (es : List RelayEvent) :
    (attemptMachine cfg keys).Allowed (Concluded cfg) ((s,fun _ => {}),[]) [] es ↔
      (attemptMachine cfg keys).Allowed (Usable cfg) ((s,fun _ => {}),[]) [] es :=
  Machine.allowed_iff (fun _ _ e reach => concluded_iff_usable reach e) (.start ⟨⟨start,rfl⟩,rfl⟩) es

/-- The target of client 7 is looked up, and found. -/
def lookedUp : List RelayEvent :=
  registration ++ opening ++
    [.devicePacket 1 (.dnsQueryResp 1 (some ⟨ascii "h",⟨.ipv4,[9,9,9,9],0⟩,.unspecified⟩))]

theorem attempts_concluded_lookedUp :
    (attemptMachine referenceConfig .sequential).Allowed (Concluded referenceConfig)
      ((smallRelay,fun _ => {}),[]) [] lookedUp := by
  refine (attempts_concluded ⟨_,_,_,_,_,rfl⟩ lookedUp).mpr ?_
  refine ⟨trivial,trivial,trivial,trivial,trivial,trivial,?request,?answer,trivial⟩
  case request =>
    intro _ d found _
    obtain rfl := Option.some.inj found
    exact ⟨⟨1,rfl,by decide⟩,.inr (by decide)⟩
  case answer =>
    intro a _ _ _ conn found
    obtain rfl := Option.some.inj found
    exact ⟨rfl,by decide,fun v latest => by cases latest⟩

/-- The name has no address: the client of the proxy-access server is told nothing. -/
theorem failed_lookup_dropped :
    ¬ ∀ s es, (relayMachine referenceConfig .sequential).start s →
      (attemptMachine referenceConfig .sequential).Allowed (Concluded referenceConfig)
        ((s,fun _ => {}),[]) [] es := by
  intro always
  let es : List RelayEvent := registration ++ opening
  let last : RelayEvent :=
    .devicePacket 1 (.dnsQueryResp 1 (some ⟨ascii "h",.unspecified,.unspecified⟩))
  have allowed := always smallRelay (es ++ [last]) ⟨_,_,_,_,_,rfl⟩
  have concluded := ((Machine.allowed_append es [last]).mp allowed).2.1
  rcases concluded ⟨1,1,1,7,80⟩ (by decide) rfl rfl (by decide) with informed | ⟨address,-,dialled⟩
  · exact answer_not_informed informed
  · have sent : .toDevice 1 (.createConnection ⟨1,{ address with port := 80 }⟩) ∈
        ((after es).1.step referenceConfig last).2 := dialled
    have silent : ((after es).1.step referenceConfig last).2 = [] := by rfl
    rw [silent] at sent
    cases sent

end MiniPP.Relay
