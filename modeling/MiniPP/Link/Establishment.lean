import MiniPP.Link.Composition
import MiniPP.Proxy.Guarantees
import MiniPP.Relay.Notifications

/-! Whether the first thing the proxy hears of a connection it opens is that it is
established. Nothing is on its way for a connection that has not been opened; once it
has been, the first notification queued for it decides. -/
namespace MiniPP.Link

open Proxy (Stage ServerInvariant)

variable {keys : KeySource} {relayKeys : Relay.Keys} {cfg : Config}

/-- The states that the queue will tell client connection `c`, in order. -/
def notified (c : Nat) (queue : List PR.Message) : List Nat :=
  queue.filterMap (fun
    | .notifyConnectionState n => if n.proxySideConnectionId = c then some n.newState else none
    | _ => none)

@[simp] theorem notified_nil (c : Nat) : notified c [] = [] := rfl

@[simp] theorem notified_append (c : Nat) (queue more : List PR.Message) :
    notified c (queue ++ more) = notified c queue ++ notified c more := List.filterMap_append

theorem notified_quiet {m : PR.Message} (quiet : ∀ n, m ≠ .notifyConnectionState n) (c : Nat)
    (rest : List PR.Message) : notified c (m :: rest) = notified c rest := by
  cases m with
  | notifyConnectionState n => exact absurd rfl (quiet n)
  | _ => rfl

theorem mem_notified {c state : Nat} {queue : List PR.Message} :
    state ∈ notified c queue ↔ ∃ n, .notifyConnectionState n ∈ queue ∧
      n.proxySideConnectionId = c ∧ n.newState = state := by
  unfold notified
  rw [List.mem_filterMap]
  constructor
  · rintro ⟨m,member,told⟩
    cases m with
    | notifyConnectionState n =>
      simp only [Option.ite_none_right_eq_some,Option.some.injEq] at told
      exact ⟨n,member,told⟩
    | _ => simp at told
  · rintro ⟨n,member,rfl,rfl⟩
    exact ⟨_,member,by simp⟩

/-- The connection does not exist yet, or has not asked for its remote connection. -/
def Unopened (s : Proxy.Server keys) (c : Nat) : Prop :=
  ¬ s.connectionPool.Issued c ∨
    ∃ conn, s.connectionPool.find? c = some conn ∧ conn.phase.stage.rank < Stage.opening.rank

/-- The connection has asked for its remote connection and waits for the answer. -/
def Waiting (s : Proxy.Server keys) (c : Nat) : Prop :=
  ∃ conn, s.connectionPool.find? c = some conn ∧ conn.phase.stage = .opening

/-! ## The proxy's side -/

theorem unopened_back {s : Proxy.Server keys} {e : Proxy.ServerEvent} {c : Nat}
    (unopened : Unopened (s.step cfg.proxy e).1 c) : Unopened s c := by
  by_cases issued : s.connectionPool.Issued c
  · obtain ⟨still,back⟩ := Proxy.related_step (Proxy.stage_progress cfg.proxy) s e c issued
    rcases unopened with never | ⟨conn',found',early⟩
    · exact absurd still never
    · obtain ⟨conn,found,later⟩ := back conn' found'
      exact .inr ⟨conn,found,Nat.lt_of_le_of_lt later early⟩
  · exact .inl issued

theorem waiting_back {s : Proxy.Server keys} {e : Proxy.ServerEvent} {c : Nat}
    (waiting : Waiting (s.step cfg.proxy e).1 c) : Unopened s c ∨ Waiting s c := by
  by_cases issued : s.connectionPool.Issued c
  · obtain ⟨-,back⟩ := Proxy.related_step (Proxy.stage_progress cfg.proxy) s e c issued
    obtain ⟨conn',found',opening⟩ := waiting
    obtain ⟨conn,found,later⟩ := back conn' found'
    have bound : conn.phase.stage.rank ≤ Stage.opening.rank := opening ▸ later
    rcases Nat.lt_or_eq_of_le bound with early | same
    · exact .inl (.inr ⟨conn,found,early⟩)
    · refine .inr ⟨conn,found,?_⟩
      cases stage : conn.phase.stage <;> rw [stage] at same <;> first | rfl | exact absurd same (by decide)
  · exact .inl (.inl issued)

theorem not_unopened_waiting {s : Proxy.Server keys} {c : Nat} (waiting : Waiting s c) :
    ¬ Unopened s c := by
  obtain ⟨conn,found,opening⟩ := waiting
  rintro (never | ⟨other,found',early⟩)
  · exact never (Storage.issued_of_find? found)
  · obtain rfl := Option.some.inj (found.symm.trans found')
    rw [opening] at early
    exact absurd early (Nat.lt_irrefl _)

theorem mem_posted {relayServer : Nat} {out : List Proxy.ServerAction} {m : PR.Message}
    (member : m ∈ posted relayServer out) :
    ∃ c server, .client c (.postMessage server m) ∈ out := by
  obtain ⟨a,inside,packet⟩ := List.mem_filterMap.mp member
  split at packet
  · rename_i c server m'
    simp only [Option.ite_none_right_eq_some,Option.some.injEq] at packet
    obtain ⟨-,rfl⟩ := packet
    exact ⟨c,server,inside⟩
  · simp at packet

/-- Asking for a remote connection ends being unopened. -/
theorem posted_waiting {s : Proxy.Server keys} {log : List Proxy.ServerAction}
    (valid : ServerInvariant cfg.proxy s log) {e : Proxy.ServerEvent} {relayServer : Nat}
    {m : PR.CreateConnection}
    (member : .createConnection m ∈ posted relayServer (s.step cfg.proxy e).2) :
    Waiting (s.step cfg.proxy e).1 m.proxySideConnectionId := by
  obtain ⟨c,server,did⟩ := mem_posted member
  rcases Proxy.step_cause did with ⟨delivered,conn,ran,effect⟩ | ⟨conn,result,effect⟩
  · obtain ⟨-,own,opening,-⟩ := (Proxy.handle_move cfg.proxy conn delivered).create effect
    have id : conn.connectionId = c := (valid.live c conn ran.before).2
    rw [own,id]
    exact ⟨_,ran.after,opening⟩
  · obtain ⟨-,-,-,⟨-,_,other⟩ | ⟨-,_,other⟩⟩ := (Proxy.handle_move cfg.proxy conn _).create effect
    · cases other
    · cases other

/-! ## The invariant -/

structure Ordered (s : System keys relayKeys) : Prop where
  running : s.proxy.aborted = false
  creates : ∀ c, Unopened s.proxy c → ∀ m, .createConnection m ∈ s.toRelay →
    m.proxySideConnectionId ≠ c
  contexts : ∀ c, Unopened s.proxy c → ∀ id rc, s.relay.context? id = some rc →
    some rc.proxyConnectionId = s.session → rc.proxySideConnectionId ≠ c
  silent : ∀ c, Unopened s.proxy c → notified c s.toProxy = []
  first : ∀ c, Waiting s.proxy c → ∀ state rest, notified c s.toProxy = state :: rest →
    state = stateEstablished
  opened : ∀ id rc, s.relay.context? id = some rc → s.relay.ProxyIssued rc.proxyConnectionId
  linked : ∀ p, s.session = some p → s.relay.ProxyIssued p

/-- The steps that keep the order: a device tells a connection that waits for it nothing but
its establishment, unless that is on its way; and no connection that waits is opened for a
known device while the relay's pool is full. -/
def Orderly (s : System keys relayKeys) : Event → Prop
  | .relay (.devicePacket d (.notifyConnectionState (some m))) =>
    ∀ deviceId rc, s.relay.conn? d = some ⟨.data,deviceId⟩ →
      Relay.DeviceRelayService.proxyState m.newState ≠ none →
      s.relay.context? m.relaySideConnectionId = some rc →
      some rc.proxyConnectionId = s.session → Waiting s.proxy rc.proxySideConnectionId →
      m.newState = stateEstablished ∨
        stateEstablished ∈ notified rc.proxySideConnectionId s.toProxy
  | .relayReceives =>
    ∀ p m rest, s.session = some p → s.relay.proxy? p ≠ none →
      s.toRelay = .createConnection m :: rest → Waiting s.proxy m.proxySideConnectionId →
      s.relay.deviceManager.getDeviceById m.relaySideDeviceId = none ∨ ¬ Relay.Full s.relay
  | _ => True

/-! ## What keeps the order -/

theorem mem_sent {session : Option Nat} {out : List Relay.RelayAction} {m : PR.Message}
    (member : m ∈ sent session out) : ∃ p, session = some p ∧ .toProxy p m ∈ out := by
  obtain ⟨a,inside,packet⟩ := List.mem_filterMap.mp member
  split at packet
  · rename_i p m'
    simp only [Option.ite_none_right_eq_some,Option.some.injEq] at packet
    obtain ⟨here,rfl⟩ := packet
    exact ⟨p,here.symm,inside⟩
  · simp at packet

/-- An event of the proxy, after the packets in `gone` have been taken off the queue. -/
theorem ordered_proxyStep {s : System keys relayKeys} {log : List Action}
    (valid : ServerInvariant cfg.proxy s.proxy (proxyLog log)) (ordered : Ordered s)
    (e : Proxy.ServerEvent) (gone : List PR.Message) {rest : List PR.Message}
    (queue : s.toProxy = gone ++ rest)
    (running : (s.proxy.step cfg.proxy e).1.aborted = false)
    (first : ∀ c, Waiting (s.proxy.step cfg.proxy e).1 c → ∀ state more,
      notified c rest = state :: more → state = stateEstablished) :
    Ordered ({ s with toProxy := rest }.proxyStep cfg e).1 := by
  refine ⟨running,?creates,?contexts,?silent,first,ordered.opened,ordered.linked⟩
  case creates =>
    intro c unopened m member same
    rcases List.mem_append.mp member with old | new
    · exact ordered.creates c (unopened_back unopened) m old same
    · have posted : .createConnection m ∈ posted cfg.relayServer (s.proxy.step cfg.proxy e).2 := by
        dsimp only at new
        split at new
        · exact new
        · simp at new
      exact not_unopened_waiting (same ▸ posted_waiting valid posted) unopened
  case contexts => exact fun c unopened => ordered.contexts c (unopened_back unopened)
  case silent =>
    intro c unopened
    have none := ordered.silent c (unopened_back unopened)
    rw [queue,notified_append] at none
    exact (List.append_eq_nil_iff.mp none).2

/-- An event of the relay that brings no create for an unopened connection. -/
theorem ordered_relayStep {s : System keys relayKeys} (ordered : Ordered s) (e : Relay.RelayEvent)
    (creates : ∀ p m, e = .proxyPacket p (.message (some (.createConnection m))) →
      s.session = some p → ¬ Unopened s.proxy m.proxySideConnectionId)
    (orderly : ∀ p n, s.session = some p → Relay.Told s.relay p n e →
      Waiting s.proxy n.proxySideConnectionId →
      n.newState = stateEstablished ∨ notified n.proxySideConnectionId s.toProxy ≠ []) :
    Ordered (s.relayStep cfg e).1 := by
  have contexts {id : Nat} {rc : Relay.RelayConnectionContext}
      (found : (s.relay.step cfg.relay e).1.context? id = some rc) :
      (∃ old, s.relay.context? id = some old ∧ rc.proxyConnectionId = old.proxyConnectionId ∧
        rc.proxySideConnectionId = old.proxySideConnectionId) ∨
      ∃ m, e = .proxyPacket rc.proxyConnectionId (.message (some (.createConnection m))) ∧
        rc.proxySideConnectionId = m.proxySideConnectionId ∧
        s.relay.proxy? rc.proxyConnectionId ≠ none := by
    cases Relay.step_contextMove cfg.relay s.relay e with
    | same unchanged =>
      refine .inl ⟨rc,?_,rfl,rfl⟩
      simpa only [Relay.DeviceRelayService.context?,unchanged] using found
    | created p new m opened registered _ _ proxy client contexts =>
      rw [contexts] at found
      split at found
      · obtain rfl := Option.some.inj found
        exact .inr ⟨m,by rw [proxy],client,by rw [proxy]; exact registered⟩
      · exact .inl ⟨rc,found,rfl,rfl⟩
    | established c m _ contexts =>
      rw [contexts] at found
      split at found
      · obtain ⟨old,known,rfl⟩ := Option.map_eq_some_iff.mp found
        exact .inl ⟨old,known,rfl,rfl⟩
      · exact .inl ⟨rc,found,rfl,rfl⟩
  have tells {c state : Nat} (member : state ∈ notified c (sent s.session (s.relay.step cfg.relay e).2)) :
      ∃ p n, s.session = some p ∧ Relay.Told s.relay p n e ∧ n.proxySideConnectionId = c ∧
        n.newState = state := by
    obtain ⟨n,inside,client,same⟩ := mem_notified.mp member
    obtain ⟨p,here,told⟩ := mem_sent inside
    exact ⟨p,n,here,Relay.step_told told,client,same⟩
  refine ⟨ordered.running,ordered.creates,?contexts,?silent,?first,?opened,?linked⟩
  case contexts =>
    intro c unopened id rc found mine same
    rcases contexts found with ⟨old,known,proxy,client⟩ | ⟨m,create,client,-⟩
    · exact ordered.contexts c unopened id old known (proxy ▸ mine) (client.symm.trans same)
    · exact creates _ m create mine.symm (client ▸ same ▸ unopened)
  case silent =>
    intro c unopened
    change notified c (s.toProxy ++ sent s.session (s.relay.step cfg.relay e).2) = []
    rw [notified_append,ordered.silent c unopened,List.nil_append]
    refine List.eq_nil_iff_forall_not_mem.mpr (fun state member => ?_)
    obtain ⟨p,n,here,told,client,-⟩ := tells member
    cases told with
    | full m _ same _ _ =>
      apply creates p m rfl here
      rw [same.symm.trans client]
      exact unopened
    | device d deviceId m rc _ _ known proxy same _ =>
      exact ordered.contexts c unopened _ rc known (by rw [proxy,here]) (same.symm.trans client)
  case first =>
    intro c waiting state rest queue
    change notified c (s.toProxy ++ sent s.session (s.relay.step cfg.relay e).2) = state :: rest at queue
    rw [notified_append] at queue
    cases before : notified c s.toProxy with
    | cons head tail =>
      rw [before,List.cons_append] at queue
      obtain ⟨rfl,-⟩ := List.cons.inj queue
      exact ordered.first c waiting head tail before
    | nil =>
      rw [before,List.nil_append] at queue
      obtain ⟨p,n,here,told,client,rfl⟩ := tells (queue ▸ List.mem_cons_self)
      rcases orderly p n here told (client.symm ▸ waiting) with established | queued
      · exact established
      · exact absurd (client ▸ before) queued
  case opened =>
    intro id rc found
    rcases contexts found with ⟨old,known,proxy,-⟩ | ⟨m,-,-,registered⟩
    · rw [proxy]
      exact Relay.issued_step s.relay e (ordered.opened id old known)
    · obtain ⟨conn,known⟩ := Option.ne_none_iff_exists'.mp registered
      exact Relay.issued_step s.relay e (TimedPool.issued_of_get? known)
  case linked => exact fun p here => Relay.issued_step s.relay e (ordered.linked p here)

/-! ## Runs -/

/-- The assertion fails only on a notification that the link brings to a waiting connection. -/
theorem assert_waiting {s : Proxy.Server keys} {e : Proxy.ServerEvent} {c : Nat}
    (failed : .client c .runtimeAssertFailed ∈ (s.step cfg.proxy e).2) :
    ∃ n pendingWrites, e = .relayState n pendingWrites ∧ Waiting s n.proxySideConnectionId ∧
      n.newState ≠ stateEstablished := by
  rcases Proxy.step_cause failed with ⟨delivered,conn,ran,effect⟩ | ⟨conn,result,effect⟩
  · obtain ⟨n,pendingWrites,rfl,opening,other⟩ := Proxy.assert_cause effect
    have target := ran.target
    cases e with
    | relayState n' pendingWrites' =>
      obtain ⟨rfl,same⟩ := Prod.mk.inj (Option.some.inj target)
      obtain ⟨rfl,rfl⟩ := Proxy.ConnEvent.relayState.inj same
      exact ⟨n',pendingWrites',rfl,⟨conn,ran.before,opening⟩,other⟩
    | _ => simp [Proxy.ServerEvent.target] at target
  · exact absurd effect (Proxy.authResult_asserts cfg.proxy conn result)

theorem still_running {s : Proxy.Server keys} {e : Proxy.ServerEvent} (running : s.aborted = false)
    (safe : ∀ c, .client c .runtimeAssertFailed ∉ (s.step cfg.proxy e).2) :
    (s.step cfg.proxy e).1.aborted = false := by
  cases aborted : (s.step cfg.proxy e).1.aborted with
  | false => rfl
  | true =>
    obtain ⟨c,failed⟩ := Proxy.step_aborted running aborted
    exact absurd failed (safe c)

/-- What the proxy does on its own fails no assertion and keeps the order. -/
theorem ordered_proxy {s : System keys relayKeys} {log : List Action}
    (valid : ServerInvariant cfg.proxy s.proxy (proxyLog log)) (ordered : Ordered s)
    {e : Proxy.ServerEvent} (own : fromRelay e = false) :
    Ordered (s.proxyStep cfg e).1 ∧ ∀ c, .client c .runtimeAssertFailed ∉ (s.proxy.step cfg.proxy e).2 := by
  have safe : ∀ c, .client c .runtimeAssertFailed ∉ (s.proxy.step cfg.proxy e).2 := by
    intro c failed
    obtain ⟨n,pendingWrites,rfl,-⟩ := assert_waiting failed
    simp [fromRelay] at own
  refine ⟨?_,safe⟩
  apply ordered_proxyStep valid ordered e [] rfl (still_running ordered.running safe)
  intro c waiting state more queue
  rcases waiting_back waiting with unopened | before
  · rw [ordered.silent c unopened] at queue
    simp at queue
  · exact ordered.first c before state more queue

/-- A waiting connection that is told of its establishment waits no more. -/
theorem established_not_waiting {s : Proxy.Server keys} (running : s.aborted = false)
    {n : PR.ConnectionStateNotify} (state : n.newState = stateEstablished) (pendingWrites : Bool) :
    ¬ Waiting (s.step cfg.proxy (.relayState n pendingWrites)).1 n.proxySideConnectionId := by
  have step : s.step cfg.proxy (.relayState n pendingWrites) =
      s.deliver cfg.proxy n.proxySideConnectionId (.relayState n pendingWrites) := by
    simp [Proxy.Server.step,running]
  rw [step]
  rintro ⟨conn',found',opening⟩
  cases found : s.connectionPool.find? n.proxySideConnectionId with
  | none =>
    simp only [Proxy.Server.deliver,found] at found'
    cases found'
  | some conn =>
    rw [Proxy.deliver_pool cfg.proxy s _ _ found,Storage.find?_modify,if_pos rfl,found] at found'
    obtain rfl := Option.some.inj found'
    exact (Proxy.handle_move cfg.proxy conn _).notified state opening

theorem ordered_notified {s : System keys relayKeys} {log : List Action}
    (valid : ServerInvariant cfg.proxy s.proxy (proxyLog log)) (ordered : Ordered s)
    {n : PR.ConnectionStateNotify} {rest : List PR.Message} (pendingWrites : Bool)
    (queue : s.toProxy = .notifyConnectionState n :: rest) :
    Ordered ({ s with toProxy := rest }.proxyStep cfg (.relayState n pendingWrites)).1 ∧
      ∀ c, .client c .runtimeAssertFailed ∉ (s.proxy.step cfg.proxy (.relayState n pendingWrites)).2 := by
  have own : notified n.proxySideConnectionId s.toProxy =
      n.newState :: notified n.proxySideConnectionId rest := by
    rw [queue]
    simp [notified]
  have safe : ∀ c, .client c .runtimeAssertFailed ∉
      (s.proxy.step cfg.proxy (.relayState n pendingWrites)).2 := by
    intro c failed
    obtain ⟨n',_,same,waiting,other⟩ := assert_waiting failed
    obtain ⟨rfl,-⟩ := Proxy.ServerEvent.relayState.inj same
    exact other (ordered.first _ waiting _ _ own)
  refine ⟨?_,safe⟩
  refine ordered_proxyStep valid ordered _ [.notifyConnectionState n] queue
    (still_running ordered.running safe) ?_
  intro c waiting state more later
  rcases waiting_back waiting with unopened | before
  · have none := ordered.silent c unopened
    rw [queue,← List.singleton_append,notified_append] at none
    rw [(List.append_eq_nil_iff.mp none).2] at later
    cases later
  · by_cases here : n.proxySideConnectionId = c
    · subst here
      have established := ordered.first _ before _ _ own
      exact absurd waiting (established_not_waiting ordered.running established pendingWrites)
    · apply ordered.first c before state more
      rw [queue]
      simpa [notified,here] using later

/-- Packets of the link that are no notifications fail no assertion. -/
theorem ordered_other {s : System keys relayKeys} {log : List Action}
    (valid : ServerInvariant cfg.proxy s.proxy (proxyLog log)) (ordered : Ordered s) {m : PR.Message}
    {rest : List PR.Message} {e : Proxy.ServerEvent} (queue : s.toProxy = m :: rest)
    (quiet : ∀ n, m ≠ .notifyConnectionState n) (other : ∀ n pendingWrites, e ≠ .relayState n pendingWrites) :
    Ordered ({ s with toProxy := rest }.proxyStep cfg e).1 ∧
      ∀ c, .client c .runtimeAssertFailed ∉ (s.proxy.step cfg.proxy e).2 := by
  have safe : ∀ c, .client c .runtimeAssertFailed ∉ (s.proxy.step cfg.proxy e).2 := by
    intro c failed
    obtain ⟨n,pendingWrites,same,-⟩ := assert_waiting failed
    exact other n pendingWrites same
  have same (c : Nat) : notified c s.toProxy = notified c rest := by rw [queue,notified_quiet quiet]
  refine ⟨?_,safe⟩
  apply ordered_proxyStep valid ordered e [m] queue (still_running ordered.running safe)
  intro c waiting state more later
  rcases waiting_back waiting with unopened | before
  · rw [← same,ordered.silent c unopened] at later
    cases later
  · exact ordered.first c before state more ((same c).trans later)

theorem ordered_relay {s : System keys relayKeys} (ordered : Ordered s) {e : Relay.RelayEvent}
    (foreign : fromProxy s.session e = false) (orderly : Orderly s (.relay e)) :
    Ordered (s.relayStep cfg e).1 := by
  apply ordered_relayStep ordered e
  · rintro p m rfl here
    simp [fromProxy,here] at foreign
  · intro p n here told waiting
    cases told with
    | full m _ _ _ _ => simp [fromProxy,here] at foreign
    | device d deviceId m rc sender recognised known proxy client state =>
      rw [client] at waiting ⊢
      rcases orderly deviceId rc sender recognised known (by rw [proxy,here]) waiting with
        established | queued
      · exact .inl (state.trans established)
      · exact .inr (List.ne_nil_of_mem queued)

theorem ordered_relayReceives {s : System keys relayKeys} (ordered : Ordered s) {p : Nat}
    {m : PR.Message} {rest : List PR.Message} (here : s.session = some p)
    (queue : s.toRelay = m :: rest) (orderly : Orderly s .relayReceives) :
    Ordered ({ s with toRelay := rest }.relayStep cfg (.proxyPacket p (.message (some m)))).1 := by
  have shorter : Ordered { s with toRelay := rest } := by
    refine { ordered with creates := ?_ }
    intro c unopened m' member
    exact ordered.creates c unopened m' (queue ▸ List.mem_cons_of_mem m member)
  apply ordered_relayStep shorter _
  · intro p' m' same _ unopened
    cases same
    exact ordered.creates _ unopened m' (queue ▸ List.mem_cons_self) rfl
  · intro p' n session told waiting
    cases told with
    | full m' registered client device full =>
      rw [client] at waiting
      rcases orderly p m' rest here registered queue waiting with gone | room
      · exact absurd gone device
      · exact absurd full room

/-- A new session has an id that no context carries. -/
theorem ordered_connect {s : System keys relayKeys} (ordered : Ordered s) :
    Ordered (s.connect cfg).1 := by
  simp only [System.connect,Relay.DeviceRelayService.step]
  cases accepted : s.relay.proxyConnectionManager.acceptConnection with
  | none => exact ordered
  | some pair =>
    obtain ⟨p,manager⟩ := pair
    obtain ⟨-,fresh⟩ := TimedPool.accept_fresh accepted
    have issued (other : Nat) : manager.members.Issued other ↔
        other = p ∨ s.relay.ProxyIssued other := TimedPool.issued_accept accepted other
    refine ⟨ordered.running,?creates,?contexts,?silent,?first,?opened,?linked⟩
    case creates =>
      intro c _ m member
      simp at member
    case contexts =>
      intro c _ id rc found mine
      obtain rfl := Option.some.inj mine
      exact absurd (ordered.opened id rc found) fresh
    case silent => exact fun c _ => rfl
    case first =>
      intro c _ state rest queue
      cases queue
    case opened => exact fun id rc found => (issued _).mpr (.inr (ordered.opened id rc found))
    case linked =>
      intro q here
      obtain rfl := Option.some.inj here
      exact (issued _).mpr (.inl rfl)

theorem ordered_disconnect {s : System keys relayKeys} (ordered : Ordered s) :
    Ordered { s with session := none, toRelay := [], toProxy := [] } := by
  refine ⟨ordered.running,?_,?_,?_,?_,ordered.opened,?_⟩
  · intro c _ m member
    simp at member
  · intro c _ id rc _ mine
    cases mine
  · exact fun c _ => rfl
  · intro c _ state rest queue
    cases queue
  · intro p here
    cases here

theorem ordered_dropped {s : System keys relayKeys} (ordered : Ordered s) {m : PR.Message}
    {rest : List PR.Message} (queue : s.toProxy = m :: rest)
    (quiet : ∀ n, m ≠ .notifyConnectionState n) : Ordered { s with toProxy := rest } := by
  have same (c : Nat) : notified c s.toProxy = notified c rest := by rw [queue,notified_quiet quiet]
  refine { ordered with silent := ?_, first := ?_ }
  · intro c unopened
    rw [← same]
    exact ordered.silent c unopened
  · intro c waiting state more later
    exact ordered.first c waiting state more ((same c).trans later)

/-- One orderly step keeps the order and fails no assertion. -/
theorem ordered_step {s : System keys relayKeys} {log : List Action}
    (valid : ServerInvariant cfg.proxy s.proxy (proxyLog log)) (ordered : Ordered s) {e : Event}
    (orderly : Orderly s e) :
    Ordered (s.step cfg e).1 ∧
      ∀ c, .proxy (.client c .runtimeAssertFailed) ∉ (s.step cfg e).2 := by
  have lifted {out : List Proxy.ServerAction} (safe : ∀ c, .client c .runtimeAssertFailed ∉ out) (c : Nat) :
      Action.proxy (.client c .runtimeAssertFailed) ∉ out.map Action.proxy := by
    intro failed
    obtain ⟨a,member,same⟩ := List.mem_map.mp failed
    obtain rfl := Action.proxy.inj same
    exact safe c member
  have other (out : List Relay.RelayAction) (c : Nat) :
      Action.proxy (.client c .runtimeAssertFailed) ∉ out.map Action.relay := by simp
  cases e with
  | proxy e =>
    simp only [System.step]
    split
    · exact ⟨ordered,fun c => List.not_mem_nil⟩
    · rename_i own
      obtain ⟨kept,safe⟩ := ordered_proxy valid ordered (Bool.eq_false_iff.mpr own)
      exact ⟨kept,lifted safe⟩
  | relay e =>
    simp only [System.step]
    split
    · exact ⟨ordered,fun c => List.not_mem_nil⟩
    · rename_i own
      exact ⟨ordered_relay ordered (Bool.eq_false_iff.mpr own) orderly,other _⟩
  | connect =>
    have kept : Ordered (s.connect cfg).1 := ordered_connect ordered
    refine ⟨kept,?_⟩
    simp only [System.step,System.connect]
    split
    · exact other _
    · exact fun c => List.not_mem_nil
  | disconnect => exact ⟨ordered_disconnect ordered,fun c => List.not_mem_nil⟩
  | relayReceives =>
    simp only [System.step]
    split
    · rename_i p m rest here queue
      exact ⟨ordered_relayReceives ordered here queue orderly,other _⟩
    · exact ⟨ordered,fun c => List.not_mem_nil⟩
  | proxyReceives pendingWrites payloadSize =>
    simp only [System.step]
    split
    case h_2 => exact ⟨ordered,fun c => List.not_mem_nil⟩
    case h_1 m rest queue =>
      cases m with
      | notifyConnectionState n =>
        obtain ⟨kept,safe⟩ := ordered_notified valid ordered pendingWrites queue
        exact ⟨kept,lifted safe⟩
      | destroyConnection m =>
        obtain ⟨kept,safe⟩ := ordered_other (e := .relayDestroy m pendingWrites) valid ordered queue
          (by simp) (by simp)
        exact ⟨kept,lifted safe⟩
      | postData m =>
        obtain ⟨kept,safe⟩ := ordered_other (e := .relayPush m payloadSize) valid ordered queue
          (by simp) (by simp)
        exact ⟨kept,lifted safe⟩
      | challenge => exact ⟨ordered_dropped ordered queue (by simp),fun c => List.not_mem_nil⟩
      | challengeResp accepted =>
        exact ⟨ordered_dropped ordered queue (by simp),fun c => List.not_mem_nil⟩
      | createConnection m => exact ⟨ordered_dropped ordered queue (by simp),fun c => List.not_mem_nil⟩

theorem ordered_start {s : System keys relayKeys} (start : (systemMachine cfg keys relayKeys).start s) :
    Ordered s := by
  obtain ⟨⟨ticker,connections,caches,proxy⟩,⟨ticker',_,_,_,_,relay⟩,session,toRelay,toProxy⟩ := start
  refine ⟨by rw [proxy]; rfl,?_,?_,?_,?_,?_,?_⟩
  · intro c _ m member
    rw [toRelay] at member
    cases member
  · intro c _ id rc _ mine
    rw [session] at mine
    cases mine
  · intro c _
    rw [toProxy]
    rfl
  · intro c _ state rest queue
    rw [toProxy] at queue
    cases queue
  · intro id rc found
    rw [relay] at found
    cases found
  · intro p here
    rw [session] at here
    cases here

/-- In every orderly run no assertion ever fails, and the proxy runs on. -/
theorem proxy_never_aborts {s : System keys relayKeys} {log : List Action}
    (reach : (systemMachine cfg keys relayKeys).Reach (fun s _ e => Orderly s e) s log) :
    s.proxy.aborted = false ∧ ∀ c, .proxy (.client c .runtimeAssertFailed) ∉ log := by
  have kept : (systemMachine cfg keys relayKeys).Reach (fun s _ e => Orderly s e) s log ∧ Ordered s ∧
      ∀ c, .proxy (.client c .runtimeAssertFailed) ∉ log := by
    refine reach.invariant (I := fun s log =>
      (systemMachine cfg keys relayKeys).Reach (fun s _ e => Orderly s e) s log ∧ Ordered s ∧
        ∀ c, .proxy (.client c .runtimeAssertFailed) ∉ log) ?_ ?_
    · intro s start
      exact ⟨.start start,ordered_start start,fun c => List.not_mem_nil⟩
    · rintro s log e _ orderly ⟨before,ordered,safe⟩
      have valid := Proxy.server_invariant (proxy_reach before)
      obtain ⟨after,quiet⟩ := ordered_step valid ordered orderly
      refine ⟨.step e before orderly,after,?_⟩
      intro c failed
      rcases List.mem_append.mp failed with earlier | now
      · exact safe c earlier
      · exact quiet c now
  exact ⟨kept.2.1.running,kept.2.2⟩

/-! ## One attempt -/

/-- The client asks for a connection, of which the device then reports `state`. -/
def attempt (state : Nat) : List Event :=
  socksLogin ++
  [ .proxy (.data 1 [0x05,0x01,0x00,0x01,127,0,0,1,0,80]),
    .relayReceives,
    .relay (.devicePacket 2 (.notifyConnectionState (some
      { deviceSideConnectionId := 5, relaySideConnectionId := 1, newState := state }))),
    .proxyReceives false 0,
    .proxyReceives false 0 ]

theorem orderly_of_room {s : System keys relayKeys} (room : ¬ Relay.Full s.relay) :
    Orderly s .relayReceives := fun _ _ _ _ _ _ _ => .inr room

theorem attempt_orderly : (systemMachine referenceConfig .sequential .sequential).Allowed
    (fun s _ e => Orderly s e) (smallSystem 4) [] (attempt stateEstablished) := by
  refine ⟨trivial,trivial,trivial,trivial,trivial,orderly_of_room (by decide),trivial,trivial,trivial,
    trivial,trivial,trivial,trivial,orderly_of_room (by decide),?_,trivial,trivial,trivial⟩
  exact fun _ _ _ _ _ _ _ => .inl rfl

theorem proxy_never_aborts_attempt :
    (after 4 (attempt stateEstablished)).1.proxy.aborted = false ∧
    (after 4 (attempt stateEstablished)).1.proxy.connectionPool.find? 1 ≠ none := by
  have reach := Machine.Reach.run (.start (smallSystem_start 4)) (attempt stateEstablished) attempt_orderly
  exact ⟨(proxy_never_aborts reach).1,by decide⟩

/-- The attempt is a run of the system, and ends the proxy. -/
def Aborts (contexts state : Nat) : Prop :=
  let run := after contexts (attempt state)
  (systemMachine referenceConfig .sequential .sequential).Reach Machine.anything run.1 run.2 ∧
    run.1.proxy.aborted = true ∧ .proxy (.client 1 .runtimeAssertFailed) ∈ run.2

/-- A connection that the device closes, or for which the relay has no context, ends the proxy. -/
theorem failed_attempt_aborts_proxy :
    Aborts 4 stateClosed ∧ Aborts 4 stateUpdateTransfer ∧ Aborts 0 stateEstablished := by
  refine ⟨⟨after_reach 4 _,?_⟩,⟨after_reach 4 _,?_⟩,⟨after_reach 0 _,?_⟩⟩ <;> decide

end MiniPP.Link
