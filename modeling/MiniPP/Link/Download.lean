import MiniPP.Link.Upload
import MiniPP.Proxy.Accounting
import MiniPP.Relay.Returning

/-! A download from a device to its client. The relay sends a payload on for the client of the
context that it comes under, the link carries it, and the proxy writes it to that client. A
client has one context in its life, so what it is written comes from one place. -/
namespace MiniPP.Link

variable {keys : KeySource} {relayKeys : Relay.Keys} {cfg : Config}

/-! ## What is on its way -/

/-- The data in the queue for client `c`. -/
def pushes (c : Nat) (queue : List PR.Message) : List PR.PushData :=
  queue.filterMap (fun
    | .postData m => if m.proxySideConnectionId = c then some m else none
    | _ => none)

@[simp] theorem pushes_append (c : Nat) (queue more : List PR.Message) :
    pushes c (queue ++ more) = pushes c queue ++ pushes c more := List.filterMap_append

/-- What goes out to client `c` for a packet of a device, over the link. -/
def returnedFor (c : Nat) (s : System keys relayKeys) : Event → List PR.PushData
  | .relay (.devicePacket dc (.postData (some m))) =>
    match s.relay.conn? dc, s.relay.context? m.relaySideConnectionId with
    | some ⟨.data,_⟩, some rc =>
      if some rc.proxyConnectionId = s.session ∧ rc.proxySideConnectionId = c then
        [Relay.returned rc m]
      else []
    | _, _ => []
  | _ => []

/-- The bytes written to client `c`. -/
def clientBytes (c : Nat) (out : List Proxy.ServerAction) : List Bytes :=
  out.filterMap (fun
    | .client c' (.postData data) => if c' = c then some data else none
    | _ => none)

/-- The data packet that reaches the proxy. -/
def arriving (s : System keys relayKeys) : Event → Option PR.PushData
  | .proxyReceives _ _ => nextPush s.toProxy
  | _ => none

/-- What a data packet of the link makes the proxy write to client `c`. -/
def writtenTo (cfg : Config) (c : Nat) (s : System keys relayKeys) (e : Event) : List Bytes :=
  if (arriving s e).isSome then clientBytes c (proxyLog (s.step cfg e).2) else []

/-- What the device has posted for the client, and what has been written to it. -/
structure Download where
  posted : List PR.PushData := []
  written : List Bytes := []

def watchDownload (cfg : Config) (c : Nat) (s : System keys relayKeys) (e : Event) (d : Download) :
    Download where
  posted := d.posted ++ returnedFor c s e
  written := d.written ++ writtenTo cfg c s e

/-- The system with a record of what is posted for client `c` and written to it. -/
def downloadMachine (cfg : Config) (keys : KeySource) (relayKeys : Relay.Keys) (c : Nat) :
    Machine (System keys relayKeys × Download) Event Action :=
  (systemMachine cfg keys relayKeys).withGhost {} (watchDownload cfg c)

/-- The link loses none of the client's data, the relay has the proxy's connection when it has
data for it, and the proxy the client's. -/
structure Carries (cfg : Config) (c : Nat) (x : System keys relayKeys × Download)
    (_log : List Action) (e : Event) : Prop where
  lossless : e = .connect ∨ e = .disconnect → pushes c x.1.toProxy = []
  registered : returnedFor c x.1 e ≠ [] → ∀ p ∈ x.1.session, x.1.relay.proxy? p ≠ none
  alive : ∀ m ∈ arriving x.1 e, m.proxySideConnectionId = c →
    x.1.proxy.aborted = false ∧ x.1.proxy.connectionPool.find? c ≠ none

instance (c : Nat) (x : System keys relayKeys × Download) (log : List Action) (e : Event) :
    Decidable (Carries cfg c x log e) :=
  decidable_of_iff ((e = .connect ∨ e = .disconnect → pushes c x.1.toProxy = []) ∧
      (returnedFor c x.1 e ≠ [] → ∀ p ∈ x.1.session, x.1.relay.proxy? p ≠ none) ∧
      ∀ m ∈ arriving x.1 e, m.proxySideConnectionId = c →
        x.1.proxy.aborted = false ∧ x.1.proxy.connectionPool.find? c ≠ none)
    ⟨fun ⟨lossless,registered,alive⟩ => ⟨lossless,registered,alive⟩,
      fun ⟨lossless,registered,alive⟩ => ⟨lossless,registered,alive⟩⟩

/-! ## One context for each client -/

/-- The context that answers for client `c` in the session. -/
def Mine (s : System keys relayKeys) (c id : Nat) : Prop :=
  ∃ rc, s.relay.context? id = some rc ∧ some rc.proxyConnectionId = s.session ∧
    rc.proxySideConnectionId = c

/-- The requests in the queue for a connection of client `c`. -/
def creations (c : Nat) (queue : List PR.Message) : List PR.CreateConnection :=
  queue.filterMap (fun
    | .createConnection m => if m.proxySideConnectionId = c then some m else none
    | _ => none)

@[simp] theorem creations_append (c : Nat) (queue more : List PR.Message) :
    creations c (queue ++ more) = creations c queue ++ creations c more := List.filterMap_append

/-- How often client `c` has asked for a connection. -/
def asked (c : Nat) (log : List Action) : Nat :=
  (Proxy.history c (proxyLog log)).countP Proxy.Entry.isCreateConnection

theorem asked_append (c : Nat) (log out : List Action) : asked c (log ++ out) = asked c log + asked c out := by
  simp [asked,List.countP_append]

/-- A context that answers for the client, or came with data for it. -/
def Held (c : Nat) (x : System keys relayKeys × Download) (id : Nat) : Prop :=
  Mine x.1 c id ∨ ∃ push ∈ x.2.posted, push.relaySideConnectionId = id

/-- Each request of the client is on its way or answered by one context. -/
structure Budget (c : Nat) (x : System keys relayKeys × Download) (log : List Action) : Prop where
  queued : (creations c x.1.toRelay).length ≤ asked c log
  spent : ∀ id, Held c x id → (creations c x.1.toRelay).length + 1 ≤ asked c log
  single : ∀ id id', Held c x id → Held c x id' → id = id'
  opened : ∀ id rc, x.1.relay.context? id = some rc → x.1.relay.ProxyIssued rc.proxyConnectionId
  linked : ∀ p, x.1.session = some p → x.1.relay.ProxyIssued p

/-- A client asks once. -/
theorem asked_once {s : System keys relayKeys} {log : List Action}
    (valid : Proxy.ServerInvariant cfg.proxy s.proxy (proxyLog log)) (c : Nat) : asked c log ≤ 1 := by
  obtain ⟨conn,reach,-⟩ := valid.past c
  have opens := (Proxy.history_invariant reach).opens
  unfold asked
  omega

/-- Every request that the proxy posts is for the client that asks. -/
theorem creations_posted {out : List Proxy.ServerAction}
    (own : ∀ c server m, .client c (.postMessage server (.createConnection m)) ∈ out →
      m.proxySideConnectionId = c) (c relayServer : Nat) :
    (creations c (posted relayServer out)).length ≤
      (Proxy.history c out).countP Proxy.Entry.isCreateConnection := by
  induction out with
  | nil => exact Nat.le_refl _
  | cons a out ih =>
    have rest := ih (fun c server m member => own c server m (List.mem_cons_of_mem a member))
    have split : creations c (posted relayServer (a :: out)) =
        creations c (posted relayServer [a]) ++ creations c (posted relayServer out) := by
      rw [← creations_append,posted,posted,posted,← List.filterMap_append,List.singleton_append]
    have split' : Proxy.history c (a :: out) = Proxy.history c [a] ++ Proxy.history c out := by
      rw [← Proxy.history_append,List.singleton_append]
    have first : (creations c (posted relayServer [a])).length ≤
        (Proxy.history c [a]).countP Proxy.Entry.isCreateConnection := by
      cases a with
      | client c' x =>
        cases x with
        | postMessage server m =>
          rw [posted_message]
          cases m with
          | createConnection m =>
            have same : m.proxySideConnectionId = c' := own c' server m List.mem_cons_self
            by_cases here : server = relayServer <;> by_cases client : c' = c <;>
              simp [creations,here,same,client,Proxy.Entry.isCreateConnection]
          | _ => split <;> simp [creations]
        | _ => exact Nat.zero_le _
      | _ => exact Nat.zero_le _
    rw [split,split',List.length_append,List.countP_append]
    exact Nat.add_le_add first rest

/-- What no step adds a context for is kept. -/
theorem Budget.move {c : Nat} {x x' : System keys relayKeys × Download} {log log' : List Action}
    (budget : Budget c x log) (held : ∀ id, Held c x' id → Held c x id)
    (queue : (creations c x'.1.toRelay).length + asked c log ≤
      (creations c x.1.toRelay).length + asked c log')
    (opened : ∀ id rc, x'.1.relay.context? id = some rc → x'.1.relay.ProxyIssued rc.proxyConnectionId)
    (linked : ∀ p, x'.1.session = some p → x'.1.relay.ProxyIssued p) : Budget c x' log' where
  queued := by
    have before := budget.queued
    omega
  spent := by
    intro id has
    have before := budget.spent id (held id has)
    omega
  single := fun id id' has has' => budget.single id id' (held id has) (held id' has')
  opened := opened
  linked := linked

/-! ## Steps of the relay -/

theorem context_back (s : Relay.DeviceRelayService relayKeys) (e : Relay.RelayEvent) {id : Nat}
    {rc : Relay.RelayConnectionContext} (found : (s.step cfg.relay e).1.context? id = some rc) :
    (∃ old, s.context? id = some old ∧ rc.proxyConnectionId = old.proxyConnectionId ∧
      rc.proxySideConnectionId = old.proxySideConnectionId) ∨
    (s.proxy? rc.proxyConnectionId ≠ none ∧
      (∃ m, e = .proxyPacket rc.proxyConnectionId (.message (some (.createConnection m))) ∧
        rc.proxySideConnectionId = m.proxySideConnectionId) ∧
      ∀ other, other ≠ id → (s.step cfg.relay e).1.context? other = s.context? other) := by
  cases Relay.step_contextMove cfg.relay s e with
  | same unchanged =>
    refine .inl ⟨rc,?_,rfl,rfl⟩
    simpa only [Relay.DeviceRelayService.context?,unchanged] using found
  | created p new m opened registered _ _ proxy client contexts =>
    rw [contexts] at found
    split at found
    · rename_i same
      subst same
      obtain rfl := Option.some.inj found
      subst proxy
      exact .inr ⟨registered,⟨m,rfl,client⟩,fun other apart => by rw [contexts,if_neg apart]⟩
    · exact .inl ⟨rc,found,rfl,rfl⟩
  | established c m _ contexts =>
    rw [contexts] at found
    split at found
    · obtain ⟨old,known,rfl⟩ := Option.map_eq_some_iff.mp found
      exact .inl ⟨old,known,rfl,rfl⟩
    · exact .inl ⟨rc,found,rfl,rfl⟩

theorem opened_step {s : Relay.DeviceRelayService relayKeys}
    (opened : ∀ id rc, s.context? id = some rc → s.ProxyIssued rc.proxyConnectionId)
    (e : Relay.RelayEvent) (id : Nat) (rc : Relay.RelayConnectionContext)
    (found : (s.step cfg.relay e).1.context? id = some rc) :
    (s.step cfg.relay e).1.ProxyIssued rc.proxyConnectionId := by
  apply Relay.issued_step s e
  rcases context_back s e found with ⟨old,known,proxy,-⟩ | ⟨registered,-⟩
  · rw [proxy]
    exact opened id old known
  · obtain ⟨conn,known⟩ := Option.ne_none_iff_exists'.mp registered
    exact TimedPool.issued_of_get? known

/-- A context comes to answer for the client when the relay is asked for it in the session. -/
theorem mine_back {s : System keys relayKeys} {e : Relay.RelayEvent} {c id : Nat}
    (mine : Mine (s.relayStep cfg e).1 c id) : Mine s c id ∨
      (∃ p m, e = .proxyPacket p (.message (some (.createConnection m))) ∧ some p = s.session ∧
        m.proxySideConnectionId = c) ∧
      ∀ other, Mine (s.relayStep cfg e).1 c other → other = id ∨ Mine s c other := by
  obtain ⟨rc,found,session,client⟩ := mine
  rcases context_back s.relay e found with ⟨old,known,proxy,same⟩ | ⟨-,⟨m,create,same⟩,others⟩
  · exact .inl ⟨old,known,proxy ▸ session,same ▸ client⟩
  · refine .inr ⟨⟨_,m,create,session,same ▸ client⟩,?_⟩
    rintro other ⟨rc',found',session',client'⟩
    by_cases here : other = id
    · exact .inl here
    · exact .inr ⟨rc',(others other here).symm.trans found',session',client'⟩

/-- Why a payload goes out to the client. -/
theorem returned_cause {s : System keys relayKeys} {c : Nat} {e : Event} {push : PR.PushData}
    (member : push ∈ returnedFor c s e) :
    ∃ dc m rc, e = .relay (.devicePacket dc (.postData (some m))) ∧ Relay.Answers s.relay dc m rc ∧
      (some rc.proxyConnectionId = s.session ∧ rc.proxySideConnectionId = c) ∧
      push = Relay.returned rc m := by
  unfold returnedFor at member
  split at member
  · rename_i dc m
    split at member
    · rename_i deviceId rc sender context
      split at member
      · rename_i mine
        exact ⟨dc,m,rc,rfl,⟨⟨deviceId,sender⟩,context⟩,mine,List.mem_singleton.mp member⟩
      · cases member
    · cases member
  · cases member

theorem mine_of_returned {s : System keys relayKeys} (self : Relay.SelfNamed s.relay) {c : Nat}
    {e : Event} {push : PR.PushData} (member : push ∈ returnedFor c s e) :
    Mine s c push.relaySideConnectionId := by
  obtain ⟨dc,m,rc,-,answers,mine,rfl⟩ := returned_cause member
  have named : rc.relaySideConnectionId = m.relaySideConnectionId := self _ rc answers.context
  exact ⟨rc,by simpa only [Relay.returned,named] using answers.context,mine⟩

/-! ## One step -/

theorem create_own {s : Proxy.Server keys} {log : List Proxy.ServerAction}
    (valid : Proxy.ServerInvariant cfg.proxy s log) {e : Proxy.ServerEvent} (c server : Nat)
    (m : PR.CreateConnection)
    (did : .client c (.postMessage server (.createConnection m)) ∈ (s.step cfg.proxy e).2) :
    m.proxySideConnectionId = c := by
  rcases Proxy.step_cause did with ⟨delivered,conn,ran,effect⟩ | ⟨conn,result,effect⟩
  · obtain ⟨-,own,-⟩ := (Proxy.handle_move cfg.proxy conn delivered).create effect
    exact own.trans (valid.live c conn ran.before).2
  · obtain ⟨-,-,-,⟨-,_,other⟩ | ⟨-,_,other⟩⟩ := (Proxy.handle_move cfg.proxy conn _).create effect
    · cases other
    · cases other

theorem queue_proxyStep {s : System keys relayKeys} {log : List Proxy.ServerAction}
    (valid : Proxy.ServerInvariant cfg.proxy s.proxy log) (c : Nat) (e : Proxy.ServerEvent) :
    (creations c (s.proxyStep cfg e).1.toRelay).length ≤
      (creations c s.toRelay).length + asked c (s.proxyStep cfg e).2 := by
  have bound := creations_posted (create_own valid (e := e)) c cfg.relayServer
  have out : asked c (s.proxyStep cfg e).2 =
      (Proxy.history c (s.proxy.step cfg.proxy e).2).countP Proxy.Entry.isCreateConnection := by
    change asked c ((s.proxy.step cfg.proxy e).2.map .proxy) = _
    rw [asked,proxyLog_proxy]
  have queue : (s.proxyStep cfg e).1.toRelay = s.toRelay ++
      (if s.session.isSome then posted cfg.relayServer (s.proxy.step cfg.proxy e).2 else []) := rfl
  rw [queue,creations_append,List.length_append,out]
  split
  · exact Nat.add_le_add_left bound _
  · exact Nat.add_le_add_left (Nat.zero_le _) _

theorem asked_relay (c : Nat) (out : List Relay.RelayAction) : asked c (out.map .relay) = 0 := by
  rw [asked,proxyLog_relay]
  rfl

theorem held_back {s : System keys relayKeys} (self : Relay.SelfNamed s.relay) {c : Nat} {d : Download}
    {e : Event} (mine : ∀ id, Mine (s.step cfg e).1 c id → Held c (s,d) id) (id : Nat)
    (held : Held c ((s.step cfg e).1,watchDownload cfg c s e d) id) : Held c (s,d) id := by
  rcases held with now | ⟨push,member,same⟩
  · exact mine id now
  · rcases List.mem_append.mp member with before | returned
    · exact .inr ⟨push,before,same⟩
    · exact .inl (same ▸ mine_of_returned self returned)

/-- The request that the relay takes from the queue may be the client's, which then has a context. -/
theorem budget_relayReceives {s : System keys relayKeys} (self : Relay.SelfNamed s.relay) {c : Nat}
    {d : Download} {log : List Action} (valid : Proxy.ServerInvariant cfg.proxy s.proxy (proxyLog log))
    (budget : Budget c (s,d) log) {p : Nat} {m : PR.Message} {rest : List PR.Message} (here : s.session = some p)
    (queue : s.toRelay = m :: rest) :
    Budget c ((s.step cfg .relayReceives).1,watchDownload cfg c s .relayReceives d)
      (log ++ (s.step cfg .relayReceives).2) := by
  have step : s.step cfg .relayReceives =
      { s with toRelay := rest }.relayStep cfg (.proxyPacket p (.message (some m))) := by
    simp [System.step,here,queue]
  have left : (s.step cfg .relayReceives).1.toRelay = rest := by rw [step]; rfl
  have silent : asked c (s.step cfg .relayReceives).2 = 0 := by rw [step]; exact asked_relay c _
  have opened : ∀ id rc, (s.step cfg .relayReceives).1.relay.context? id = some rc →
      (s.step cfg .relayReceives).1.relay.ProxyIssued rc.proxyConnectionId := by
    rw [step]
    exact opened_step budget.opened (.proxyPacket p (.message (some m)))
  have linked : ∀ q, (s.step cfg .relayReceives).1.session = some q →
      (s.step cfg .relayReceives).1.relay.ProxyIssued q := by
    rw [step]
    exact fun q same => Relay.issued_step s.relay (.proxyPacket p (.message (some m))) (budget.linked q same)
  have back {id : Nat} (mine : Mine (s.step cfg .relayReceives).1 c id) : Mine s c id ∨
      (∃ m', m = .createConnection m' ∧ m'.proxySideConnectionId = c) ∧
        ∀ other, Mine (s.step cfg .relayReceives).1 c other → other = id ∨ Mine s c other := by
    rw [step] at mine ⊢
    rcases mine_back mine with before | ⟨⟨_,m',create,-,client⟩,others⟩
    · exact .inl before
    · obtain ⟨-,rfl⟩ : _ ∧ m = .createConnection m' := by simpa using create
      exact .inr ⟨⟨m',rfl,client⟩,others⟩
  have split : creations c s.toRelay = creations c [m] ++ creations c rest := by
    rw [queue,← List.singleton_append,creations_append]
  have counted : (creations c s.toRelay).length =
      (creations c [m]).length + (creations c rest).length := by rw [split,List.length_append]
  by_cases own : ∃ m', m = .createConnection m' ∧ m'.proxySideConnectionId = c
  · have one : (creations c [m]).length = 1 := by
      obtain ⟨m',rfl,client⟩ := own
      simp [creations,client]
    have once := asked_once valid c
    have queued : (creations c s.toRelay).length ≤ asked c log := budget.queued
    -- The client's request was still on its way, so it had no context.
    have none (id : Nat) : ¬ Held c (s,d) id := by
      intro held
      have spent : (creations c s.toRelay).length + 1 ≤ asked c log := budget.spent id held
      omega
    have new {id : Nat}
        (held : Held c ((s.step cfg .relayReceives).1,watchDownload cfg c s .relayReceives d) id) :
        Mine (s.step cfg .relayReceives).1 c id := by
      rcases held with now | ⟨push,member,same⟩
      · exact now
      · exact absurd (.inr ⟨push,by simpa [watchDownload,returnedFor] using member,same⟩) (none id)
    refine ⟨?_,?_,?_,opened,linked⟩
    · rw [asked_append,silent]
      simp only
      rw [left]
      omega
    · intro id _
      rw [asked_append,silent]
      simp only
      rw [left]
      omega
    · intro id id' held held'
      rcases back (new held) with before | ⟨-,others⟩
      · exact absurd (.inl before) (none id)
      · rcases others id' (new held') with same | before
        · exact same.symm
        · exact absurd (.inl before) (none id')
  · refine budget.move (held_back self fun id mine => ?_) ?_ opened linked
    · rcases back mine with before | ⟨create,-⟩
      · exact .inl before
      · exact absurd create own
    · rw [asked_append,silent]
      simp only
      rw [left]
      omega

/-- The step lemma. -/
theorem budget_step {s : System keys relayKeys} (self : Relay.SelfNamed s.relay) {c : Nat}
    {d : Download} {log : List Action} (valid : Proxy.ServerInvariant cfg.proxy s.proxy (proxyLog log))
    (budget : Budget c (s,d) log) (e : Event) :
    Budget c ((s.step cfg e).1,watchDownload cfg c s e d) (log ++ (s.step cfg e).2) := by
  have idle (same : s.step cfg e = (s,[])) :
      Budget c ((s.step cfg e).1,watchDownload cfg c s e d) (log ++ (s.step cfg e).2) := by
    apply budget.move (held_back self (fun id mine => .inl (by rwa [same] at mine)))
    · rw [same,List.append_nil]
    · rw [same]
      exact budget.opened
    · rw [same]
      exact budget.linked
  have proxied (e' : Proxy.ServerEvent) (s' : System keys relayKeys) (proxy : s'.proxy = s.proxy)
      (relay : s'.relay = s.relay) (session : s'.session = s.session) (queue : s'.toRelay = s.toRelay)
      (step : s.step cfg e = s'.proxyStep cfg e') :
      Budget c ((s.step cfg e).1,watchDownload cfg c s e d) (log ++ (s.step cfg e).2) := by
    have relay' : (s.step cfg e).1.relay = s.relay := by rw [step]; exact relay
    have session' : (s.step cfg e).1.session = s.session := by rw [step]; exact session
    refine budget.move (held_back self fun id mine => .inl ?_) ?_ ?_ ?_
    · unfold Mine at mine ⊢
      rwa [relay',session'] at mine
    · have bound := queue_proxyStep (proxy ▸ valid) c e'
      rw [asked_append]
      simp only
      rw [step,← queue]
      omega
    · rw [relay']
      exact budget.opened
    · rw [relay',session']
      exact budget.linked
  cases e with
  | proxy e =>
    by_cases foreign : fromRelay e
    · exact idle (by simp [System.step,foreign])
    · exact proxied e s rfl rfl rfl rfl (by simp [System.step,foreign])
  | relay e =>
    by_cases foreign : fromProxy s.session e
    · exact idle (by simp [System.step,foreign])
    · have step : s.step cfg (.relay e) = s.relayStep cfg e := by simp [System.step,foreign]
      refine budget.move (held_back self fun id mine => ?_) ?_ ?_ ?_
      · rw [step] at mine
        rcases mine_back mine with before | ⟨⟨p,m,rfl,here,-⟩,-⟩
        · exact .inl before
        · simp [fromProxy,here] at foreign
      · rw [step,asked_append]
        exact Nat.add_le_add_left (Nat.le_add_right _ _) _
      · rw [step]
        exact opened_step budget.opened e
      · rw [step]
        exact fun p here => Relay.issued_step s.relay e (budget.linked p here)
  | connect =>
    cases accepted : s.relay.proxyConnectionManager.acceptConnection with
    | none =>
      exact idle (by simp [System.step,System.connect,Relay.DeviceRelayService.step,accepted])
    | some pair =>
      obtain ⟨p,manager⟩ := pair
      obtain ⟨-,fresh⟩ := TimedPool.accept_fresh accepted
      have issued (other : Nat) : manager.members.Issued other ↔
          other = p ∨ s.relay.ProxyIssued other := TimedPool.issued_accept accepted other
      have step : s.step cfg .connect =
          ({ s with
              relay := { s.relay with proxyConnectionManager := manager }
              session := some p, toRelay := [.challenge], toProxy := [] },
            [.relay (.acceptedProxy p)]) := by
        simp [System.step,System.connect,Relay.DeviceRelayService.step,accepted]
      refine budget.move (held_back self fun id mine => ?_) ?_ ?_ ?_
      · rw [step] at mine
        obtain ⟨rc,found,session,-⟩ := mine
        obtain rfl := Option.some.inj session
        exact absurd (budget.opened id rc found) fresh
      · rw [asked_append,step]
        exact Nat.add_le_add (Nat.zero_le _) (Nat.le_add_right _ _)
      · rw [step]
        exact fun id rc found => (issued _).mpr (.inr (budget.opened id rc found))
      · rw [step]
        intro q here
        obtain rfl := Option.some.inj here
        exact (issued _).mpr (.inl rfl)
  | disconnect =>
    refine budget.move (held_back self fun id mine => ?_) ?_ budget.opened ?_
    · obtain ⟨rc,-,session,-⟩ := mine
      cases session
    · rw [asked_append]
      exact Nat.add_le_add (Nat.zero_le _) (Nat.le_add_right _ _)
    · intro p here
      cases here
  | relayReceives =>
    cases here : s.session with
    | none => exact idle (by simp [System.step,here])
    | some p =>
      cases queue : s.toRelay with
      | nil => exact idle (by simp [System.step,here,queue])
      | cons m rest => exact budget_relayReceives self valid budget here queue
  | proxyReceives pendingWrites payloadSize =>
    cases queue : s.toProxy with
    | nil => exact idle (by simp [System.step,queue])
    | cons m rest =>
      cases handled : onServerPacket pendingWrites payloadSize m with
      | some e' =>
        exact proxied e' { s with toProxy := rest } rfl rfl rfl rfl (by simp [System.step,queue,handled])
      | none =>
        have step : s.step cfg (.proxyReceives pendingWrites payloadSize) =
            ({ s with toProxy := rest },[]) := by simp [System.step,queue,handled]
        refine budget.move (held_back self fun id mine => .inl ?_) ?_ ?_ ?_
        · rwa [step] at mine
        · rw [asked_append,step]
          exact Nat.le_refl _
        · rw [step]
          exact budget.opened
        · rw [step]
          exact budget.linked

/-! ## From the relay into the queue -/

theorem mem_pushes {c : Nat} {queue : List PR.Message} {push : PR.PushData} :
    push ∈ pushes c queue ↔ .postData push ∈ queue ∧ push.proxySideConnectionId = c := by
  unfold pushes
  rw [List.mem_filterMap]
  constructor
  · rintro ⟨m,member,data⟩
    cases m with
    | postData m =>
      simp only [Option.ite_none_right_eq_some,Option.some.injEq] at data
      obtain ⟨client,rfl⟩ := data
      exact ⟨member,client⟩
    | _ => simp at data
  · rintro ⟨member,client⟩
    exact ⟨_,member,by simp [client]⟩

theorem returnedFor_eq {s : System keys relayKeys} {c dc : Nat} {m : TR.PostData}
    {rc : Relay.RelayConnectionContext} (answers : Relay.Answers s.relay dc m rc) :
    returnedFor c s (.relay (.devicePacket dc (.postData (some m)))) =
      if some rc.proxyConnectionId = s.session ∧ rc.proxySideConnectionId = c then
        [Relay.returned rc m] else [] := by
  obtain ⟨⟨deviceId,sender⟩,context⟩ := answers
  simp only [returnedFor,sender,context]

/-- The relay queues for the client just what its devices post for it. -/
theorem pushes_relayStep {s : System keys relayKeys} (self : Relay.SelfNamed s.relay) (c : Nat)
    (e : Relay.RelayEvent)
    (registered : returnedFor c s (.relay e) ≠ [] → ∀ p ∈ s.session, s.relay.proxy? p ≠ none) :
    pushes c (sent s.session (s.relay.step cfg.relay e).2) = returnedFor c s (.relay e) := by
  have cause {push : PR.PushData}
      (member : push ∈ pushes c (sent s.session (s.relay.step cfg.relay e).2)) :
      push ∈ returnedFor c s (.relay e) := by
    obtain ⟨queued,client⟩ := mem_pushes.mp member
    obtain ⟨p,here,inside⟩ := mem_sent queued
    obtain ⟨dc,m,rc,rfl,answers,rfl,rfl⟩ := Relay.step_push self inside
    rw [returnedFor_eq answers,if_pos ⟨here.symm,client⟩]
    exact List.mem_singleton_self _
  by_cases none : returnedFor c s (.relay e) = []
  · rw [none,List.eq_nil_iff_forall_not_mem]
    intro push member
    have returned := cause member
    rw [none] at returned
    cases returned
  · obtain ⟨push,member⟩ := List.exists_mem_of_ne_nil _ none
    obtain ⟨dc,m,rc,same,answers,mine,-⟩ := returned_cause member
    obtain rfl := Event.relay.inj same
    have known : s.relay.proxy? rc.proxyConnectionId ≠ Option.none := registered none _ mine.1.symm
    rw [Relay.push_returned self answers known,returnedFor_eq answers,if_pos mine]
    simp [sent,mine.1,pushes,Relay.returned,mine.2]

/-! ## From the queue to the client -/

theorem clientBytes_history (c : Nat) (out : List Proxy.ServerAction) :
    clientBytes c out = (Proxy.history c out).filterMap (fun
      | .did (.postData data) => some data
      | _ => none) := by
  unfold clientBytes Proxy.history
  rw [List.filterMap_filterMap]
  apply List.filterMap_congr
  intro a _
  cases a with
  | client c' x =>
    by_cases same : c' = c <;> cases x <;> simp [Proxy.ServerAction.entry,same]
  | deliver c' e =>
    by_cases same : c' = c <;> simp [Proxy.ServerAction.entry,same]
  | _ => rfl

/-- A data packet is written to its client, and to no other. -/
theorem clientBytes_push {s : Proxy.Server keys} {m : PR.PushData} {payloadSize c : Nat}
    (alive : m.proxySideConnectionId = c → s.aborted = false ∧ s.connectionPool.find? c ≠ none) :
    clientBytes c (s.step cfg.proxy (.relayPush m payloadSize)).2 =
      (pushes c [.postData m]).map (·.payload) := by
  rw [clientBytes_history]
  by_cases own : m.proxySideConnectionId = c
  · obtain ⟨running,known⟩ := alive own
    obtain ⟨conn,found⟩ := Option.ne_none_iff_exists'.mp known
    subst own
    have step : s.step cfg.proxy (.relayPush m payloadSize) =
        s.deliver cfg.proxy m.proxySideConnectionId (.relayPush m.payload payloadSize) := by
      simp [Proxy.Server.step,running]
    rw [step,Proxy.history_deliver_own found]
    have effects : (Proxy.handle cfg.proxy conn (.relayPush m.payload payloadSize)).effects =
        [.keepAlive,.postData m.payload] ++
          (Proxy.tryUpdateDataTransferSize cfg.proxy conn 0 payloadSize).effects := rfl
    rw [effects]
    have update := Proxy.update_branch cfg.proxy conn 0 payloadSize
    generalize Proxy.tryUpdateDataTransferSize cfg.proxy conn 0 payloadSize = act at update ⊢
    cases update <;> simp [pushes]
  · have other : pushes c [.postData m] = [] := by simp [pushes,own]
    rw [other]
    by_cases aborted : s.aborted
    · simp [Proxy.Server.step,aborted]
    · have step : s.step cfg.proxy (.relayPush m payloadSize) =
          s.deliver cfg.proxy m.proxySideConnectionId (.relayPush m.payload payloadSize) := by
        simp [Proxy.Server.step,aborted]
      rw [step]
      rcases Proxy.history_deliver_out cfg.proxy s c m.proxySideConnectionId
        (.relayPush m.payload payloadSize) with none | ⟨same,-⟩
      · rw [none]
        rfl
      · exact absurd same.symm own

/-! ## Runs -/

/-- What a step posts for the client joins the queue, and what it writes leaves the queue. -/
def Flows (cfg : Config) (c : Nat) (s : System keys relayKeys) (e : Event) : Prop :=
  writtenTo cfg c s e ++ (pushes c (s.step cfg e).1.toProxy).map (·.payload) =
    (pushes c s.toProxy).map (·.payload) ++ (returnedFor c s e).map (·.payload)

theorem flows_step {s : System keys relayKeys} (self : Relay.SelfNamed s.relay) {c : Nat} {d : Download}
    {log : List Action} {e : Event} (carries : Carries cfg c (s,d) log e) : Flows cfg c s e := by
  have quiet (written : writtenTo cfg c s e = []) (returned : returnedFor c s e = [])
      (queue : pushes c (s.step cfg e).1.toProxy = pushes c s.toProxy) : Flows cfg c s e := by
    unfold Flows
    rw [written,returned,queue]
    simp
  cases e with
  | proxy e =>
    apply quiet rfl rfl
    simp only [System.step]
    split <;> rfl
  | relay e =>
    by_cases foreign : fromProxy s.session e
    · have step : s.step cfg (.relay e) = (s,[]) := by simp [System.step,foreign]
      apply quiet rfl _ (by rw [step])
      unfold fromProxy at foreign
      split at foreign
      · rfl
      · cases foreign
    · have step : s.step cfg (.relay e) = s.relayStep cfg e := by simp [System.step,foreign]
      have queue : (s.relayStep cfg e).1.toProxy =
          s.toProxy ++ sent s.session (s.relay.step cfg.relay e).2 := rfl
      unfold Flows
      rw [step,queue,pushes_append,pushes_relayStep self c e carries.registered,List.map_append]
      rfl
  | connect =>
    have empty : pushes c s.toProxy = [] := carries.lossless (.inl rfl)
    apply quiet rfl rfl
    rw [empty]
    simp only [System.step,System.connect]
    split
    · rfl
    · exact empty
  | disconnect =>
    have empty : pushes c s.toProxy = [] := carries.lossless (.inr rfl)
    exact quiet rfl rfl empty.symm
  | relayReceives =>
    apply quiet rfl rfl
    simp only [System.step]
    split
    · rename_i p m rest _ _
      have nothing : returnedFor c { s with toRelay := rest }
          (.relay (.proxyPacket p (.message (some m)))) = [] := rfl
      have queue : ({ s with toRelay := rest }.relayStep cfg (.proxyPacket p (.message (some m)))).1.toProxy =
          s.toProxy ++ sent s.session (s.relay.step cfg.relay (.proxyPacket p (.message (some m)))).2 := rfl
      have added : pushes c (sent s.session (s.relay.step cfg.relay (.proxyPacket p (.message (some m)))).2) =
          returnedFor c { s with toRelay := rest } (.relay (.proxyPacket p (.message (some m)))) :=
        pushes_relayStep (s := { s with toRelay := rest }) self c _ (fun some => absurd nothing some)
      rw [queue,pushes_append,added,nothing,List.append_nil]
    · rfl
  | proxyReceives pendingWrites payloadSize =>
    cases queue : s.toProxy with
    | nil =>
      have step : s.step cfg (.proxyReceives pendingWrites payloadSize) = (s,[]) := by
        simp [System.step,queue]
      exact quiet (by simp [writtenTo,arriving,nextPush,queue]) rfl (by rw [step])
    | cons m rest =>
      have split : pushes c s.toProxy = pushes c [m] ++ pushes c rest := by
        rw [queue,← List.singleton_append,pushes_append]
      have left : (s.step cfg (.proxyReceives pendingWrites payloadSize)).1.toProxy = rest := by
        simp only [System.step,queue]
        split <;> rfl
      have nothing : returnedFor c s (.proxyReceives pendingWrites payloadSize) = [] := rfl
      unfold Flows
      rw [left,split,List.map_append,nothing,List.map_nil,List.append_nil]
      congr 1
      cases m with
      | postData m =>
        have step : s.step cfg (.proxyReceives pendingWrites payloadSize) =
            { s with toProxy := rest }.proxyStep cfg (.relayPush m payloadSize) := by
          simp [System.step,queue,onServerPacket]
        have next : arriving s (.proxyReceives pendingWrites payloadSize) = some m := by
          rw [arriving,queue]
          rfl
        have written : writtenTo cfg c s (.proxyReceives pendingWrites payloadSize) =
            clientBytes c (s.proxy.step cfg.proxy (.relayPush m payloadSize)).2 := by
          rw [writtenTo,next,step]
          exact congrArg _ (proxyLog_proxy _)
        rw [written]
        exact clientBytes_push (carries.alive m next)
      | _ => simp [writtenTo,arriving,nextPush,queue,pushes]

theorem budget_start {c : Nat} {x : System keys relayKeys × Download}
    (start : (downloadMachine cfg keys relayKeys c).start x) : Budget c x [] := by
  obtain ⟨s,d⟩ := x
  obtain ⟨⟨-,⟨ticker,_,_,_,_,relay⟩,session,queue,-⟩,blank⟩ := start
  have none (id : Nat) : ¬ Held c (s,d) id := by
    rintro (⟨rc,found,-⟩ | ⟨push,member,-⟩)
    · rw [relay] at found
      cases found
    · rw [blank] at member
      cases member
  refine ⟨?_,fun id held => absurd held (none id),fun id _ held => absurd held (none id),?_,?_⟩
  · rw [queue]
    exact Nat.le_refl _
  · intro id rc found
    rw [relay] at found
    cases found
  · intro p here
    rw [session] at here
    cases here

/-- The run lemma. -/
theorem budget_reach {c : Nat} {ok : System keys relayKeys × Download → List Action → Event → Prop}
    {x : System keys relayKeys × Download} {log : List Action}
    (reach : (downloadMachine cfg keys relayKeys c).Reach ok x log) : Budget c x log := by
  refine reach.invariant (I := fun x log => Budget c x log) (fun x => budget_start) ?_
  rintro ⟨s,d⟩ log e before _ budget
  exact budget_step (self_named before.forget) (Proxy.server_invariant (proxy_reach before.forget)) budget e

theorem flows_reach {c : Nat} {x : System keys relayKeys × Download} {log : List Action}
    (reach : (downloadMachine cfg keys relayKeys c).Reach (Carries cfg c) x log) :
    x.2.written ++ (pushes c x.1.toProxy).map (·.payload) = x.2.posted.map (·.payload) := by
  refine reach.invariant (I := fun x _ => x.2.written ++ (pushes c x.1.toProxy).map (·.payload) =
    x.2.posted.map (·.payload)) ?_ ?_
  · rintro x ⟨⟨-,-,-,-,empty⟩,blank⟩
    rw [empty,blank]
    rfl
  · rintro ⟨s,d⟩ log e before carries ih
    have step : Flows cfg c s e := flows_step (self_named before.forget) carries
    change d.written ++ writtenTo cfg c s e ++ (pushes c (s.step cfg e).1.toProxy).map (·.payload) =
      (d.posted ++ returnedFor c s e).map (·.payload)
    calc d.written ++ writtenTo cfg c s e ++ (pushes c (s.step cfg e).1.toProxy).map (·.payload)
        = d.written ++ ((pushes c s.toProxy).map (·.payload) ++
            (returnedFor c s e).map (·.payload)) := by rw [List.append_assoc,step]
      _ = d.posted.map (·.payload) ++ (returnedFor c s e).map (·.payload) := by
          rw [← List.append_assoc,ih]
      _ = (d.posted ++ returnedFor c s e).map (·.payload) := List.map_append.symm

theorem posted_own {c : Nat} {ok : System keys relayKeys × Download → List Action → Event → Prop}
    {x : System keys relayKeys × Download} {log : List Action}
    (reach : (downloadMachine cfg keys relayKeys c).Reach ok x log) :
    ∀ push ∈ x.2.posted, push.proxySideConnectionId = c := by
  apply reach.invariant (I := fun x _ => ∀ push ∈ x.2.posted, push.proxySideConnectionId = c)
  · rintro x ⟨-,blank⟩ push member
    rw [blank] at member
    cases member
  · rintro ⟨s,d⟩ log e _ _ ih push member
    rcases List.mem_append.mp member with earlier | now
    · exact ih push earlier
    · obtain ⟨_,_,rc,-,-,⟨-,client⟩,rfl⟩ := returned_cause now
      exact client

/-- The device answers with two bytes, and the proxy writes them to its client. -/
def downloading : List Event :=
  attempt stateEstablished ++
  [ .relay (.devicePacket 2 (.postData (some
      { deviceSideConnectionId := 5, relaySideConnectionId := 1, payload := [104,105] }))),
    .proxyReceives false 10 ]

theorem downloading_carries : (downloadMachine referenceConfig .sequential .sequential 1).Allowed
    (Carries referenceConfig 1) (smallSystem 4,{}) [] downloading := by
  refine ⟨?_,?_,?_,?_,?_,?_,?_,?_,?_,?_,?_,?_,?_,?_,?_,?_,?_,?_,?_,trivial⟩ <;> decide

end MiniPP.Link
