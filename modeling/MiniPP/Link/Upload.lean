import MiniPP.Link.Establishment
import MiniPP.Proxy.Upload
import MiniPP.Relay.Forwarding

/-! An upload from a client to its device. The proxy cuts it into packets, the link carries
them, and the relay sends each on under the ids of the context. What the relay has sent and
what is still on its way is what has been uploaded. -/
namespace MiniPP.Link

variable {keys : KeySource} {relayKeys : Relay.Keys} {cfg : Config}

/-! ## The relay's part of a run -/

def relayLog (log : List Action) : List Relay.RelayAction :=
  log.filterMap (fun | .relay a => some a | .proxy _ => none)

@[simp] theorem relayLog_relay (out : List Relay.RelayAction) : relayLog (out.map .relay) = out := by
  simp [relayLog,List.filterMap_map]

/-- For the relay, an event of the system is one of its own events or nothing. -/
theorem step_relay (cfg : Config) (s : System keys relayKeys) (e : Event) :
    (∃ e', (s.step cfg e).1.relay = (s.relay.step cfg.relay e').1) ∨ (s.step cfg e).1.relay = s.relay := by
  cases e with
  | proxy e =>
    simp only [System.step]
    split <;> exact .inr rfl
  | relay e =>
    simp only [System.step]
    split
    · exact .inr rfl
    · exact .inl ⟨e,rfl⟩
  | connect =>
    simp only [System.step,System.connect]
    split
    · exact .inl ⟨.newProxyConnection,rfl⟩
    · exact .inr rfl
  | disconnect => exact .inr rfl
  | relayReceives =>
    simp only [System.step]
    split
    · rename_i p m rest _ _
      exact .inl ⟨.proxyPacket p (.message (some m)),rfl⟩
    · exact .inr rfl
  | proxyReceives pendingWrites payloadSize =>
    simp only [System.step]
    split
    · split <;> exact .inr rfl
    · exact .inr rfl

theorem self_named {ok : System keys relayKeys → List Action → Event → Prop}
    {s : System keys relayKeys} {log : List Action}
    (reach : (systemMachine cfg keys relayKeys).Reach ok s log) : Relay.SelfNamed s.relay := by
  apply reach.invariant (I := fun s _ => Relay.SelfNamed s.relay)
  · rintro s ⟨-,start,-⟩
    exact Relay.self_named (Machine.reach_run start [])
  · intro s log e _ _ named
    change Relay.SelfNamed (s.step cfg e).1.relay
    rcases step_relay cfg s e with ⟨e',relay⟩ | relay
    · rw [relay]
      exact Relay.selfNamed_move named (Relay.step_contextMove cfg.relay s.relay e')
    · rw [relay]
      exact named

/-! ## Payloads -/

/-- The payloads in the queue that client `c` pushes under the relay's id. -/
def pending (c relaySide : Nat) (queue : List PR.Message) : List Bytes :=
  queue.filterMap (fun
    | .postData m =>
      if m.proxySideConnectionId = c ∧ m.relaySideConnectionId = relaySide then some m.payload else none
    | _ => none)

@[simp] theorem pending_append (c relaySide : Nat) (queue more : List PR.Message) :
    pending c relaySide (queue ++ more) = pending c relaySide queue ++ pending c relaySide more :=
  List.filterMap_append

/-- What one upload is cut into. -/
def pieces (data : Bytes) : List Bytes := Proxy.payloads data.length data

theorem flatten_pieces (list : List Bytes) : (list.flatMap pieces).flatten = list.flatten := by
  induction list with
  | nil => rfl
  | cons data list ih =>
    have whole : (pieces data).flatten = data := Proxy.flatten_payloads _ _ (Nat.le_refl _)
    rw [List.flatMap_cons,List.flatten_append,whole,ih,List.flatten_cons]

theorem pieces_bound {data piece : Bytes} (member : piece ∈ pieces data) :
    piece ≠ [] ∧ piece.length ≤ PR.maxPayloadSize :=
  ⟨Proxy.ne_nil_of_mem_payloads member,Proxy.length_payloads _ _ _ member⟩

/-- The call is made over the link, for a connection that is open under the relay's id. -/
structure Linked (cfg : Config) (s : System keys relayKeys) (relaySide : Nat)
    (call : Proxy.ClientConnection × Bytes) : Prop where
  session : s.session ≠ none
  relay : call.1.relayConnectionId = cfg.relayServer
  known : cfg.relayServer ∈ cfg.proxy.relayServers
  relaySide : call.1.relaySideConnectionId = relaySide

/-- The payload of a packet that goes to the relay server under the id there. -/
def addressed (relaySide relayServer : Nat) (packet : Nat × PR.PushData) : Option Bytes :=
  if packet.1 = relayServer ∧ packet.2.relaySideConnectionId = relaySide then some packet.2.payload
  else none

theorem posted_message (relayServer c server : Nat) (m : PR.Message) :
    posted relayServer [.client c (.postMessage server m)] = if server = relayServer then [m] else [] := by
  by_cases here : server = relayServer <;> simp [posted,here]

theorem pending_data (c relaySide : Nat) (m : PR.PushData) : pending c relaySide [.postData m] =
    if m.proxySideConnectionId = c ∧ m.relaySideConnectionId = relaySide then [m.payload] else [] := by
  by_cases own : m.proxySideConnectionId = c ∧ m.relaySideConnectionId = relaySide <;> simp [pending,own]

theorem pending_message (c relaySide relayServer c' server : Nat) (m : PR.Message) :
    pending c relaySide (posted relayServer [.client c' (.postMessage server m)]) =
      ((Proxy.serverPackets [.client c' (.postMessage server m)]).filter
        (fun packet => packet.2.proxySideConnectionId = c)).filterMap (addressed relaySide relayServer) := by
  rw [posted_message]
  cases m with
  | postData m =>
    have single : Proxy.serverPackets [.client c' (.postMessage server (.postData m))] = [(server,m)] := rfl
    rw [single]
    by_cases here : server = relayServer
    · rw [if_pos here,pending_data]
      by_cases client : m.proxySideConnectionId = c
      · by_cases own : m.relaySideConnectionId = relaySide <;> simp [addressed,here,client,own]
      · simp [client]
    · have other : addressed relaySide relayServer (server,m) = none := if_neg (fun both => here both.1)
      rw [if_neg here]
      by_cases client : m.proxySideConnectionId = c <;> simp [pending,client,other]
  | _ => split <;> rfl

theorem pending_posted (c relaySide relayServer : Nat) (out : List Proxy.ServerAction) :
    pending c relaySide (posted relayServer out) =
      ((Proxy.serverPackets out).filter (fun packet => packet.2.proxySideConnectionId = c)).filterMap
        (addressed relaySide relayServer) := by
  induction out with
  | nil => rfl
  | cons a out ih =>
    have split : posted relayServer (a :: out) = posted relayServer [a] ++ posted relayServer out :=
      List.filterMap_append (l := [a])
    have split' : Proxy.serverPackets (a :: out) = Proxy.serverPackets [a] ++ Proxy.serverPackets out :=
      List.filterMap_append (l := [a])
    have first : pending c relaySide (posted relayServer [a]) =
        ((Proxy.serverPackets [a]).filter (fun packet => packet.2.proxySideConnectionId = c)).filterMap
          (addressed relaySide relayServer) := by
      cases a with
      | client c' x =>
        cases x with
        | postMessage server m => exact pending_message c relaySide relayServer c' server m
        | _ => rfl
      | _ => rfl
    rw [split,split',pending_append,first,ih]
    rw [List.filter_append,List.filterMap_append]

theorem addressed_uploads {s : System keys relayKeys} {relaySide : Nat}
    {calls : List (Proxy.ClientConnection × Bytes)}
    (linked : ∀ call ∈ calls, Linked cfg s relaySide call) :
    (calls.flatMap (Proxy.uploadPackets cfg.proxy)).filterMap (addressed relaySide cfg.relayServer) =
      (calls.map Prod.snd).flatMap pieces := by
  induction calls with
  | nil => rfl
  | cons call calls ih =>
    obtain ⟨-,relay,known,own⟩ := linked call List.mem_cons_self
    have first : (Proxy.uploadPackets cfg.proxy call).filterMap (addressed relaySide cfg.relayServer) =
        pieces call.2 := by
      simp [Proxy.uploadPackets,addressed,relay,known,own,List.filterMap_map,Function.comp_def,pieces]
    rw [List.flatMap_cons,List.filterMap_append,first,
      ih (fun other member => linked other (List.mem_cons_of_mem _ member))]
    rfl

/-! ## Steps -/

/-- What has been uploaded by the client, and sent to the device for it. -/
structure Transfer where
  uploaded : List Bytes := []
  delivered : List TR.PostData := []

def calls (cfg : Config) (c : Nat) (s : System keys relayKeys) (e : Event) :
    List (Proxy.ClientConnection × Bytes) :=
  Proxy.uploadCalls c s.proxy (proxyLog (s.step cfg e).2)

/-- Data for the context that the relay sends to the device for a packet from the link. -/
def sentOn (cfg : Config) (relaySide : Nat) (s : System keys relayKeys) (e : Event) : List TR.PostData :=
  if e = .relayReceives then Relay.dataMessages relaySide (relayLog (s.step cfg e).2) else []

def watchTransfer (cfg : Config) (c relaySide : Nat) (s : System keys relayKeys) (e : Event)
    (t : Transfer) : Transfer where
  uploaded := t.uploaded ++ (calls cfg c s e).map Prod.snd
  delivered := t.delivered ++ sentOn cfg relaySide s e

/-- The system with a record of the uploads of client `c` and of what is sent to the device
under the relay's id. -/
def uploadMachine (cfg : Config) (keys : KeySource) (relayKeys : Relay.Keys) (c relaySide : Nat) :
    Machine (System keys relayKeys × Transfer) Event Action :=
  (systemMachine cfg keys relayKeys).withGhost {} (watchTransfer cfg c relaySide)

/-- The context is open for the client, and its device has a data connection. -/
def Served (s : Relay.DeviceRelayService relayKeys) (c relaySide : Nat) : Prop :=
  ∃ rc ∈ s.context? relaySide, rc.proxySideConnectionId = c ∧
    ∃ d ∈ s.deviceManager.getDeviceById rc.deviceId, ∃ dc ∈ d.dataConnection, s.conn? dc ≠ none

/-- The data packet that the relay receives next. -/
def nextPush : List PR.Message → Option PR.PushData
  | .postData m :: _ => some m
  | _ => none

/-- The link loses none of the client's data, each upload is made over it, and its packets
find the relay, the context and the device there. -/
structure Conveys (cfg : Config) (c relaySide : Nat) (x : System keys relayKeys × Transfer)
    (_log : List Action) (e : Event) : Prop where
  lossless : e = .connect ∨ e = .disconnect → pending c relaySide x.1.toRelay = []
  linked : ∀ call ∈ calls cfg c x.1 e, Linked cfg x.1 relaySide call
  served : e = .relayReceives → ∀ p ∈ x.1.session, ∀ m ∈ nextPush x.1.toRelay,
    m.relaySideConnectionId = relaySide → x.1.relay.proxy? p ≠ none ∧ Served x.1.relay c relaySide

section Decide

variable (c relaySide : Nat) (s : System keys relayKeys)

instance : Decidable (Served s.relay c relaySide) :=
  inferInstanceAs (Decidable (∃ rc ∈ s.relay.context? relaySide, rc.proxySideConnectionId = c ∧
    ∃ d ∈ s.relay.deviceManager.getDeviceById rc.deviceId, ∃ dc ∈ d.dataConnection,
      s.relay.conn? dc ≠ none))

instance (call : Proxy.ClientConnection × Bytes) : Decidable (Linked cfg s relaySide call) :=
  decidable_of_iff (s.session ≠ none ∧ call.1.relayConnectionId = cfg.relayServer ∧
      cfg.relayServer ∈ cfg.proxy.relayServers ∧ call.1.relaySideConnectionId = relaySide)
    ⟨fun ⟨session,relay,known,own⟩ => ⟨session,relay,known,own⟩,
      fun ⟨session,relay,known,own⟩ => ⟨session,relay,known,own⟩⟩

instance (x : System keys relayKeys × Transfer) (log : List Action) (e : Event) :
    Decidable (Conveys cfg c relaySide x log e) :=
  decidable_of_iff ((e = .connect ∨ e = .disconnect → pending c relaySide x.1.toRelay = []) ∧
      (∀ call ∈ calls cfg c x.1 e, Linked cfg x.1 relaySide call) ∧
      (e = .relayReceives → ∀ p ∈ x.1.session, ∀ m ∈ nextPush x.1.toRelay,
        m.relaySideConnectionId = relaySide → x.1.relay.proxy? p ≠ none ∧ Served x.1.relay c relaySide))
    ⟨fun ⟨lossless,linked,served⟩ => ⟨lossless,linked,served⟩,
      fun ⟨lossless,linked,served⟩ => ⟨lossless,linked,served⟩⟩

end Decide

/-- What a step uploads joins the queue, and what it sends on leaves the queue. -/
def Conserved (cfg : Config) (c relaySide : Nat) (s : System keys relayKeys) (e : Event) : Prop :=
  (sentOn cfg relaySide s e).map (·.payload) ++ pending c relaySide (s.step cfg e).1.toRelay =
    pending c relaySide s.toRelay ++ ((calls cfg c s e).map Prod.snd).flatMap pieces

theorem calls_none {c : Nat} {s : System keys relayKeys} {e : Event}
    (silent : proxyLog (s.step cfg e).2 = []) : calls cfg c s e = [] := by
  unfold calls
  rw [silent]
  exact Proxy.uploadCalls_silent (by simp [Proxy.received])

/-- The proxy's step puts into the queue what it uploads. -/
theorem conserved_proxyStep {s : System keys relayKeys} {log : List Proxy.ServerAction}
    (valid : Proxy.ServerInvariant cfg.proxy s.proxy log) (c relaySide : Nat) (e : Proxy.ServerEvent)
    (linked : ∀ call ∈ Proxy.uploadCalls c s.proxy (s.proxy.step cfg.proxy e).2,
      Linked cfg s relaySide call) :
    pending c relaySide (s.proxyStep cfg e).1.toRelay = pending c relaySide s.toRelay ++
      ((Proxy.uploadCalls c s.proxy (s.proxy.step cfg.proxy e).2).map Prod.snd).flatMap pieces := by
  have pushed : pending c relaySide (posted cfg.relayServer (s.proxy.step cfg.proxy e).2) =
      ((Proxy.uploadCalls c s.proxy (s.proxy.step cfg.proxy e).2).map Prod.snd).flatMap pieces := by
    rw [pending_posted,Proxy.step_uploads valid,addressed_uploads linked]
  simp only [System.proxyStep]
  rw [pending_append]
  congr 1
  by_cases session : s.session.isSome
  · rw [if_pos session,pushed]
  · rw [if_neg session]
    have none : Proxy.uploadCalls c s.proxy (s.proxy.step cfg.proxy e).2 = [] := by
      rw [List.eq_nil_iff_forall_not_mem]
      intro call member
      exact (linked call member).session (by simpa using session)
    rw [none]
    rfl

/-- The relay takes one packet from the queue, and sends its payload on if it is the client's. -/
theorem conserved_relayReceives {s : System keys relayKeys} (self : Relay.SelfNamed s.relay)
    {c relaySide : Nat} {t : Transfer} {log : List Action}
    (conveys : Conveys cfg c relaySide (s,t) log .relayReceives) :
    Conserved cfg c relaySide s .relayReceives := by
  have nothing (none : s.session = none ∨ s.toRelay = []) : Conserved cfg c relaySide s .relayReceives := by
    have step : s.step cfg .relayReceives = (s,[]) := by
      rcases none with none | empty
      · simp [System.step,none]
      · cases session : s.session <;> simp [System.step,session,empty]
    unfold Conserved sentOn
    rw [calls_none (by rw [step]; rfl),step,if_pos rfl]
    exact (List.append_nil _).symm
  cases session : s.session with
  | none => exact nothing (.inl session)
  | some p =>
    cases queue : s.toRelay with
    | nil => exact nothing (.inr queue)
    | cons m rest =>
      have step : s.step cfg .relayReceives =
          { s with toRelay := rest }.relayStep cfg (.proxyPacket p (.message (some m))) := by
        simp [System.step,session,queue]
      let out := (s.relay.step cfg.relay (.proxyPacket p (.message (some m)))).2
      have sent : sentOn cfg relaySide s .relayReceives = Relay.dataMessages relaySide out := by
        rw [sentOn,if_pos rfl,step]
        exact congrArg _ (relayLog_relay out)
      have left : (s.step cfg .relayReceives).1.toRelay = rest := by rw [step]; rfl
      have none : calls cfg c s .relayReceives = [] := calls_none (by rw [step]; exact proxyLog_relay out)
      -- Data for the context is sent for a packet that names its id and its client.
      have cause {sent : TR.PostData} (member : sent ∈ Relay.dataMessages relaySide out) :
          ∃ push, m = .postData push ∧ push.relaySideConnectionId = relaySide ∧
            ∃ rc, s.relay.context? relaySide = some rc ∧
              rc.proxySideConnectionId = push.proxySideConnectionId := by
        obtain ⟨own,dc,did⟩ := Relay.mem_dataMessages.mp member
        obtain ⟨_,push,rc,same,routed,rfl⟩ := Relay.step_data self did
        obtain ⟨rfl,rfl⟩ : _ ∧ m = .postData push := by simpa using same
        have own : push.relaySideConnectionId = relaySide := own
        exact ⟨push,rfl,own,rc,own ▸ routed.context,routed.client⟩
      have dropped (apart : ∀ sent, sent ∉ Relay.dataMessages relaySide out)
          (other : pending c relaySide [m] = []) : Conserved cfg c relaySide s .relayReceives := by
        unfold Conserved
        rw [sent,left,none,List.eq_nil_iff_forall_not_mem.mpr apart,queue,← List.singleton_append,
          pending_append,other]
        simp
      by_cases named : ∃ push, m = .postData push ∧ push.relaySideConnectionId = relaySide
      · obtain ⟨push,rfl,own⟩ := named
        have next : nextPush s.toRelay = some push := by rw [queue]; rfl
        obtain ⟨registered,rc,context,client,d,device,dc,data,open_⟩ :=
          conveys.served rfl p session push next own
        by_cases mine : push.proxySideConnectionId = c
        · have routed : Relay.Routed s.relay push rc dc :=
            ⟨own ▸ context,client.trans mine.symm,d,device,data⟩
          have out_ : out = [.toDevice dc (.postData (Relay.forwarded rc push))] :=
            Relay.push_forwarded self registered routed open_
          unfold Conserved
          rw [sent,left,none,out_,queue]
          simp [Relay.dataMessages,Relay.dataMessage,Relay.forwarded,pending,own,mine]
        · refine dropped (fun sent member => ?_) (by simp [pending,mine])
          obtain ⟨push',same,-,rc',context',client'⟩ := cause member
          obtain rfl := PR.Message.postData.inj same
          obtain rfl := Option.some.inj (context.symm.trans context')
          exact mine (client'.symm.trans client)
      · refine dropped (fun sent member => ?_) ?_
        · obtain ⟨push,same,own,-⟩ := cause member
          exact named ⟨push,same,own⟩
        · cases m with
          | postData push =>
            have other : push.relaySideConnectionId ≠ relaySide := fun own => named ⟨push,rfl,own⟩
            simp [pending,other]
          | _ => rfl

/-- The step lemma. -/
theorem conserved_step {s : System keys relayKeys} {log : List Proxy.ServerAction}
    (valid : Proxy.ServerInvariant cfg.proxy s.proxy log) (self : Relay.SelfNamed s.relay)
    {c relaySide : Nat} {t : Transfer} {log' : List Action} {e : Event}
    (conveys : Conveys cfg c relaySide (s,t) log' e) : Conserved cfg c relaySide s e := by
  have quiet (other : e ≠ .relayReceives) (silent : proxyLog (s.step cfg e).2 = [])
      (same : pending c relaySide (s.step cfg e).1.toRelay = pending c relaySide s.toRelay) :
      Conserved cfg c relaySide s e := by
    unfold Conserved sentOn
    rw [calls_none silent,same,if_neg other]
    simp
  have moved (e' : Proxy.ServerEvent) (s' : System keys relayKeys) (proxy : s'.proxy = s.proxy)
      (toRelay : s'.toRelay = s.toRelay) (session : s'.session = s.session)
      (other : e ≠ .relayReceives) (step : s.step cfg e = s'.proxyStep cfg e') :
      Conserved cfg c relaySide s e := by
    have out : proxyLog (s.step cfg e).2 = (s'.proxy.step cfg.proxy e').2 := by
      rw [step]
      exact proxyLog_proxy _
    have linked : ∀ call ∈ Proxy.uploadCalls c s'.proxy (s'.proxy.step cfg.proxy e').2,
        Linked cfg s' relaySide call := by
      intro call member
      obtain ⟨up,relay,known,own⟩ := conveys.linked call (by rw [calls,out,← proxy]; exact member)
      exact ⟨session ▸ up,relay,known,own⟩
    have joined := conserved_proxyStep (proxy ▸ valid) c relaySide e' linked
    unfold Conserved sentOn
    rw [if_neg other,calls,out,← proxy,step,joined,toRelay]
    rfl
  cases e with
  | proxy e =>
    by_cases foreign : fromRelay e
    · have step : s.step cfg (.proxy e) = (s,[]) := by simp [System.step,foreign]
      exact quiet (by simp) (by rw [step]; rfl) (by rw [step])
    · exact moved e s rfl rfl rfl (by simp) (by simp [System.step,foreign])
  | relay e =>
    by_cases foreign : fromProxy s.session e
    · have step : s.step cfg (.relay e) = (s,[]) := by simp [System.step,foreign]
      exact quiet (by simp) (by rw [step]; rfl) (by rw [step])
    · have step : s.step cfg (.relay e) = s.relayStep cfg e := by simp [System.step,foreign]
      exact quiet (by simp) (by rw [step]; exact proxyLog_relay _) (by rw [step]; rfl)
  | connect =>
    have empty : pending c relaySide s.toRelay = [] := conveys.lossless (.inl rfl)
    apply quiet (by simp)
    · simp only [System.step,System.connect]
      split
      · exact proxyLog_relay _
      · rfl
    · rw [empty]
      simp only [System.step,System.connect]
      split
      · rfl
      · exact empty
  | disconnect =>
    have empty : pending c relaySide s.toRelay = [] := conveys.lossless (.inr rfl)
    exact quiet (by simp) rfl empty.symm
  | relayReceives => exact conserved_relayReceives self conveys
  | proxyReceives pendingWrites payloadSize =>
    cases queue : s.toProxy with
    | nil =>
      have step : s.step cfg (.proxyReceives pendingWrites payloadSize) = (s,[]) := by
        simp [System.step,queue]
      exact quiet (by simp) (by rw [step]; rfl) (by rw [step])
    | cons m rest =>
      cases handled : onServerPacket pendingWrites payloadSize m with
      | none =>
        have step : s.step cfg (.proxyReceives pendingWrites payloadSize) =
            ({ s with toProxy := rest },[]) := by simp [System.step,queue,handled]
        exact quiet (by simp) (by rw [step]; rfl) (by rw [step])
      | some e =>
        exact moved e { s with toProxy := rest } rfl rfl rfl (by simp)
          (by simp [System.step,queue,handled])

/-! ## Runs -/

/-- The event is a packet of another connection that names the context and its client. -/
def Foreign (s : System keys relayKeys) (rc : Relay.RelayConnectionContext) (e : Event) : Prop :=
  ∃ p push, e = .relay (.proxyPacket p (.message (some (.postData push)))) ∧ some p ≠ s.session ∧
    push.proxySideConnectionId = rc.proxySideConnectionId

/-- Data for a context goes to the data connection of its device, under its id there, for a
packet of the link or of another connection. -/
theorem sent_under_context {s : System keys relayKeys} (self : Relay.SelfNamed s.relay) {e : Event}
    {dc : Nat} {m : TR.PostData} (sent : .relay (.toDevice dc (.postData m)) ∈ (s.step cfg e).2) :
    ∃ rc d, s.relay.context? m.relaySideConnectionId = some rc ∧
      m.deviceSideConnectionId = rc.deviceSideConnectionId ∧
      s.relay.deviceManager.getDeviceById rc.deviceId = some d ∧ d.dataConnection = some dc ∧
      (e = .relayReceives ∨ Foreign s rc e) := by
  have here {e' : Relay.RelayEvent} (did : .toDevice dc (.postData m) ∈ (s.relay.step cfg.relay e').2) :
      ∃ p push rc d, e' = .proxyPacket p (.message (some (.postData push))) ∧
        s.relay.context? m.relaySideConnectionId = some rc ∧
        m.deviceSideConnectionId = rc.deviceSideConnectionId ∧
        s.relay.deviceManager.getDeviceById rc.deviceId = some d ∧ d.dataConnection = some dc ∧
        push.proxySideConnectionId = rc.proxySideConnectionId := by
    obtain ⟨p,push,rc,same,routed,rfl⟩ := Relay.step_data self did
    obtain ⟨d,device,data⟩ := routed.device
    exact ⟨p,push,rc,d,same,routed.context,rfl,device,data,routed.client.symm⟩
  have unsent {out : List Proxy.ServerAction} :
      Action.relay (.toDevice dc (.postData m)) ∉ out.map Action.proxy := by simp
  cases e with
  | proxy e =>
    simp only [System.step] at sent
    split at sent
    · cases sent
    · exact absurd sent unsent
  | relay e =>
    simp only [System.step] at sent
    split at sent
    · cases sent
    · rename_i foreign
      obtain ⟨p,push,rc,d,rfl,context,id,device,data,client⟩ := here (by simpa [System.relayStep] using sent)
      refine ⟨rc,d,context,id,device,data,.inr ⟨p,push,rfl,?_,client⟩⟩
      simpa [fromProxy] using foreign
  | connect =>
    simp only [System.step,System.connect] at sent
    split at sent
    · obtain ⟨_,_,_,_,same,-⟩ := here (by simpa using sent)
      cases same
    · cases sent
  | disconnect => cases sent
  | relayReceives =>
    simp only [System.step] at sent
    split at sent
    · obtain ⟨_,_,rc,d,-,context,id,device,data,-⟩ := here (by simpa [System.relayStep] using sent)
      exact ⟨rc,d,context,id,device,data,.inl rfl⟩
    · cases sent
  | proxyReceives pendingWrites payloadSize =>
    simp only [System.step] at sent
    split at sent
    · split at sent
      · exact absurd sent unsent
      · cases sent
    · cases sent

/-- The run lemma: nothing is lost or doubled on the way, and the pieces keep their order. -/
theorem conserved_reach {c relaySide : Nat} {x : System keys relayKeys × Transfer} {log : List Action}
    (reach : (uploadMachine cfg keys relayKeys c relaySide).Reach (Conveys cfg c relaySide) x log) :
    x.2.delivered.map (·.payload) ++ pending c relaySide x.1.toRelay = x.2.uploaded.flatMap pieces := by
  refine reach.invariant (I := fun x _ => x.2.delivered.map (·.payload) ++
    pending c relaySide x.1.toRelay = x.2.uploaded.flatMap pieces) ?_ ?_
  · rintro x ⟨⟨-,-,-,empty,-⟩,blank⟩
    rw [empty,blank]
    rfl
  · rintro ⟨s,t⟩ log e before conveys ih
    have valid := Proxy.server_invariant (proxy_reach before.forget)
    have step := conserved_step valid (self_named before.forget) conveys
    change (t.delivered ++ sentOn cfg relaySide s e).map (·.payload) ++
        pending c relaySide (s.step cfg e).1.toRelay =
      (t.uploaded ++ (calls cfg c s e).map Prod.snd).flatMap pieces
    calc (t.delivered ++ sentOn cfg relaySide s e).map (·.payload) ++
          pending c relaySide (s.step cfg e).1.toRelay
        = t.delivered.map (·.payload) ++ ((sentOn cfg relaySide s e).map (·.payload) ++
            pending c relaySide (s.step cfg e).1.toRelay) := by rw [List.map_append,List.append_assoc]
      _ = t.delivered.map (·.payload) ++ pending c relaySide s.toRelay ++
            ((calls cfg c s e).map Prod.snd).flatMap pieces := by rw [step,List.append_assoc]
      _ = (t.uploaded ++ (calls cfg c s e).map Prod.snd).flatMap pieces := by
          rw [ih,List.flatMap_append]

theorem delivered_under {c relaySide : Nat} {x : System keys relayKeys × Transfer} {log : List Action}
    (reach : (uploadMachine cfg keys relayKeys c relaySide).Reach (Conveys cfg c relaySide) x log) :
    ∀ m ∈ x.2.delivered, m.relaySideConnectionId = relaySide := by
  apply reach.invariant (I := fun x _ => ∀ m ∈ x.2.delivered, m.relaySideConnectionId = relaySide)
  · rintro x ⟨-,blank⟩ m member
    rw [blank] at member
    cases member
  · rintro ⟨s,t⟩ log e _ _ ih m member
    rcases List.mem_append.mp member with earlier | now
    · exact ih m earlier
    · unfold sentOn at now
      split at now
      · exact (Relay.mem_dataMessages.mp now).1
      · cases now

/-- What the relay has sent on of the client's uploads, in packets of a bounded size, and what
is still on its way: together they are what the client has uploaded, in order. All that goes to
the device for a context goes there under the id of the context. -/
theorem upload_integrity {c relaySide : Nat} {x : System keys relayKeys × Transfer} {log : List Action}
    (reach : (uploadMachine cfg keys relayKeys c relaySide).Reach (Conveys cfg c relaySide) x log) :
    (x.2.delivered.map (·.payload)).flatten ++ (pending c relaySide x.1.toRelay).flatten =
        x.2.uploaded.flatten ∧
      (∀ m ∈ x.2.delivered, m.relaySideConnectionId = relaySide ∧ m.payload ≠ [] ∧
        m.payload.length ≤ PR.maxPayloadSize) ∧
      ∀ e dc m, .relay (.toDevice dc (.postData m)) ∈ (x.1.step cfg e).2 →
        ∃ rc d, x.1.relay.context? m.relaySideConnectionId = some rc ∧
          m.deviceSideConnectionId = rc.deviceSideConnectionId ∧
          x.1.relay.deviceManager.getDeviceById rc.deviceId = some d ∧ d.dataConnection = some dc ∧
          (e = .relayReceives ∨ Foreign x.1 rc e) := by
  have conserved := conserved_reach reach
  refine ⟨?_,?_,fun e dc m sent => sent_under_context (self_named reach.forget) sent⟩
  · rw [← List.flatten_append,conserved,flatten_pieces]
  · intro m member
    have piece : m.payload ∈ x.2.uploaded.flatMap pieces := by
      rw [← conserved]
      exact List.mem_append_left _ (List.mem_map_of_mem member)
    obtain ⟨data,-,piece⟩ := List.mem_flatMap.mp piece
    exact ⟨delivered_under reach m member,pieces_bound piece⟩

/-- A SOCKS5 client sends two bytes and then another over its connection, and the relay receives them. -/
def uploading : List Event :=
  attempt stateEstablished ++
    [.proxy (.data 1 [104,105]),.proxy (.data 1 [33]),.relayReceives,.relayReceives]

theorem uploading_conveys : (uploadMachine referenceConfig .sequential .sequential 1 1).Allowed
    (Conveys referenceConfig 1 1) (smallSystem 4,{}) [] uploading := by
  refine ⟨?_,?_,?_,?_,?_,?_,?_,?_,?_,?_,?_,?_,?_,?_,?_,?_,?_,?_,?_,?_,?_,trivial⟩ <;> decide

theorem upload_integrity_uploading :
    let x := ((uploadMachine referenceConfig .sequential .sequential 1 1).run (smallSystem 4,{}) uploading).1
    x.2.uploaded = [[104,105],[33]] ∧ (x.2.delivered.map (·.payload)).flatten = [104,105,33] := by
  intro x
  have start : (uploadMachine referenceConfig .sequential .sequential 1 1).start (smallSystem 4,{}) :=
    ⟨smallSystem_start 4,rfl⟩
  obtain ⟨whole,-⟩ := upload_integrity (Machine.Reach.run (.start start) uploading uploading_conveys)
  have uploaded : x.2.uploaded = [[104,105],[33]] := by decide
  have nothing : pending 1 1 x.1.toRelay = [] := by decide
  refine ⟨uploaded,?_⟩
  have whole : (x.2.delivered.map (·.payload)).flatten ++ (pending 1 1 x.1.toRelay).flatten =
      x.2.uploaded.flatten := whole
  rw [nothing,uploaded] at whole
  simpa using whole

end MiniPP.Link
