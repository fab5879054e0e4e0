import MiniPP.Placement.System
import MiniPP.Proxy.Placement
import MiniPP.StateRelay.Provenance

/-! A client's connection is opened on a device that was reported in the region of its account, at the
relay that reported it. -/
namespace MiniPP.Placement

open Message Framing StateRelay

variable {keys : KeySource} {relayKeys : Relay.Keys} {cfg : Config} {s : System keys relayKeys}
  {log out : List Action}

/-! ## Values -/

/-- The values of a request are values of their types. -/
def RequestTyped (r : Proxy.DeviceRequest) : Prop :=
  r.clientConnectionId < 2^64 ∧ r.countryId < 2^32 ∧ r.stateId < 2^32 ∧ r.cityId < 2^32

instance (r : Proxy.DeviceRequest) : Decidable (RequestTyped r) := inferInstanceAs (Decidable (_ ∧ _))

def actionTyped : Action → Prop
  | .proxy (.client _ (.postDeviceRequest r)) => RequestTyped r
  | .network (.relay _ (.report r)) => StateRelay.Typed r
  | _ => True

instance : DecidablePred actionTyped := by
  intro a
  unfold actionTyped
  split <;> infer_instance

/-- What a step posts and reports are values of their types. -/
def Typed (cfg : Config) (s : System keys relayKeys) (_ : List Action) (e : Event) : Prop :=
  ∀ a ∈ (s.step cfg e).2, actionTyped a

instance (log : List Action) (e : Event) : Decidable (Typed cfg s log e) :=
  inferInstanceAs (Decidable (∀ a ∈ _, actionTyped a))

/-! ## The parts of a run -/

theorem proxy_reach {ok : System keys relayKeys → List Action → Event → Prop}
    (reach : (systemMachine cfg keys relayKeys).Reach ok s log) :
    (Proxy.serverMachine cfg.proxy keys).Reach Machine.anything s.proxy (proxyLog log) := by
  refine reach.invariant
    (I := fun s log => (Proxy.serverMachine cfg.proxy keys).Reach Machine.anything s.proxy (proxyLog log))
    ?_ ?_
  · rintro s ⟨start,-⟩
    exact .start start
  intro s log e _ _ before
  have moves : Moves cfg s (s.step cfg e) := step_moves s e
  change (Proxy.serverMachine cfg.proxy keys).Reach Machine.anything (s.step cfg e).1.proxy
    (proxyLog (log ++ (s.step cfg e).2))
  generalize s.step cfg e = stepped at moves ⊢
  cases moves with
  | none proxy network =>
    rw [proxy,List.append_nil]
    exact before
  | proxy e proxy network =>
    rw [proxy,proxyLog_append,proxyLog_proxy]
    exact .step e before trivial
  | network e proxy network =>
    rw [proxy,proxyLog_append,proxyLog_network,List.append_nil]
    exact before

theorem network_reach (reach : (systemMachine cfg keys relayKeys).Reach (Typed cfg) s log) :
    (networkMachine cfg.relays cfg.library (selector cfg.library.toMessageFormat) relayKeys).Reach
      (ReportsTyped cfg.relays) s.network (networkLog log) := by
  refine reach.invariant (I := fun s log =>
    (networkMachine cfg.relays cfg.library (selector cfg.library.toMessageFormat) relayKeys).Reach
      (ReportsTyped cfg.relays) s.network (networkLog log)) ?_ ?_
  · rintro s ⟨-,start,-⟩
    exact .start start
  intro s log e _ typed before
  have moves : Moves cfg s (s.step cfg e) := step_moves s e
  change (networkMachine cfg.relays cfg.library (selector cfg.library.toMessageFormat) relayKeys).Reach
    (ReportsTyped cfg.relays) (s.step cfg e).1.network (networkLog (log ++ (s.step cfg e).2))
  unfold Typed at typed
  generalize s.step cfg e = stepped at moves typed ⊢
  cases moves with
  | none proxy network =>
    rw [network,List.append_nil]
    exact before
  | proxy e proxy network =>
    rw [network,networkLog_append,networkLog_proxy,List.append_nil]
    exact before
  | network e proxy network =>
    rw [network,networkLog_append,networkLog_network]
    refine .step e before ?_
    cases e with
    | relay i e =>
      intro r reported
      obtain ⟨a,member,same⟩ := List.mem_filterMap.mp reported
      have posted : .relay i (.report r) ∈ (s.networkStep cfg (.relay i e)).2 := by
        cases a with
        | report r' =>
          obtain rfl := Option.some.inj same
          exact List.mem_append_left _ (List.mem_map_of_mem member)
        | _ => cases same
      exact typed _ (List.mem_map_of_mem posted)
    | _ => trivial

/-! ## What is on its way -/

/-- The selector has answered a request that the proxy made for the client. -/
def AnsweredIn (cfg : Config) (log : List Action) (c : Nat) (resp : AcquireDeviceResp) : Prop :=
  ∃ early later r info, log = early ++ .network (.observer cfg.selector
      (.acquireDeviceResp c (acquireDevice r) info resp)) :: later ∧
    resp = acquireDeviceResp info ∧ .proxy (.client c (.postDeviceRequest r)) ∈ early

theorem AnsweredIn.append {c : Nat} {resp : AcquireDeviceResp} (answered : AnsweredIn cfg log c resp)
    (out : List Action) : AnsweredIn cfg (log ++ out) c resp := by
  obtain ⟨early,later,r,info,rfl,same,asked⟩ := answered
  exact ⟨early,later ++ out,r,info,by simp,same,asked⟩

def ResponseTyped (resp : AcquireDeviceResp) : Prop :=
  resp.deviceRelayServerRuntimeId < 2^64 ∧ resp.deviceRelaySideId < 2^64

/-- What a client was told of its device, the selector had answered. -/
def Told (cfg : Config) (before : List Action) : Action → Prop
  | .proxy (.deliver c (.deviceSelected resp)) => AnsweredIn cfg before c resp
  | _ => True

structure Routed (cfg : Config) (s : System keys relayKeys) (log : List Action) : Prop where
  asked : ∀ data ∈ s.toSelector, ∃ r, .proxy (.client r.clientConnectionId (.postDeviceRequest r)) ∈ log ∧
    RequestTyped r ∧ data = requestPacket cfg.library r ∧ data ≠ []
  answered : ∀ data ∈ s.toProxy, ∃ c resp, AnsweredIn cfg log c resp ∧ c < 2^64 ∧ ResponseTyped resp ∧
    data = responsePacket cfg.library c resp ∧ data ≠ []
  told : Log.Always (Told cfg) log

theorem request_read {x : PacketLibrary} {r : Proxy.DeviceRequest} (typed : RequestTyped r)
    (written : requestPacket x r ≠ []) :
    ∃ header payload, Framing.front x.format.framing (requestPacket x r) = .packet header payload ∧
      header.commandId = cmdAcquireDevice ∧ header.requestId = r.clientConnectionId ∧
      x.toMessageFormat.decode (PP.AcquireDevice.deserializeMembers x.toMessageFormat) payload =
        some (acquireDevice r) := by
  obtain ⟨request,country,state,city⟩ := typed
  have inRange : MessageFormat.InRange (acquireDevice r).serializeMembers := by
    simpa [MessageFormat.InRange,PP.AcquireDevice.serializeMembers,acquireDevice,Primitive.InRange]
      using ⟨country,state,city⟩
  exact x.message_read (MessageClass.delivers x.toMessageFormat .acquireDevice (acquireDevice r) (acquireDevice r) rfl)
    inRange (by decide) request written

theorem response_read {x : PacketLibrary} {c : Nat} {resp : AcquireDeviceResp} (request : c < 2^64)
    (typed : ResponseTyped resp) (written : responsePacket x c resp ≠ []) :
    onServerPacket x (responsePacket x c resp) = some (.devicePacket c resp) := by
  have inRange : MessageFormat.InRange (PP.AcquireDeviceResp.serializeMembers resp) := by
    simpa [MessageFormat.InRange,PP.AcquireDeviceResp.serializeMembers,Primitive.InRange,ResponseTyped]
      using typed
  obtain ⟨header,payload,next,command,same,decoded⟩ := x.message_read
    (MessageClass.delivers x.toMessageFormat .acquireDeviceResp resp resp rfl) inRange
    (show cmdAcquireDeviceResp < 2^32 by decide) request written
  have decoded : x.toMessageFormat.decode (PP.AcquireDeviceResp.deserializeMembers x.toMessageFormat) payload =
      some resp := decoded
  have next : Framing.front x.format.framing (responsePacket x c resp) = .packet header payload := next
  simp [onServerPacket,next,command,decoded,same]

/-! ## Steps -/

/-- Nothing new is on its way. -/
theorem Routed.move (routed : Routed cfg s log) {s' : System keys relayKeys}
    (toSelector : ∀ data ∈ s'.toSelector, data ∈ s.toSelector)
    (toProxy : ∀ data ∈ s'.toProxy, data ∈ s.toProxy)
    (told : Log.Always (fun before => Told cfg (log ++ before)) out) : Routed cfg s' (log ++ out) where
  asked data member := by
    obtain ⟨r,posted,rest⟩ := routed.asked data (toSelector data member)
    exact ⟨r,List.mem_append_left _ posted,rest⟩
  answered data member := by
    obtain ⟨c,resp,answered,rest⟩ := routed.answered data (toProxy data member)
    exact ⟨c,resp,answered.append out,rest⟩
  told := Log.always_append.mpr ⟨routed.told,told⟩

theorem told_network (list : List (StateRelay.Action SelectorAction)) (log : List Action) :
    Log.Always (fun before => Told cfg (log ++ before)) (list.map .network) := by
  apply Log.always_of_mem
  intro a member before
  obtain ⟨b,-,rfl⟩ := List.mem_map.mp member
  trivial

theorem mem_posts {x : PacketLibrary} {out : List Proxy.ServerAction} {data : Bytes}
    (member : data ∈ posts x out) :
    ∃ c r, .client c (.postDeviceRequest r) ∈ out ∧ data = requestPacket x r ∧ data ≠ [] := by
  obtain ⟨written,filled⟩ := List.mem_filter.mp member
  obtain ⟨r,asked,rfl⟩ := List.mem_map.mp written
  obtain ⟨a,inside,same⟩ := List.mem_filterMap.mp asked
  cases a with
  | client c x =>
    cases x with
    | postDeviceRequest r' =>
      obtain rfl := Option.some.inj same
      exact ⟨c,_,inside,rfl,by simpa using filled⟩
    | _ => cases same
  | _ => cases same

/-- An event of the proxy: its requests are posted, and it tells a client of a device that was
selected for it. -/
theorem routed_proxyStep (routed : Routed cfg s log) {e : Proxy.ServerEvent}
    (valid : Proxy.ServerInvariant cfg.proxy (s.proxy.step cfg.proxy e).1
      (proxyLog log ++ (s.proxy.step cfg.proxy e).2))
    (typed : ∀ a ∈ (s.proxyStep cfg e).2, actionTyped a)
    (selected : ∀ c resp, e = .devicePacket c resp → AnsweredIn cfg log c resp) :
    Routed cfg (s.proxyStep cfg e).1 (log ++ (s.proxyStep cfg e).2) where
  asked data member := by
    rcases List.mem_append.mp member with old | new
    · obtain ⟨r,posted,rest⟩ := routed.asked data old
      exact ⟨r,List.mem_append_left _ posted,rest⟩
    · split at new
      · obtain ⟨c,r,posted,same,filled⟩ := mem_posts new
        have own : r.clientConnectionId = c := Proxy.request_own valid (List.mem_append_right _ posted)
        have inside : Action.proxy (.client c (.postDeviceRequest r)) ∈ (s.proxyStep cfg e).2 :=
          List.mem_map_of_mem posted
        exact ⟨r,List.mem_append_right _ (own ▸ inside),typed _ inside,same,filled⟩
      · cases new
  answered data member := by
    obtain ⟨c,resp,answered,rest⟩ := routed.answered data member
    exact ⟨c,resp,answered.append _,rest⟩
  told := by
    refine Log.always_append.mpr ⟨routed.told,Log.always_of_mem ?_⟩
    intro a member before
    obtain ⟨b,inside,rfl⟩ := List.mem_map.mp member
    cases b with
    | deliver c e' =>
      cases e' with
      | deviceSelected resp => exact (selected c resp (Proxy.selected_cause inside)).append before
      | _ => trivial
    | _ => trivial

/-- What a selector answers are values of their types. -/
theorem responseTyped {x : PacketLibrary} {relays : Nat → Relay.Config}
    {network : Network relayKeys Selector.DeviceContextManager} {log : List (StateRelay.Action SelectorAction)}
    (informed : Informed relays x network log) {j requestId : Nat} {req : PP.AcquireDevice}
    {info : Option Selector.DeviceInfoBase}
    (handedOut : HandedOut relays x log
      (.observer j (.acquireDeviceResp requestId req info (acquireDeviceResp info)))) :
    ResponseTyped (acquireDeviceResp info) := by
  cases info with
  | none => exact ⟨by decide,by decide⟩
  | some info =>
    obtain ⟨-,i,r,_,_,reported,-,-,-,⟨server,device⟩,-⟩ := handedOut
    obtain ⟨⟨serverTyped,deviceTyped,-⟩,d,offline,rfl⟩ := informed.reported i r reported
    refine ⟨?_,?_⟩
    · rw [server]
      exact serverTyped
    · rw [device]
      exact deviceTyped

theorem onSelectDevice_answers {x : MessageFormat} (m : Selector.DeviceContextManager) (requestId : Nat)
    {payload : Bytes} {req : PP.AcquireDevice}
    (decoded : x.decode (PP.AcquireDevice.deserializeMembers x) payload = some req) :
    ∃ info, (onSelectDevice x m requestId payload).2 =
      [.acquireDeviceResp requestId req info (acquireDeviceResp info)] := by
  unfold onSelectDevice
  rw [decoded]
  exact ⟨_,rfl⟩

/-- The answer to a request of the proxy. -/
theorem selector_answers (s : System keys relayKeys) (requestId : Nat) {payload : Bytes}
    {r : Proxy.DeviceRequest} (decoded : cfg.library.toMessageFormat.decode
      (PP.AcquireDevice.deserializeMembers cfg.library.toMessageFormat) payload = some (acquireDevice r)) :
    ∃ info, (s.networkStep cfg (.observer cfg.selector (.clientPacket cmdAcquireDevice requestId payload))).2 =
      [.observer cfg.selector (.acquireDeviceResp requestId (acquireDevice r) info (acquireDeviceResp info))] := by
  obtain ⟨info,out⟩ := onSelectDevice_answers (s.network.observers cfg.selector) requestId decoded
  refine ⟨info,?_⟩
  simp only [System.networkStep,Network.step,selector,selectorStep,if_true,out]
  rfl

theorem routed_selectorReads
    (network : (networkMachine cfg.relays cfg.library (selector cfg.library.toMessageFormat) relayKeys).Reach
      (ReportsTyped cfg.relays) s.network (networkLog log))
    (routed : Routed cfg s log) {data : Bytes} {rest : List Bytes} (queue : s.toSelector = data :: rest) :
    Routed cfg (s.step cfg .selectorReads).1 (log ++ (s.step cfg .selectorReads).2) := by
  obtain ⟨r,asked,typed,rfl,written⟩ := routed.asked data (by simp [queue])
  obtain ⟨header,payload,next,command,request,decoded⟩ := request_read typed written
  let e : StateRelay.Event SelectorEvent :=
    .observer cfg.selector (.clientPacket cmdAcquireDevice r.clientConnectionId payload)
  obtain ⟨info,out⟩ := selector_answers s r.clientConnectionId decoded
  let answer : StateRelay.Action SelectorAction := .observer cfg.selector
    (.acquireDeviceResp r.clientConnectionId (acquireDevice r) info (acquireDeviceResp info))
  have step : s.step cfg .selectorReads =
      ({ (({ s with toSelector := rest } : System keys relayKeys).networkStep cfg e).1 with
          toProxy := s.toProxy ++ answers cfg.library [answer] },[.network answer]) := by
    have out : (({ s with toSelector := rest } : System keys relayKeys).networkStep cfg e).2 = [answer] := out
    simp only [System.step,queue,next,command,request]
    rw [out]
    rfl
  have informed := informed_reach network
  have handedOut : HandedOut cfg.relays cfg.library (networkLog log) answer := by
    have reach := Machine.Reach.step e network trivial
    apply handedOut_reach reach (networkLog log) answer []
    exact congrArg (networkLog log ++ ·) out
  have answered : AnsweredIn cfg (log ++ [.network answer]) r.clientConnectionId (acquireDeviceResp info) :=
    ⟨log,[],r,info,rfl,rfl,asked⟩
  rw [step]
  refine ⟨?_,?_,?_⟩
  · intro data member
    obtain ⟨r',posted,others⟩ := routed.asked data (by rw [queue]; exact List.mem_cons_of_mem _ member)
    exact ⟨r',List.mem_append_left _ posted,others⟩
  · intro data member
    rcases List.mem_append.mp member with old | new
    · obtain ⟨c,resp,earlier,others⟩ := routed.answered data old
      exact ⟨c,resp,earlier.append _,others⟩
    · obtain ⟨member,filled⟩ := List.mem_filter.mp new
      obtain rfl : data = responsePacket cfg.library r.clientConnectionId (acquireDeviceResp info) := by
        simpa [answer] using member
      exact ⟨_,_,answered,typed.1,responseTyped informed handedOut,rfl,by simpa using filled⟩
  · exact Log.always_append.mpr ⟨routed.told,told_network [answer] log⟩

/-- The step lemma. -/
theorem routed_step (reach : (systemMachine cfg keys relayKeys).Reach (Typed cfg) s log)
    (routed : Routed cfg s log) {e : Event} (typed : Typed cfg s log e) :
    Routed cfg (s.step cfg e).1 (log ++ (s.step cfg e).2) := by
  have valid := Proxy.server_invariant (proxy_reach (Machine.Reach.step e reach typed))
  have still {s' : System keys relayKeys} (toSelector : ∀ data ∈ s'.toSelector, data ∈ s.toSelector)
      (toProxy : ∀ data ∈ s'.toProxy, data ∈ s.toProxy) : Routed cfg s' (log ++ []) :=
    routed.move toSelector toProxy (Log.always_nil _)
  have proxied {s' : System keys relayKeys} (e' : Proxy.ServerEvent) (routed : Routed cfg s' log)
      (proxy : s'.proxy = s.proxy) (step : s.step cfg e = s'.proxyStep cfg e')
      (selected : ∀ c resp, e' = .devicePacket c resp → AnsweredIn cfg log c resp) :
      Routed cfg (s.step cfg e).1 (log ++ (s.step cfg e).2) := by
    change Proxy.ServerInvariant cfg.proxy (s.step cfg e).1.proxy (proxyLog (log ++ (s.step cfg e).2)) at valid
    rw [step,proxyLog_append] at valid
    have out : proxyLog (s'.proxyStep cfg e').2 = (s'.proxy.step cfg.proxy e').2 := proxyLog_proxy _
    rw [out] at valid
    rw [step]
    exact routed_proxyStep routed valid (by rw [← step]; exact typed) selected
  cases e with
  | proxy e =>
    by_cases foreign : fromSelector e
    · simp only [System.step,foreign,if_true]
      exact still (fun _ => id) (fun _ => id)
    · refine proxied e routed rfl (by simp [System.step,foreign]) ?_
      rintro c resp rfl
      exact absurd rfl foreign
  | network e => exact routed.move (fun _ => id) (fun _ => id) (told_network _ _)
  | connect =>
    simp only [System.step]
    split
    · exact still (fun _ => id) (fun _ => id)
    · exact still (fun _ member => (by cases member)) (fun _ member => (by cases member))
  | disconnect => exact still (fun _ member => (by cases member)) (fun _ member => (by cases member))
  | selectorReads =>
    cases queue : s.toSelector with
    | nil =>
      simp only [System.step,queue]
      exact still (by simp) (fun _ => id)
    | cons data rest => exact routed_selectorReads (network_reach reach) routed queue
  | proxyReads =>
    cases queue : s.toProxy with
    | nil =>
      simp only [System.step,queue]
      exact still (fun _ => id) (by simp)
    | cons data rest =>
      obtain ⟨c,resp,answered,request,respTyped,rfl,written⟩ := routed.answered data (by simp [queue])
      have handled := response_read request respTyped written
      have shorter : Routed cfg { s with toProxy := rest } log := by
        have kept : Routed cfg { s with toProxy := rest } (log ++ []) := routed.move (fun _ => id)
          (fun data member => by rw [queue]; exact List.mem_cons_of_mem _ member) (Log.always_nil _)
        rwa [List.append_nil] at kept
      refine proxied (.devicePacket c resp) shorter rfl (by simp [System.step,queue,handled]) ?_
      intro c' resp' same
      obtain ⟨rfl,rfl⟩ := Proxy.ServerEvent.devicePacket.inj same
      exact answered

/-- The run lemma. -/
theorem routed_reach (reach : (systemMachine cfg keys relayKeys).Reach (Typed cfg) s log) :
    Routed cfg s log := by
  refine reach.invariant (I := fun s log => Routed cfg s log) ?_ ?_
  · rintro s ⟨-,-,-,toSelector,toProxy⟩
    refine ⟨?_,?_,Log.always_nil _⟩
    · intro data member
      rw [toSelector] at member
      cases member
    · intro data member
      rw [toProxy] at member
      cases member
  · exact fun s log e before typed routed => routed_step before routed typed

/-! ## Where a connection is opened -/

/-- The device was reported online in the region of the request, and at the relay under the id there;
or there was none. -/
def Placed (cfg : Config) (early : List Action) (req : PP.AcquireDevice) (server device : Nat) :
    Option Selector.DeviceInfoBase → Prop
  | some info =>
    Vouched cfg.library cfg.selector (networkLog early) info.deviceId (fun _ r => InRegion req r.geoInfo) ∧
    Vouched cfg.library cfg.selector (networkLog early) info.deviceId (fun i r =>
      server = (cfg.relays i).serverRuntimeId ∧ device = r.relaySideDeviceKey)
  | none => server = 0 ∧ device = 0

/-- A relay server is asked for a connection of a client only after the selector has answered a request
for the client. -/
theorem opened_reach (reach : (systemMachine cfg keys relayKeys).Reach (Typed cfg) s log)
    {before after : List Action} {c server : Nat} {m : PR.CreateConnection}
    (split : log = before ++ .proxy (.client c (.postMessage server (.createConnection m))) :: after) :
    ∃ early later v req info, before = early ++ .network (.observer cfg.selector
        (.acquireDeviceResp c req info ⟨server,m.relaySideDeviceId⟩)) :: later ∧
      .proxy (.deliver c (.authResult (some v))) ∈ early ∧
      (req.countryId = v.countryId ∧ req.stateId = v.stateId ∧ req.cityId = v.cityId) ∧
      Placed cfg early req server m.relaySideDeviceId info := by
  have valid := Proxy.server_invariant (proxy_reach reach)
  have routed := routed_reach reach
  have position : proxyLog log =
      proxyLog before ++ .client c (.postMessage server (.createConnection m)) :: proxyLog after := by
    rw [split,proxyLog_append]
    rfl
  -- Before the connection was asked for, the client was told of the device.
  have told := mem_proxyLog.mp (Proxy.create_supplied valid position)
  obtain ⟨front,back,here⟩ := List.append_of_mem told
  have answered : AnsweredIn cfg front c ⟨server,m.relaySideDeviceId⟩ := by
    refine routed.told front (.proxy (.deliver c (.deviceSelected ⟨server,m.relaySideDeviceId⟩)))
      (back ++ .proxy (.client c (.postMessage server (.createConnection m))) :: after) ?_
    rw [split,here]
    simp [Proxy.asksFor]
  obtain ⟨early,later,r,info,order,resp,asked⟩ := here ▸ answered.append _
  refine ⟨early,later,?_⟩
  -- Before the selector answered, the proxy had asked, and before that it had the verdict.
  obtain ⟨old,new,first⟩ := List.append_of_mem asked
  have earlier : proxyLog log = proxyLog old ++ .client c (.postDeviceRequest r) ::
      proxyLog (new ++ .network (.observer cfg.selector
        (.acquireDeviceResp c (acquireDevice r) info ⟨server,m.relaySideDeviceId⟩)) :: later ++
          .proxy (.client c (.postMessage server (.createConnection m))) :: after) := by
    rw [split,order,first]
    simp [proxyLog]
  obtain ⟨v,given,region⟩ := Proxy.request_supplied valid earlier
  refine ⟨v,acquireDevice r,info,order,?_,region,?_⟩
  · rw [first]
    exact List.mem_append_left _ (mem_proxyLog.mp given)
  · have handedOut := handedOut_reach (network_reach reach) (networkLog early)
      (.observer cfg.selector (.acquireDeviceResp c (acquireDevice r) info ⟨server,m.relaySideDeviceId⟩))
      (networkLog (later ++ .proxy (.client c (.postMessage server (.createConnection m))) :: after))
      (by rw [split,order]; simp [networkLog])
    cases info with
    | none => exact ⟨congrArg AcquireDeviceResp.deviceRelayServerRuntimeId resp,
        congrArg AcquireDeviceResp.deviceRelaySideId resp⟩
    | some info => exact handedOut

/-- A relay server is asked for a connection of a client after the selector has answered a request for
the client. That was in the region of a verdict that the client had been given, and of the device of
the connection there was a report from there, and one of this relay server under this id; or no
device was found, and both ids are zero. -/
theorem opened_where_reported (reach : (systemMachine cfg keys relayKeys).Reach (Typed cfg) s log)
    {before after : List Action} {c server : Nat} {m : PR.CreateConnection}
    (split : log = before ++ .proxy (.client c (.postMessage server (.createConnection m))) :: after) :
    ∃ early later v req info, before = early ++ .network (.observer cfg.selector
        (.acquireDeviceResp c req info ⟨server,m.relaySideDeviceId⟩)) :: later ∧
      .proxy (.deliver c (.authResult (some v))) ∈ early ∧
      (req.countryId = v.countryId ∧ req.stateId = v.stateId ∧ req.cityId = v.cityId) ∧
      Placed cfg early req server m.relaySideDeviceId info := opened_reach reach split

/-! ## A small system -/

def referenceConfig : Config where
  proxy := Proxy.referenceConfig
  relays _ := ⟨.reference,9⟩
  library := .reference
  selector := 0

def smallSystem : System .sequential .sequential where
  proxy := .init .sequential 1000000 8 8
  network := smallNetwork
  connected := false
  toSelector := []
  toProxy := []

/-- A device registers at relay server 9, and a SOCKS5 client logs in and asks for a connection. -/
def opening : List Event :=
  (registers.take 8).map .network ++ [.connect] ++ ((Proxy.socksSession false).take 5).map .proxy ++
  [.selectorReads,.proxyReads,.proxy (.data 1 [0x05,0x01,0x00,0x01,127,0,0,1,0,80])]

abbrev opened : System .sequential .sequential × List Action :=
  (systemMachine referenceConfig .sequential .sequential).run smallSystem opening

theorem smallSystem_start : (systemMachine referenceConfig .sequential .sequential).start smallSystem :=
  ⟨⟨_,_,_,rfl⟩,smallNetwork_start,rfl,rfl,rfl⟩

theorem opening_typed : (systemMachine referenceConfig .sequential .sequential).Allowed
    (Typed referenceConfig) smallSystem [] opening := by decide +kernel

theorem opened_where_reported_opening :
    ∃ early later v req info, opened.2.dropLast =
        early ++ .network (.observer 0 (.acquireDeviceResp 1 req info ⟨9,1⟩)) :: later ∧
      .proxy (.deliver 1 (.authResult (some v))) ∈ early ∧
      (req.countryId = v.countryId ∧ req.stateId = v.stateId ∧ req.cityId = v.cityId) ∧
      Placed referenceConfig early req 9 1 info := by
  have split : opened.2 = opened.2.dropLast ++ .proxy (.client 1 (.postMessage 9 (.createConnection
      { relaySideDeviceId := 1, proxySideConnectionId := 1, targetAddress := ⟨.ipv4,[127,0,0,1],80⟩
        hostname := [], hostnamePort := 80 }))) :: [] := by decide +kernel
  exact opened_where_reported (Machine.Reach.run (.start smallSystem_start) opening opening_typed) split

end MiniPP.Placement
