import MiniPP.ConfigCenter.Assignment
import MiniPP.Region.System

/-! A device is where the config center found it: the region in which a client's device was asked for
is the region of the address from which the device had asked the center for its key. -/
namespace MiniPP.Region

open ConfigCenter GeoIp StateRelay

variable {σ : Type} {keys : KeySource} {relayKeys : Relay.Keys}

/-! ## The relays in a step -/

theorem network_relays {ω δ α : Type} (cfg : Nat → Relay.Config) (x : PacketLibrary) (o : Observer ω δ α)
    (s : Network relayKeys ω) (e : StateRelay.Event δ) :
    (∃ i own, e = .relay i own ∧
      (s.step cfg x o e).1.relays = Function.update s.relays i ((s.relays i).step (cfg i) own).1 ∧
      ∀ j a, .relay j a ∈ (s.step cfg x o e).2 → j = i ∧ a ∈ ((s.relays i).step (cfg i) own).2) ∨
    (∀ i own, e ≠ .relay i own) ∧ (s.step cfg x o e).1.relays = s.relays ∧
      ∀ j a, .relay j a ∉ (s.step cfg x o e).2 := by
  cases e with
  | relay i own =>
    refine .inl ⟨i,own,rfl,?_,?_⟩
    · simp only [Network.step,Network.post]
      split <;> rfl
    · intro j a member
      simp only [Network.step,Network.post] at member
      split at member <;> simpa [and_comm,eq_comm] using member
  | reporterConnects i | observerConnects i =>
    refine .inr ⟨by simp,?_,?_⟩ <;> simp only [Network.step] <;> split <;> simp
  | reporterLeaves i | observerLeaves i | observerCloses i | observer i own =>
    exact .inr ⟨by simp,rfl,by simp [Network.step]⟩
  | producerReads p =>
    refine .inr ⟨by simp,?_,?_⟩ <;> simp only [Network.step,Network.onClientPacket,Network.dispatchData] <;>
      repeat' split
    all_goals simp
  | observerReads j =>
    refine .inr ⟨by simp,?_,?_⟩ <;> simp only [Network.step,Network.onServerPacket] <;> repeat' split
    all_goals simp

theorem placement_relays (cfg : Placement.Config) (s : Placement.System keys relayKeys) (e : Placement.Event) :
    match relayEvent e with
    | some (i,own) =>
      (s.step cfg e).1.network.relays =
          Function.update s.network.relays i ((s.network.relays i).step (cfg.relays i) own).1 ∧
        ∀ j a, .network (.relay j a) ∈ (s.step cfg e).2 →
          j = i ∧ a ∈ ((s.network.relays i).step (cfg.relays i) own).2
    | none => (s.step cfg e).1.network.relays = s.network.relays ∧
        ∀ j a, .network (.relay j a) ∉ (s.step cfg e).2 := by
  cases e with
  | network e =>
    rcases network_relays cfg.relays cfg.library (selector cfg.library.toMessageFormat) s.network e with
      ⟨i,own,rfl,relays,actions⟩ | ⟨foreign,relays,actions⟩
    · refine ⟨relays,fun j a member => actions j a ?_⟩
      simpa [Placement.System.step,Placement.System.networkStep] using member
    · have none : relayEvent (.network e) = none := by
        cases e with
        | relay i own => exact absurd rfl (foreign i own)
        | _ => rfl
      rw [none]
      refine ⟨relays,fun j a member => actions j a ?_⟩
      simpa [Placement.System.step,Placement.System.networkStep] using member
  | selectorReads =>
    simp only [relayEvent,Placement.System.step]
    repeat' split
    · simp
    · rename_i data rest reads header payload front
      rcases network_relays cfg.relays cfg.library (selector cfg.library.toMessageFormat) s.network
          (.observer cfg.selector (.clientPacket header.commandId header.requestId payload)) with
        ⟨i,own,other,-⟩ | ⟨-,relays,actions⟩
      · cases other
      · refine ⟨relays,fun j a member => actions j a ?_⟩
        simpa [Placement.System.networkStep] using member
    · simp
  | proxy e | proxyReads | connect | disconnect =>
    simp only [relayEvent,Placement.System.step,Placement.System.proxyStep]
    repeat' split
    all_goals simp

/-! ## The record -/

def placementLog (log : List Action) : List Placement.Action :=
  log.filterMap (fun | .placement a => some a | _ => none)

/-- The devices that relay `i` has registered. -/
def registeredAt (i : Nat) (log : List Action) : List (Nat × TR.InitDataStream) :=
  log.filterMap (fun | .registered j deviceId m => if j = i then some (deviceId,m) else none | _ => none)

@[simp] theorem placementLog_append (log out : List Action) :
    placementLog (log ++ out) = placementLog log ++ placementLog out := List.filterMap_append

@[simp] theorem registeredAt_append (i : Nat) (log out : List Action) :
    registeredAt i (log ++ out) = registeredAt i log ++ registeredAt i out := List.filterMap_append

@[simp] theorem placementLog_answered (posts : List Post) : placementLog (posts.map .answered) = [] := by
  simp [placementLog,List.filterMap_map]

@[simp] theorem placementLog_placement (out : List Placement.Action) :
    placementLog (out.map .placement) = out := by
  simp [placementLog,List.filterMap_map]

@[simp] theorem registeredAt_answered (i : Nat) (posts : List Post) : registeredAt i (posts.map .answered) = [] := by
  simp [registeredAt,List.filterMap_map]

@[simp] theorem registeredAt_placement (i : Nat) (out : List Placement.Action) :
    registeredAt i (out.map .placement) = [] := by
  simp [registeredAt,List.filterMap_map]

theorem mem_registeredAt {i deviceId : Nat} {m : TR.InitDataStream} {log : List Action} :
    (deviceId,m) ∈ registeredAt i log ↔ .registered i deviceId m ∈ log := by
  unfold registeredAt
  rw [List.mem_filterMap]
  constructor
  · rintro ⟨a,member,same⟩
    cases a with
    | registered j deviceId' m' =>
      dsimp only at same
      split at same
      · next here =>
        obtain ⟨rfl,rfl⟩ := Prod.mk.inj (Option.some.inj same)
        rw [← here]
        exact member
      · cases same
    | _ => cases same
  · exact fun member => ⟨_,member,by simp⟩

theorem mem_placementLog {log : List Action} {a : Placement.Action} :
    a ∈ placementLog log ↔ .placement a ∈ log := by
  unfold placementLog
  rw [List.mem_filterMap]
  constructor
  · rintro ⟨b,member,same⟩
    cases b with
    | placement b => exact Option.some.inj same ▸ member
    | _ => cases same
  · exact fun member => ⟨_,member,rfl⟩

/-! ## Where reports come from -/

/-- The report is of a device that the relay has registered under the id of the report. -/
def ReportRegistered (cfg : Config σ) (before : List Action) : Action → Prop
  | .placement (.network (.relay i (.report r))) =>
    ∃ m, .registered i r.relaySideDeviceKey m ∈ before ∧ r.deviceUuid = m.deviceLocalIdString ∧
      Relay.keyLocation (cfg.placement.relays i) m.dataKey = some r.geoInfo
  | _ => True

structure Traced (cfg : Config σ) (s : System σ keys relayKeys) (log : List Action) : Prop where
  center : ∀ c, s.center = some c → IpDb.init cfg.rows cfg.file = some c.ipDb
  keyed : ∀ p, .answered p ∈ log → Keyed cfg p
  enrolled : ∀ i, Relay.Enrolled (cfg.placement.relays i) (registeredAt i log) (s.placement.network.relays i)
  reported : Log.Always (ReportRegistered cfg) log

variable {cfg : Config σ} {s : System σ keys relayKeys} {log : List Action}

theorem traced_challenge (traced : Traced cfg s log) (d : Datagram) :
    Traced cfg (s.step cfg (.challenge d)).1 (log ++ (s.step cfg (.challenge d)).2) := by
  obtain ⟨own,keyed⟩ := challengeStep_keyed cfg traced.center d
  refine ⟨own,?_,?_,?_⟩
  · intro p member
    rcases List.mem_append.mp member with old | new
    · exact traced.keyed p old
    · obtain ⟨q,posted,same⟩ := List.mem_map.mp new
      cases same
      exact keyed p posted
  · intro i
    simpa [System.step] using traced.enrolled i
  · refine Log.always_append.mpr ⟨traced.reported,Log.always_of_mem fun a member before => ?_⟩
    obtain ⟨q,-,rfl⟩ := List.mem_map.mp member
    trivial

theorem registeredAt_registrations (i : Nat) (cfg : Placement.Config) (s : Placement.System keys relayKeys)
    (e : Placement.Event) :
    registeredAt i (registrations cfg s e) = match relayEvent e with
      | some (j,own) => if j = i then (Relay.registering (cfg.relays j) (s.network.relays j) own).toList else []
      | none => [] := by
  unfold registrations registeredAt
  cases relayEvent e with
  | none => rfl
  | some at_ =>
    obtain ⟨j,own⟩ := at_
    cases Relay.registering (cfg.relays j) (s.network.relays j) own <;> by_cases here : j = i <;> simp [here]

/-- No answer and no report is among what relays register. -/
theorem mem_registrations {cfg : Placement.Config} {s : Placement.System keys relayKeys} {e : Placement.Event}
    {a : Action} (member : a ∈ registrations cfg s e) : ∃ i deviceId m, a = .registered i deviceId m := by
  unfold registrations at member
  split at member
  · obtain ⟨made,-,rfl⟩ := List.mem_map.mp member
    exact ⟨_,made.1,made.2,rfl⟩
  · cases member

theorem enrolled_placement (traced : Traced cfg s log) (e : Placement.Event) (i : Nat) :
    Relay.Enrolled (cfg.placement.relays i) (registeredAt i (log ++ registrations cfg.placement s.placement e))
      ((s.placement.step cfg.placement e).1.network.relays i) := by
  have relays := placement_relays cfg.placement s.placement e
  rw [registeredAt_append,registeredAt_registrations]
  cases own : relayEvent e with
  | none =>
    rw [own] at relays
    rw [relays.1,List.append_nil]
    exact traced.enrolled i
  | some at_ =>
    obtain ⟨j,own'⟩ := at_
    rw [own] at relays
    rw [relays.1]
    dsimp only
    by_cases here : j = i
    · subst here
      rw [if_pos rfl,Function.update_self]
      exact Relay.enrolled_step (traced.enrolled j) own'
    · rw [if_neg here,Function.update_of_ne (Ne.symm here),List.append_nil]
      exact traced.enrolled i

/-- The message of a device that registers is on record before the report. -/
theorem report_recorded (traced : Traced cfg s log) {e : Placement.Event} {i : Nat} {r : Relay.DeviceInfoUpdate}
    (inside : .network (.relay i (.report r)) ∈ (s.placement.step cfg.placement e).2) :
    ∃ m, .registered i r.relaySideDeviceKey m ∈ log ++ registrations cfg.placement s.placement e ∧
      r.deviceUuid = m.deviceLocalIdString ∧
        Relay.keyLocation (cfg.placement.relays i) m.dataKey = some r.geoInfo := by
  have relays := placement_relays cfg.placement s.placement e
  cases own : relayEvent e with
  | none =>
    rw [own] at relays
    exact absurd inside (relays.2 i _)
  | some at_ =>
    obtain ⟨j,own'⟩ := at_
    rw [own] at relays
    obtain ⟨rfl,out⟩ := relays.2 i _ inside
    obtain ⟨m,message,named,located⟩ := Relay.report_registers (traced.enrolled i) out
    refine ⟨m,mem_registeredAt.mp ?_,named,located⟩
    rw [registeredAt_append,registeredAt_registrations,own]
    simpa using message

theorem traced_placement (traced : Traced cfg s log) (e : Placement.Event) :
    Traced cfg (s.step cfg (.placement e)).1 (log ++ (s.step cfg (.placement e)).2) := by
  refine ⟨traced.center,?_,?_,?_⟩
  · intro p member
    simp only [System.step,List.mem_append,List.mem_map] at member
    rcases member with old | new | ⟨a,-,other⟩
    · exact traced.keyed p old
    · obtain ⟨i,deviceId,m,other⟩ := mem_registrations new
      cases other
    · cases other
  · intro i
    simpa [System.step] using enrolled_placement traced e i
  · refine Log.always_append.mpr ⟨traced.reported,Log.always_append.mpr ⟨?_,?_⟩⟩
    · refine Log.always_of_mem fun a member before => ?_
      obtain ⟨i,deviceId,m,rfl⟩ := mem_registrations member
      trivial
    · intro before a after split
      have member : a ∈ (s.placement.step cfg.placement e).2.map .placement := by rw [split]; simp
      obtain ⟨b,inside,rfl⟩ := List.mem_map.mp member
      cases b with
      | proxy b => trivial
      | network b =>
        cases b with
        | relay i b =>
          cases b with
          | report r =>
            obtain ⟨m,recorded,own⟩ := report_recorded traced inside
            refine ⟨m,?_,own⟩
            rw [← List.append_assoc]
            exact List.mem_append_left _ recorded
          | _ => trivial
        | _ => trivial

/-! ## Runs -/

/-- What the proxy posts and relays report are values of their types. -/
def PlacementTyped (cfg : Config σ) (s : System σ keys relayKeys) (log : List Action) : Event → Prop
  | .placement e => Placement.Typed cfg.placement s.placement (placementLog log) e
  | .challenge _ => True

instance (s : System σ keys relayKeys) (log : List Action) (e : Event) :
    Decidable (PlacementTyped cfg s log e) := by
  unfold PlacementTyped
  split <;> infer_instance

theorem traced_reach {ok : System σ keys relayKeys → List Action → Event → Prop}
    (reach : (wholeMachine cfg keys relayKeys).Reach ok s log) :
    Traced cfg s log := by
  refine reach.invariant (I := fun s log => Traced cfg s log) ?_ ?_
  · rintro s ⟨center,-,⟨relays,observers,starts,-,network⟩,-⟩
    refine ⟨fun c here => start_ipDb cfg (center.symm.trans here),by simp,fun i => ?_,Log.always_nil _⟩
    rw [network]
    exact Relay.enrolled_start (starts i)
  · intro s log e _ _ traced
    cases e with
    | challenge d => exact traced_challenge traced d
    | placement e => exact traced_placement traced e

theorem placement_reach (reach : (wholeMachine cfg keys relayKeys).Reach (PlacementTyped cfg) s log) :
    (Placement.systemMachine cfg.placement keys relayKeys).Reach (Placement.Typed cfg.placement) s.placement
      (placementLog log) := by
  refine reach.invariant (I := fun s log => (Placement.systemMachine cfg.placement keys relayKeys).Reach
    (Placement.Typed cfg.placement) s.placement (placementLog log)) ?_ ?_
  · rintro s ⟨-,start⟩
    exact .start start
  intro s log e _ typed before
  cases e with
  | challenge d => simpa [wholeMachine,System.step] using before
  | placement e =>
    have none : placementLog (registrations cfg.placement s.placement e) = [] := by
      refine List.filterMap_eq_nil_iff.mpr fun a member => ?_
      obtain ⟨i,deviceId,m,rfl⟩ := mem_registrations member
      rfl
    have next : (Placement.systemMachine cfg.placement keys relayKeys).Reach (Placement.Typed cfg.placement)
        (s.placement.step cfg.placement e).1 (placementLog log ++ (s.placement.step cfg.placement e).2) :=
      .step e before typed
    simpa [wholeMachine,System.step,none] using next

/-! ## Where devices are -/

/-- The region of every address that got the key is the requested one. -/
def AskedFrom (cfg : Config σ) (log : List Action) (req : PP.AcquireDevice) (key : Bytes) : Prop :=
  ∀ p, .answered p ∈ log → p.resp.checkKey = key → ∃ ipDb region, IpDb.init cfg.rows cfg.file = some ipDb ∧
    getRegionByIp cfg.library.inet ipDb cfg.fuel (cfg.library.ipToString p.remoteAddress) = some region ∧
      InRegion req (located region)

/-- A relay reads from a key of the center the region of the address that it was made for. -/
theorem askedFrom_of_located (few : cfg.rows.length ≤ 2^32) (traced : Traced cfg s log) {i : Nat}
    (reads : ReadsBack cfg.library (cfg.placement.relays i).xel) {req : PP.AcquireDevice} {key : Bytes}
    {place : Relay.GeoInfo} (at_ : Relay.keyLocation (cfg.placement.relays i) key = some place)
    (inside : InRegion req place) : AskedFrom cfg log req key := by
  intro p answered same
  rcases traced.keyed p answered with blank | ⟨ipDb,region,known,found,made⟩
  · rw [← same,blank,keyLocation_blank reads] at at_
    cases at_
  · have typed := typed_getRegionByIp known few found
    rw [← same,made,keyLocation_checkKey reads typed] at at_
    exact ⟨ipDb,region,known,found,Option.some.inj at_ ▸ inside⟩

/-- A device that was vouched for had been registered before by the relay that reported it. -/
theorem vouched_registered (traced : Traced cfg s log) {early : List Placement.Action} {before : List Action}
    (within : ∃ after, log = before ++ after) (shown : ∀ a ∈ early, .placement a ∈ before) {deviceId : Bytes}
    {j : Nat} {holds : Nat → Relay.DeviceInfoUpdate → Prop}
    (vouched : Vouched cfg.placement.library j (Placement.networkLog early) deviceId holds) :
    ∃ i r m, .registered i r.relaySideDeviceKey m ∈ before ∧ m.deviceLocalIdString = deviceId ∧ holds i r ∧
      Relay.keyLocation (cfg.placement.relays i) m.dataKey = some r.geoInfo := by
  obtain ⟨i,r,front,back,reported,-,named,-,here,-⟩ := vouched
  obtain ⟨a,member,same⟩ := List.mem_filterMap.mp reported
  cases a with
  | proxy a => cases same
  | network a =>
    obtain rfl := Option.some.inj same
    obtain ⟨first,last,rfl⟩ := List.append_of_mem (shown _ member)
    obtain ⟨after,rfl⟩ := within
    obtain ⟨m,made,named',located⟩ := traced.reported first (.placement (.network (.relay i (.report r))))
      (last ++ after) (by simp)
    exact ⟨i,r,m,List.mem_append_left _ made,named'.symm.trans named,here,located⟩

/-- Where a relay server is asked for a client's connection, the client had been given a verdict before,
and unless no device was found, this server had registered the device of the connection, under this id,
and a device of that name had been registered under a key that places it in the region of the verdict.
If the center had given out this key, then for an address that lies there by the tables. -/
theorem opened_where_challenged (reads : ∀ i, ReadsBack cfg.library (cfg.placement.relays i).xel)
    (few : cfg.rows.length ≤ 2^32) (reach : (wholeMachine cfg keys relayKeys).Reach (PlacementTyped cfg) s log)
    {before after : List Action} {c server : Nat} {m : PR.CreateConnection}
    (split : log = before ++ .placement (.proxy (.client c (.postMessage server (.createConnection m)))) :: after) :
    server = 0 ∧ m.relaySideDeviceId = 0 ∨
    ∃ v req j own i id placed, .placement (.proxy (.deliver c (.authResult (some v)))) ∈ before ∧
      (req.countryId = v.countryId ∧ req.stateId = v.stateId ∧ req.cityId = v.cityId) ∧
      .registered j m.relaySideDeviceId own ∈ before ∧
      server = (cfg.placement.relays j).serverRuntimeId ∧
      .registered i id placed ∈ before ∧ placed.deviceLocalIdString = own.deviceLocalIdString ∧
      (∃ place, Relay.keyLocation (cfg.placement.relays i) placed.dataKey = some place ∧ InRegion req place) ∧
      AskedFrom cfg log req placed.dataKey := by
  have traced := traced_reach reach
  have position : placementLog log = placementLog before ++
      .proxy (.client c (.postMessage server (.createConnection m))) :: placementLog after := by
    rw [split,placementLog_append]
    rfl
  obtain ⟨early,later,v,req,info,order,verdict,region,placed⟩ :=
    Placement.opened_reach (placement_reach reach) position
  have shown : ∀ a ∈ early, .placement a ∈ before := fun a member =>
    mem_placementLog.mp (by rw [order]; exact List.mem_append_left _ member)
  cases info with
  | none => exact .inl placed
  | some info =>
    obtain ⟨inRegion,atServer⟩ := placed
    obtain ⟨i,r,located,made,named,inside,place⟩ := vouched_registered traced ⟨_,split⟩ shown inRegion
    obtain ⟨j,r',own,made',named',⟨here,id⟩,-⟩ := vouched_registered traced ⟨_,split⟩ shown atServer
    rw [← id] at made'
    exact .inr ⟨v,req,j,own,i,r.relaySideDeviceKey,located,shown _ verdict,region,made',here,made,
      named.trans named'.symm,⟨r.geoInfo,place,inside⟩,
      askedFrom_of_located few traced (reads i) place inside⟩

/-! ## A small system -/

def smallConfig : Config (List Nat) where
  library := .reference
  ids := .ofList 4096
  lines := twoRelays
  rows := smallRegions
  file := some (smallFile 0)
  clock _ := 7
  fuel := 32
  placement := Placement.referenceConfig

def smallSystem : System (List Nat) .sequential .sequential := ⟨some smallCenter,Placement.smallSystem⟩

/-- A device registers at relay server 9 with a check key, and is what a client from its region gets. -/
def placing : List Placement.Event :=
  [.network (.reporterConnects 0),.network (.observerConnects 0)] ++
  (Relay.registration.take 3).map (fun e => .network (.relay 0 e)) ++
  [ .network (.relay 0 (.devicePacket 2 (.initDataStream 2 (some
      ⟨1,ascii "TLMPP-FOR-TEST:000043410000000100000001",ascii "d"⟩)))),
    .network (.producerReads 1),.network (.observerReads 0),.connect ] ++
  ((Proxy.socksSession false).take 3).map .proxy ++
  [ .proxy (.authPacket 1
      { countryId := 17217, stateId := 1, cityId := 1, isBlocked := false, requireIpv6 := false
        requireUdp := false, requireRemoteDns := false, autoChangeIp := false }),
    .proxy (.authTick 1000100),.selectorReads,.proxyReads,
    .proxy (.data 1 [0x05,0x01,0x00,0x01,127,0,0,1,0,80]) ]

/-- Before that, the device has asked the center. -/
def meeting : List Event :=
  .challenge ⟨.challenge,somebody,challengeData 5 (ChallengeLibrary.reference.sign 5)⟩ :: placing.map .placement

abbrev met : System (List Nat) .sequential .sequential × List Action :=
  (wholeMachine smallConfig .sequential .sequential).run smallSystem meeting

theorem smallSystem_start : (wholeMachine smallConfig .sequential .sequential).start smallSystem :=
  ⟨smallCenter_started.symm,Placement.smallSystem_start⟩

theorem meeting_typed : (wholeMachine smallConfig .sequential .sequential).Allowed
    (PlacementTyped smallConfig) smallSystem [] meeting := by decide +kernel

theorem met_reach : (wholeMachine smallConfig .sequential .sequential).Reach (PlacementTyped smallConfig)
    met.1 met.2 := by
  have reach := Machine.Reach.run (.start smallSystem_start) meeting meeting_typed
  rwa [List.nil_append] at reach

theorem opened_where_challenged_meeting :
    9 = 0 ∧ 1 = 0 ∨
    ∃ v req j own i id placed, .placement (.proxy (.deliver 1 (.authResult (some v)))) ∈ met.2.dropLast ∧
      (req.countryId = v.countryId ∧ req.stateId = v.stateId ∧ req.cityId = v.cityId) ∧
      .registered j 1 own ∈ met.2.dropLast ∧
      9 = (smallConfig.placement.relays j).serverRuntimeId ∧
      .registered i id placed ∈ met.2.dropLast ∧ placed.deviceLocalIdString = own.deviceLocalIdString ∧
      (∃ place, Relay.keyLocation (smallConfig.placement.relays i) placed.dataKey = some place ∧
        InRegion req place) ∧
      AskedFrom smallConfig met.2 req placed.dataKey := by
  have split : met.2 = met.2.dropLast ++ .placement (.proxy (.client 1 (.postMessage 9 (.createConnection
      { relaySideDeviceId := 1, proxySideConnectionId := 1, targetAddress := ⟨.ipv4,[127,0,0,1],80⟩
        hostname := [], hostnamePort := 80 })))) :: [] := by decide +kernel
  have reads : ∀ i, ReadsBack smallConfig.library (smallConfig.placement.relays i).xel :=
    fun _ => readsBack_reference
  exact opened_where_challenged reads (by decide) met_reach split

end MiniPP.Region
