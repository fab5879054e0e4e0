import MiniPP.Relay.Reports
import MiniPP.Selector.Sources
import MiniPP.StateRelay.Delivery

/-! A device that a selector hands out was reported by the relay that it is handed out for, and lay in
the requested region by a report; since these reports the selector has read no notice that the device
is offline. -/
namespace MiniPP.StateRelay

open Message Broadcast Selector

variable {keys : Relay.Keys} {cfg : Nat → Relay.Config} {x : PacketLibrary}
  {s : Network keys DeviceContextManager} {log out : List (Action SelectorAction)}

/-! ## Reports of a relay -/

/-- The values that are reported are values of their types. -/
def Typed (r : Relay.DeviceInfoUpdate) : Prop :=
  r.relayServerRuntimeId < 2^64 ∧ r.relaySideDeviceKey < 2^64 ∧
    r.geoInfo.countryId < 2^32 ∧ r.geoInfo.stateId < 2^32 ∧ r.geoInfo.cityId < 2^32

instance (r : Relay.DeviceInfoUpdate) : Decidable (Typed r) := inferInstanceAs (Decidable (_ ∧ _))

def ReportsTyped (cfg : Nat → Relay.Config) (s : Network keys DeviceContextManager) (_ : List (Action SelectorAction)) :
    Event SelectorEvent → Prop
  | .relay i e => ∀ r ∈ Network.reports ((s.relays i).step (cfg i) e).2, Typed r
  | _ => True

instance (s : Network keys DeviceContextManager) (log : List (Action SelectorAction)) (e : Event SelectorEvent) :
    Decidable (ReportsTyped cfg s log e) := by
  unfold ReportsTyped
  split <;> infer_instance

theorem inRange_message {r : Relay.DeviceInfoUpdate} (typed : Typed r) :
    MessageFormat.InRange (message r).serializeMembers := by
  simpa [MessageFormat.InRange,PP.DeviceInfoUpdate.serializeMembers,message,Primitive.InRange,
    NetAddress.unspecified,addressSize,Typed] using typed

/-! ## What a selector reads -/

/-- A packet as the selector takes it. -/
def taken (x : PacketLibrary) (data : Bytes) : Option DeviceInfoUpdate :=
  match Framing.front x.format.framing data with
  | .packet header payload =>
    if header.commandId = cmdDeviceUpdate then (decodeUpdate x.toMessageFormat payload).map selectorUpdate
    else none
  | _ => none

theorem taken_reportPacket {r : Relay.DeviceInfoUpdate} (typed : Typed r) (written : reportPacket x r ≠ []) :
    taken x (reportPacket x r) = some (selectorUpdate (message r)) := by
  obtain ⟨header,payload,packed,read,command,-⟩ := reportPacket_read written
  have decoded : (PP.DeviceInfoUpdate.deserializeMembers x.toMessageFormat Observer.blankUpdate).run payload =
      some (message r,[]) :=
    x.delivered (MessageClass.delivers x.toMessageFormat .deviceInfoUpdate Observer.blankUpdate (message r) rfl)
      (inRange_message typed) packed
  simp [taken,read,command,decodeUpdate,MessageFormat.decode,decoded,x.wire.leftover_none]

def readBy (j : Nat) (log : List (Action SelectorAction)) : List Bytes :=
  log.filterMap (fun | .read j' _ data => if j' = j then some data else none | _ => none)

@[simp] theorem readBy_append (j : Nat) (log out : List (Action SelectorAction)) :
    readBy j (log ++ out) = readBy j log ++ readBy j out := List.filterMap_append

/-- The updates that a selector has read. -/
def updates (x : PacketLibrary) (j : Nat) (log : List (Action SelectorAction)) : List DeviceInfoUpdate :=
  (readBy j log).filterMap (taken x)

/-- The selectors know what they have read, and read what relays reported. -/
structure Informed (cfg : Nat → Relay.Config) (x : PacketLibrary) (s : Network keys DeviceContextManager)
    (log : List (Action SelectorAction)) : Prop where
  delivers : Delivers x s log
  reported : ∀ i r, .relay i (.report r) ∈ log → Typed r ∧ Relay.OwnReport (cfg i) r
  listed : ∀ j, Listed (s.observers j)
  sourced : ∀ j, Sourced (s.observers j) (updates x j log)

/-- No selector changes or reads. -/
theorem Informed.apart (informed : Informed cfg x s log) {s' : Network keys DeviceContextManager}
    (delivers : Delivers x s' (log ++ out)) (observers : s'.observers = s.observers)
    (unread : ∀ j, readBy j out = [])
    (reported : ∀ i r, .relay i (.report r) ∈ out → Typed r ∧ Relay.OwnReport (cfg i) r) :
    Informed cfg x s' (log ++ out) where
  delivers := delivers
  reported i r member := by
    rcases List.mem_append.mp member with old | new
    · exact informed.reported i r old
    · exact reported i r new
  listed j := by
    rw [observers]
    exact informed.listed j
  sourced j := by
    rw [observers,updates,readBy_append,unread,List.append_nil]
    exact informed.sourced j

theorem readBy_observer (j i : Nat) (list : List SelectorAction) : readBy j (list.map (.observer i)) = [] := by
  simp [readBy]

/-- A selector changes, and goes on to know what it has read. -/
theorem Informed.observe (informed : Informed cfg x s log) {j : Nat} {m : DeviceContextManager}
    {s' : Network keys DeviceContextManager} (delivers : Delivers x s' (log ++ out))
    (observers : s'.observers = Function.update s.observers j m) (others : ∀ j' ≠ j, readBy j' out = [])
    (unreported : ∀ i r, .relay i (.report r) ∉ out) (listed : Listed m)
    (sourced : Sourced m (updates x j (log ++ out))) : Informed cfg x s' (log ++ out) where
  delivers := delivers
  reported i r member := by
    rcases List.mem_append.mp member with old | new
    · exact informed.reported i r old
    · exact absurd new (unreported i r)
  listed j' := by
    rw [observers]
    by_cases here : j' = j
    · subst here
      simpa using listed
    · simpa [here] using informed.listed j'
  sourced j' := by
    rw [observers]
    by_cases here : j' = j
    · subst here
      simpa using sourced
    · rw [updates,readBy_append,others j' here,List.append_nil,Function.update_of_ne here]
      exact informed.sourced j'

/-- A selector that serves a client or ticks reads no update. -/
theorem selectorStep_spec {m : DeviceContextManager} {packets : List DeviceInfoUpdate} (listed : Listed m)
    (sourced : Sourced m packets) (e : SelectorEvent) :
    Listed (selectorStep x.toMessageFormat m e).1 ∧ Sourced (selectorStep x.toMessageFormat m e).1 packets := by
  cases e with
  | tick nowMS => exact ⟨listed_tick listed nowMS,sourced_tick sourced nowMS⟩
  | clientPacket commandId requestId payload =>
    simp only [selectorStep]
    split
    · unfold onSelectDevice
      split
      · exact ⟨listed,sourced⟩
      · dsimp only [DeviceContextManager.onSelectDevice,DeviceContextManager.selectDeviceByCityId,
          DeviceContextManager.selectDeviceByStateId,DeviceContextManager.selectDeviceByCountryId]
        split
        · exact ⟨listed_select listed _ _,sourced_select sourced _ _⟩
        · split
          · exact ⟨listed_select listed _ _,sourced_select sourced _ _⟩
          · split
            · exact ⟨listed_select listed _ _,sourced_select sourced _ _⟩
            · exact ⟨listed,sourced⟩
    · exact ⟨listed,sourced⟩

/-- A packet of an update is handled as the update; any other changes nothing. -/
theorem onServerPacket_selector (s : Network keys DeviceContextManager) (j : Nat) (data : Bytes) :
    (s.onServerPacket x (selector x.toMessageFormat) j data).1.observers =
        Function.update s.observers j ((s.observers j).onServerPacket (taken x data)).1 ∧
      ∃ list : List DeviceAction, (s.onServerPacket x (selector x.toMessageFormat) j data).2 =
        (list.map SelectorAction.device).map (.observer j) := by
  have unchanged : s.observers = Function.update s.observers j (s.observers j) := by simp
  unfold Network.onServerPacket taken
  cases Framing.front x.format.framing data with
  | packet header payload =>
    simp only [selector,onDevicePacket]
    split
    · exact ⟨rfl,_,rfl⟩
    · exact ⟨rfl,[],rfl⟩
  | incomplete => exact ⟨unchanged,[],rfl⟩
  | invalid => exact ⟨unchanged,[],rfl⟩

theorem informed_step (informed : Informed cfg x s log) {e : Event SelectorEvent}
    (typed : ReportsTyped cfg s log e) :
    Informed cfg x (s.step cfg x (selector x.toMessageFormat) e).1
      (log ++ (s.step cfg x (selector x.toMessageFormat) e).2) := by
  have delivers : Delivers x (s.step cfg x (selector x.toMessageFormat) e).1
      (log ++ (s.step cfg x (selector x.toMessageFormat) e).2) := delivers_step informed.delivers e
  have served {a : Action SelectorAction} (unread : ∀ j, readBy j [a] = [])
      (relay : ∀ i b, a ≠ .relay i b) {s' : Network keys DeviceContextManager}
      (observers : s'.observers = s.observers) (delivers : Delivers x s' (log ++ [a])) :
      Informed cfg x s' (log ++ [a]) :=
    informed.apart delivers observers unread (fun i r member => absurd (List.mem_singleton.mp member).symm (relay i _))
  have still {s' : Network keys DeviceContextManager} (observers : s'.observers = s.observers)
      (delivers : Delivers x s' (log ++ [])) : Informed cfg x s' (log ++ []) :=
    informed.apart delivers observers (fun _ => rfl) (by simp)
  cases e with
  | relay i e =>
    refine informed.apart delivers ?_ ?_ ?_
    · simp only [Network.step,Network.post]
      split <;> rfl
    · intro j
      simp only [Network.step,Network.post,readBy_append]
      split <;> simp [readBy]
    · intro i' r member
      simp only [Network.step,Network.post] at member
      have out : i' = i ∧ .report r ∈ ((s.relays i).step (cfg i) e).2 := by
        split at member <;> simpa [and_comm,eq_comm] using member
      obtain ⟨rfl,out⟩ := out
      exact ⟨typed r (List.mem_filterMap.mpr ⟨_,out,rfl⟩),(Relay.report_step out).own⟩
  | reporterConnects i =>
    revert delivers
    simp only [Network.step]
    cases s.reporters i with
    | some p => exact still rfl
    | none => exact still rfl
  | reporterLeaves i => exact still rfl delivers
  | producerReads p =>
    revert delivers
    simp only [Network.step]
    split
    · exact still rfl
    · split
      · unfold Network.onClientPacket
        split
        · split
          · exact served (fun _ => rfl) (by simp) rfl
          · exact served (fun _ => rfl) (by simp) rfl
        · exact still rfl
      · exact still rfl
  | observerConnects j =>
    revert delivers
    simp only [Network.step]
    cases s.connections j with
    | some c => exact still rfl
    | none => exact served (fun _ => rfl) (by simp) rfl
  | observerLeaves j => exact still rfl delivers
  | observerCloses c => exact served (fun _ => rfl) (by simp) rfl delivers
  | observerReads j =>
    revert delivers
    simp only [Network.step]
    split
    · exact still rfl
    · rename_i c _
      split
      · exact still rfl
      · rename_i data rest _
        dsimp only
        intro delivers
        obtain ⟨observers,list,posted⟩ := onServerPacket_selector (x := x)
          { s with observerService := s.observerService.take c } j data
        rw [posted] at delivers ⊢
        refine informed.observe (j := j) delivers observers ?_ ?_ ?_ ?_
        · intro j' apart
          simp [readBy,Ne.symm apart]
        · simp
        · exact listed_step (informed.listed j) (.serverPacket (taken x data))
        · have read : updates x j
              (log ++ .read j c data :: (list.map SelectorAction.device).map (.observer j)) =
                updates x j log ++ (taken x data).toList := by
            cases received : taken x data <;> simp [updates,readBy,received]
          rw [read]
          exact sourced_onServerPacket (informed.sourced j) (informed.listed j) _
  | observer j e =>
    obtain ⟨listed,sourced⟩ := selectorStep_spec (x := x) (informed.listed j) (informed.sourced j) e
    refine informed.observe (j := j) delivers rfl (fun j' _ => readBy_observer j' j _) ?_ listed ?_
    · simp [Network.step]
    · rw [updates,Network.step,readBy_append,readBy_observer,List.append_nil]
      exact sourced

theorem informed_reach
    (reach : (networkMachine cfg x (selector x.toMessageFormat) keys).Reach (ReportsTyped cfg) s log) :
    Informed cfg x s log := by
  apply reach.invariant (I := fun s log => Informed cfg x s log)
  · rintro _ ⟨relays,observers,-,starts,rfl⟩
    refine ⟨.init relays observers,by simp,fun j => ?_,fun j => ?_⟩
    · obtain ⟨ticker,start⟩ := starts j
      dsimp only
      rw [start]
      exact listed_init ticker
    · obtain ⟨ticker,start⟩ := starts j
      dsimp only
      rw [start]
      exact sourced_init ticker
  · exact fun s log e _ typed informed => informed_step informed typed

/-! ## Devices that are handed out -/

/-- A relay reported the device online, in a report that the selector has read, and since then the
selector has read no report that the device is offline. -/
def Vouched (x : PacketLibrary) (j : Nat) (before : List (Action SelectorAction)) (deviceId : Bytes)
    (holds : Nat → Relay.DeviceInfoUpdate → Prop) : Prop :=
  ∃ i r front back, .relay i (.report r) ∈ before ∧ readBy j before = front ++ reportPacket x r :: back ∧
    r.deviceUuid = deviceId ∧ r.isOffline = false ∧ holds i r ∧
    ∀ i' later, .relay i' (.report later) ∈ before → reportPacket x later ∈ back →
      later.deviceUuid = deviceId → later.isOffline = false

/-- The location satisfies the request: the first of city, state and country that it names counts. -/
def InRegion (req : PP.AcquireDevice) (geoInfo : Relay.GeoInfo) : Prop :=
  if req.cityId ≠ 0 then geoInfo.cityId = req.cityId
  else if req.stateId ≠ 0 then geoInfo.stateId = req.stateId
  else geoInfo.countryId = req.countryId

/-- The device that answers a request is vouched for twice: it lay in the region, and its relay has it
under the id that is handed out. -/
def HandedOut (cfg : Nat → Relay.Config) (x : PacketLibrary) (before : List (Action SelectorAction)) :
    Action SelectorAction → Prop
  | .observer j (.acquireDeviceResp _ req (some info) resp) =>
    Vouched x j before info.deviceId (fun _ r => InRegion req r.geoInfo) ∧
    Vouched x j before info.deviceId (fun i r =>
      resp.deviceRelayServerRuntimeId = (cfg i).serverRuntimeId ∧ resp.deviceRelaySideId = r.relaySideDeviceKey)
  | _ => True

/-- What was read of an update was reported. -/
theorem Informed.vouched (informed : Informed cfg x s log) {j : Nat} {deviceId : Bytes}
    {tells : DeviceInfoUpdate → Prop} (online : Online deviceId tells (updates x j log))
    {holds : Nat → Relay.DeviceInfoUpdate → Prop}
    (told : ∀ i r, Relay.OwnReport (cfg i) r → tells (selectorUpdate (message r)) → holds i r) :
    Vouched x j log deviceId holds := by
  obtain ⟨front,p,back,split,own,on,holds,since⟩ := online
  obtain ⟨old,data,new,read,received,earlier⟩ := Log.split_of_filterMap split
  have later : new.filterMap (taken x) = back := by
    have whole : updates x j log = old.filterMap (taken x) ++ p :: new.filterMap (taken x) := by
      simp [updates,read,received]
    rw [split,earlier] at whole
    exact (List.cons.inj (List.append_cancel_left whole)).2.symm
  have reportOf {data : Bytes} (member : data ∈ readBy j log) : Reported x log data := by
    obtain ⟨a,inside,shown⟩ := List.mem_filterMap.mp member
    cases a with
    | read j' c data' =>
      dsimp only at shown
      split at shown
      · obtain rfl := Option.some.inj shown
        exact informed.delivers.read inside
      · cases shown
    | _ => cases shown
  have takes {i : Nat} {r : Relay.DeviceInfoUpdate} (member : .relay i (.report r) ∈ log)
      (written : reportPacket x r ≠ []) : taken x (reportPacket x r) = some (selectorUpdate (message r)) :=
    taken_reportPacket (informed.reported i r member).1 written
  have source : Reported x log data := reportOf (by simp [read])
  obtain ⟨i,r,member,rfl,written⟩ := source
  obtain rfl := Option.some.inj ((takes member written).symm.trans received)
  refine ⟨i,r,old,new,member,read,own,on,told i r (informed.reported i r member).2 holds,?_⟩
  intro i' other known inside same
  have posted : reportPacket x other ≠ [] := by
    have source : Reported x log (reportPacket x other) := reportOf (by simp [read,inside])
    obtain ⟨-,-,-,-,written⟩ := source
    exact written
  have among : selectorUpdate (message other) ∈ back := by
    rw [← later]
    exact List.mem_filterMap.mpr ⟨_,inside,takes known posted⟩
  exact since _ among same

/-- A device is selected from the list of the region that the request is for. -/
theorem onSelectDevice_some {m : DeviceContextManager} {req : PP.AcquireDevice} {d : DeviceContext}
    (selected : (m.onSelectDevice req.countryId req.stateId req.cityId).2 = some d) :
    ∃ region id, (m.selectDevice region id).2 = some d ∧
      ∀ r : Relay.DeviceInfoUpdate, (selectorUpdate (message r)).localDevInfo.regionId region = id →
        InRegion req r.geoInfo := by
  unfold DeviceContextManager.onSelectDevice at selected
  split at selected
  · rename_i city
    exact ⟨.city,req.cityId,selected,fun r inside => by rw [InRegion,if_pos city]; exact inside⟩
  · rename_i noCity
    split at selected
    · rename_i state
      exact ⟨.state,req.stateId,selected,fun r inside => by rw [InRegion,if_neg noCity,if_pos state]; exact inside⟩
    · rename_i noState
      split at selected
      · exact ⟨.country,req.countryId,selected,
          fun r inside => by rw [InRegion,if_neg noCity,if_neg noState]; exact inside⟩
      · cases selected

theorem handedOut_clientPacket (informed : Informed cfg x s log) (j commandId requestId : Nat) (payload : Bytes) :
    Log.Always (fun before => HandedOut cfg x (log ++ before))
      ((selectorStep x.toMessageFormat (s.observers j) (.clientPacket commandId requestId payload)).2.map
        (.observer j)) := by
  simp only [selectorStep]
  split
  · unfold onSelectDevice
    split
    · exact Log.always_nil _
    · rename_i req _
      simp only [List.map_cons,List.map_nil]
      rw [Log.always_cons]
      refine ⟨?_,Log.always_nil _⟩
      cases selected : ((s.observers j).onSelectDevice req.countryId req.stateId req.cityId).2 with
      | none => trivial
      | some d =>
        obtain ⟨region,id,found,inside⟩ := onSelectDevice_some selected
        obtain ⟨lay,stored⟩ := (informed.sourced j).selects (informed.listed j) found
        rw [List.append_nil]
        refine ⟨informed.vouched lay (fun i r _ tells => inside r tells),informed.vouched stored ?_⟩
        rintro i r ⟨device,offline,rfl⟩ same
        rw [Option.map_some,← same]
        exact ⟨rfl,rfl⟩
  · exact Log.always_nil _

/-- The run lemma. -/
theorem handedOut_reach
    (reach : (networkMachine cfg x (selector x.toMessageFormat) keys).Reach (ReportsTyped cfg) s log) :
    Log.Always (HandedOut cfg x) log := by
  apply reach.invariant (I := fun _ log => Log.Always (HandedOut cfg x) log)
  · exact fun s _ => Log.always_nil _
  · intro s log e before typed always
    have informed := informed_reach before
    have unasked {out : List (Action SelectorAction)} (other : ∀ a ∈ out, ∀ before, HandedOut cfg x before a) :
        Log.Always (HandedOut cfg x) (log ++ out) :=
      Log.always_append.mpr ⟨always,Log.always_of_mem (fun a member before => other a member _)⟩
    cases e with
    | observer j e =>
      cases e with
      | clientPacket commandId requestId payload =>
        exact Log.always_append.mpr ⟨always,handedOut_clientPacket informed j commandId requestId payload⟩
      | tick nowMS =>
        apply unasked
        intro a member before
        obtain ⟨b,out,rfl⟩ := List.mem_map.mp member
        obtain ⟨c,-,rfl⟩ := List.mem_map.mp out
        trivial
    | observerReads j =>
      apply unasked
      simp only [networkMachine,Network.step]
      split
      · simp
      · split
        · simp
        · dsimp only
          obtain ⟨-,list,posted⟩ := onServerPacket_selector (x := x)
            { s with observerService := s.observerService.take _ } j _
          rw [posted]
          intro a member before
          rcases List.mem_cons.mp member with rfl | member
          · trivial
          · obtain ⟨b,out,rfl⟩ := List.mem_map.mp member
            obtain ⟨c,-,rfl⟩ := List.mem_map.mp out
            trivial
    | relay i e =>
      apply unasked
      intro a member before
      simp only [networkMachine,Network.step,Network.post] at member
      rcases List.mem_append.mp member with stepped | posted
      · obtain ⟨b,-,rfl⟩ := List.mem_map.mp stepped
        trivial
      · split at posted
        · cases posted
        · obtain ⟨b,-,rfl⟩ := List.mem_map.mp posted
          trivial
    | producerReads p =>
      apply unasked
      simp only [networkMachine,Network.step,Network.onClientPacket,Network.dispatchData]
      repeat' split
      all_goals simp [HandedOut]
    | reporterConnects i =>
      apply unasked
      simp only [networkMachine,Network.step]
      split <;> simp
    | observerConnects j =>
      apply unasked
      simp only [networkMachine,Network.step]
      split <;> simp [HandedOut]
    | reporterLeaves i => exact unasked (by simp [networkMachine,Network.step])
    | observerLeaves j => exact unasked (by simp [networkMachine,Network.step])
    | observerCloses c => exact unasked (by simp [networkMachine,Network.step,HandedOut])

theorem registers_typed : smallMachine.Allowed (ReportsTyped (fun _ => Relay.referenceConfig)) smallNetwork []
    registers := by decide +kernel

/-- Every device that a selector hands out was reported online in the requested region, and by the
relay that it is handed out for, under the id that is handed out. -/
theorem handed_out_reported
    (reach : (networkMachine cfg x (selector x.toMessageFormat) keys).Reach (ReportsTyped cfg) s log)
    {before after : List (Action SelectorAction)} {j requestId : Nat} {req : PP.AcquireDevice}
    {info : DeviceInfoBase} {resp : AcquireDeviceResp}
    (split : log = before ++ .observer j (.acquireDeviceResp requestId req (some info) resp) :: after) :
    Vouched x j before info.deviceId (fun _ r => InRegion req r.geoInfo) ∧
    Vouched x j before info.deviceId (fun i r =>
      resp.deviceRelayServerRuntimeId = (cfg i).serverRuntimeId ∧ resp.deviceRelaySideId = r.relaySideDeviceKey) :=
  handedOut_reach reach before _ after split

/-- The device that has registered is handed out. -/
theorem handed_out_reported_registers :
    Vouched .reference 0 ((smallMachine.run smallNetwork registers).2.take 10) (ascii "d")
        (fun _ r => InRegion ⟨1,0,0,false,false,false⟩ r.geoInfo) ∧
      Vouched .reference 0 ((smallMachine.run smallNetwork registers).2.take 10) (ascii "d")
        (fun _ r => 1 = Relay.referenceConfig.serverRuntimeId ∧ 1 = r.relaySideDeviceKey) := by
  have split : (smallMachine.run smallNetwork registers).2 =
      (smallMachine.run smallNetwork registers).2.take 10 ++
        .observer 0 (.acquireDeviceResp 5 ⟨1,0,0,false,false,false⟩ (some ⟨1,1,ascii "d",1,2,3⟩) ⟨1,1⟩) :: [] := by
    decide +kernel
  exact handed_out_reported (Machine.Reach.run (.start smallNetwork_start) registers registers_typed) split

end MiniPP.StateRelay
