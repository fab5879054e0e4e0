import MiniPP.Selector.Regions

/-! Offline notices. A device is believed to be where its first report came from, until the second
report in a row comes from elsewhere. A notice that it is offline removes it wherever it is
believed to be. -/
namespace MiniPP.Selector

open DeviceContextManager

/-- Where a device is believed to be, and whether its last report came from elsewhere. -/
abbrev Belief := Option ((Nat × Nat) × Bool)

def Belief.report (place : Nat × Nat) : Belief → Belief
  | none => some (place,false)
  | some (believed,doubted) =>
    if place = believed then some (believed,false)
    else if doubted then some (place,false)
    else some (believed,true)

/-- The belief that the reports and removals so far lead to. -/
def believed (deviceId : Bytes) (log : List DeviceAction) : Belief :=
  log.foldl (fun belief a =>
    match a with
    | .updated info _ => if info.deviceId = deviceId then belief.report info.place else belief
    | .removed deviceId' => if deviceId' = deviceId then none else belief
    | .selected _ _ _ => belief) none

/-- The stored record says what is believed. -/
def Agrees (d : DeviceContext) (belief : (Nat × Nat) × Bool) : Prop :=
  d.infoBase.place = belief.1 ∧ d.resisterCounter = if belief.2 then 1 else deviceInfoResistCounter

def Believes (m : DeviceContextManager) (log : List DeviceAction) : Prop :=
  ∀ deviceId, Option.Rel Agrees (m.deviceMap deviceId) (believed deviceId log)

theorem believed_updated (deviceId : Bytes) (log : List DeviceAction) (info : DeviceInfoBase)
    (timestampMS : Nat) :
    believed deviceId (log ++ [.updated info timestampMS]) =
      if info.deviceId = deviceId then (believed deviceId log).report info.place
      else believed deviceId log := by
  unfold believed
  rw [List.foldl_append]
  rfl

theorem believed_removed (deviceId : Bytes) (log : List DeviceAction) (removed : Bytes) :
    believed deviceId (log ++ [.removed removed]) =
      if removed = deviceId then none else believed deviceId log := by
  unfold believed
  rw [List.foldl_append]
  rfl

/-- A report changes the record as it changes the belief. -/
theorem agrees_refresh {d : DeviceContext} {belief : (Nat × Nat) × Bool} (agrees : Agrees d belief)
    (info : DeviceInfoBase) :
    ∃ belief', Belief.report info.place (some belief) = some belief' ∧ Agrees (refresh d info) belief' := by
  obtain ⟨place,doubted⟩ := belief
  obtain ⟨same,counter⟩ := agrees
  dsimp only at same counter
  subst same
  unfold Belief.report refresh
  dsimp only
  by_cases here : info.place = d.infoBase.place
  · have settled := mt place_ne_iff.mpr (not_not.mpr here)
    rw [if_pos here,if_neg settled]
    exact ⟨_,rfl,rfl,rfl⟩
  · rw [if_neg here,if_pos (place_ne_iff.mp here),counter]
    cases doubted with
    | true => exact ⟨_,rfl,rfl,rfl⟩
    | false => exact ⟨_,rfl,rfl,rfl⟩

theorem believes_update {m : DeviceContextManager} {log : List DeviceAction} (believes : Believes m log)
    (info : DeviceInfoBase) (timestampMS : Nat) :
    Believes (m.updateDevice info) (log ++ [.updated info timestampMS]) := by
  intro deviceId
  rw [believed_updated]
  unfold updateDevice
  by_cases same : info.deviceId = deviceId
  · subst same
    rw [if_pos rfl]
    have stored := believes info.deviceId
    generalize believed info.deviceId log = belief at stored
    cases here : m.deviceMap info.deviceId with
    | none =>
      rw [here] at stored
      cases stored with
      | none =>
        dsimp only
        rw [deviceMap_keepAlive,if_pos rfl]
        exact .some ⟨rfl,rfl⟩
    | some d =>
      rw [here] at stored
      cases stored with
      | some agrees =>
        obtain ⟨belief',after,refreshed⟩ := agrees_refresh agrees info
        dsimp only
        rw [deviceMap_keepAlive,if_pos rfl,after]
        exact .some refreshed
  · rw [if_neg same]
    have kept := believes deviceId
    cases m.deviceMap info.deviceId with
    | none =>
      dsimp only
      rw [deviceMap_keepAlive,if_neg (Ne.symm same)]
      exact kept
    | some d =>
      dsimp only
      rw [deviceMap_keepAlive,if_neg (Ne.symm same)]
      exact kept

theorem believes_removeDeviceById {m : DeviceContextManager} {log : List DeviceAction}
    (believes : Believes m log) (deviceId : Bytes) :
    Believes (m.removeDeviceById deviceId).1 (log ++ (m.removeDeviceById deviceId).2) := by
  unfold removeDeviceById
  cases m.deviceMap deviceId with
  | none => simpa using believes
  | some d =>
    intro other
    dsimp only
    rw [believed_removed,Function.update_apply]
    by_cases same : other = deviceId
    · rw [if_pos same,if_pos same.symm]
      exact .none
    · rw [if_neg same,if_neg (Ne.symm same)]
      exact believes other

theorem believes_removeDevice {m : DeviceContextManager} {log : List DeviceAction}
    (believes : Believes m log) (deviceId : Bytes) :
    Believes (m.removeDevice deviceId).1 (log ++ (m.removeDevice deviceId).2) := by
  unfold removeDevice
  split
  · simpa using believes
  · exact believes_removeDeviceById believes _

theorem believes_removeDevices {m : DeviceContextManager} {log : List DeviceAction}
    (believes : Believes m log) (list : List Bytes) :
    Believes (m.removeDevices list).1 (log ++ (m.removeDevices list).2) := by
  induction list generalizing m log with
  | nil => simpa [removeDevices] using believes
  | cons deviceId rest ih =>
    have after := ih (believes_removeDevice believes deviceId)
    simpa [removeDevices,List.append_assoc] using after

theorem believes_step {m : DeviceContextManager} {log : List DeviceAction} (believes : Believes m log)
    (e : DeviceEvent) : Believes (m.step e).1 (log ++ (m.step e).2) := by
  cases e with
  | serverPacket packet =>
    cases packet with
    | none => simpa [step,onServerPacket] using believes
    | some p =>
      simp only [step,onServerPacket]
      cases p.isOffline with
      | false => exact believes_update believes p.localDevInfo m.ticker
      | true => exact believes_removeDeviceById believes p.deviceUuid
  | updateDevice info => exact believes_update believes info m.ticker
  | removeDevice deviceId => exact believes_removeDevice believes deviceId
  | removeDeviceById deviceId => exact believes_removeDeviceById believes deviceId
  | tick nowMS =>
    simp only [step,tick]
    exact believes_removeDevices (m := { m with
      ticker := nowMS
      timeoutDeviceList := m.timeoutDeviceList.dropWhile (m.timedOut _) }) believes _
  | select region id =>
    intro deviceId
    simp only [step]
    rw [(selectDevice_lists m region id).1]
    have same : believed deviceId (log ++ [.selected region id
        ((m.selectDevice region id).2.map DeviceContext.infoBase)]) = believed deviceId log := by
      unfold believed
      rw [List.foldl_append]
      rfl
    rw [same]
    exact believes deviceId

theorem believes_reach {m : DeviceContextManager} {log : List DeviceAction}
    (reach : deviceMachine.Reach Machine.anything m log) : Believes m log := by
  refine reach.invariant (I := Believes) ?_ (fun m log e _ _ believes => believes_step believes e)
  rintro _ ⟨ticker,rfl⟩ deviceId
  exact .none

/-! ## Late notices -/

/-- The device is stored as before, and in the same lists. -/
def Untouched (m m' : DeviceContextManager) (deviceId : Bytes) : Prop :=
  m'.deviceMap deviceId = m.deviceMap deviceId ∧
    ∀ region id, deviceId ∈ m'.deviceLists region id ↔ deviceId ∈ m.deviceLists region id

/-- The notice removes its device only from the place that it names. -/
def RespectsPlace (m : DeviceContextManager) (p : DeviceInfoUpdate) : Prop :=
  ∀ d, m.deviceMap p.deviceUuid = some d → d.infoBase.place ≠ p.localDevInfo.place →
    Untouched m (m.onServerPacket (some p)).1 p.deviceUuid

/-- In every run: an offline notice leaves a device that is stored for another place alone if
and only if the device is believed to be where the notice comes from, or is not known. -/
theorem offline_notice_respects_place {m : DeviceContextManager} {log : List DeviceAction}
    (reach : deviceMachine.Reach Machine.anything m log) (p : DeviceInfoUpdate)
    (offline : p.isOffline = true) :
    RespectsPlace m p ↔
      ∀ place doubted, believed p.deviceUuid log = some (place,doubted) → place = p.localDevInfo.place := by
  have stored := believes_reach reach p.deviceUuid
  have removed : m.onServerPacket (some p) = m.removeDeviceById p.deviceUuid := by
    simp [onServerPacket,offline]
  constructor
  · intro respects place doubted belief
    rw [belief] at stored
    cases here : m.deviceMap p.deviceUuid with
    | none => rw [here] at stored; cases stored
    | some d =>
      rw [here] at stored
      cases stored with
      | some agrees =>
        by_contra other
        have untouched := (respects d here (fun same => other (agrees.1.symm.trans same))).1
        rw [removed] at untouched
        simp [removeDeviceById,here] at untouched
  · intro fits d here other
    rw [here] at stored
    cases belief : believed p.deviceUuid log with
    | none => rw [belief] at stored; cases stored
    | some pair =>
      rw [belief] at stored
      cases stored with
      | some agrees => exact absurd (agrees.1.trans (fits pair.1 pair.2 belief)) other

/-! ## A notice that comes late -/

def online (place : Nat) : DeviceInfoUpdate := ⟨[100],place,1,1,10,100,false⟩
def offline (place : Nat) : DeviceInfoUpdate := { online place with isOffline := true }

/-- The device reports from relay server 1, and then from relay server 2 until it is believed. -/
def relocated : DeviceContextManager × List DeviceAction :=
  deviceMachine.run {} [.serverPacket (online 1),.serverPacket (online 2),.serverPacket (online 2)]

theorem relocated_reach : deviceMachine.Reach Machine.anything relocated.1 relocated.2 :=
  Machine.reach_run (m := deviceMachine) ⟨0,rfl⟩ _

theorem offline_notice_respects_place_relocated : RespectsPlace relocated.1 (offline 2) := by
  apply (offline_notice_respects_place relocated_reach (offline 2) rfl).mpr
  intro place doubted belief
  have now : believed [100] relocated.2 = some ((2,1),false) := by decide
  rw [show (offline 2).deviceUuid = [100] from rfl,now] at belief
  cases belief
  rfl

/-- The notice of relay server 1 removes the device that has moved to relay server 2. -/
theorem late_notice_removes_device :
    ∃ (m : DeviceContextManager) (log : List DeviceAction),
      deviceMachine.Reach Machine.anything m log ∧
        (m.deviceMap [100]).map (fun d => d.infoBase.place) = some (2,1) ∧
        (offline 1).localDevInfo.place = (1,1) ∧
        (m.onServerPacket (some (offline 1))).1.deviceMap [100] = none ∧
        (m.onServerPacket (some (offline 1))).1.deviceLists .country 1 = [] ∧
        ¬ RespectsPlace m (offline 1) := by
  refine ⟨_,_,relocated_reach,by decide,by decide,by decide,by decide,?_⟩
  intro respects
  have untouched := (respects { infoBase := (online 2).localDevInfo } (by decide) (by decide)).1
  revert untouched
  decide

end MiniPP.Selector
