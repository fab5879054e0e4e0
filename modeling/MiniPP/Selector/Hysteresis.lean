import Mathlib.Data.List.Induction
import MiniPP.Selector.Offline

/-! When a device is routed anew. Reports that name another place than the stored one are counted
down; a report of the stored place takes the countdown back. -/
namespace MiniPP.Selector

open DeviceContextManager

/-! ## The reports of a device -/

/-- The update that an event makes. -/
def DeviceEvent.update? : DeviceEvent → Option DeviceInfoBase
  | .updateDevice info => some info
  | .serverPacket (some p) => if p.isOffline then none else some p.localDevInfo
  | _ => none

def addReport (deviceId : Bytes) (places : List (Nat × Nat)) : DeviceAction → List (Nat × Nat)
  | .updated info _ => if info.deviceId = deviceId then info.place :: places else places
  | .removed other => if other = deviceId then [] else places
  | .selected _ _ _ => places

/-- The places that the device was reported from since it was added, the last one first. -/
def places (deviceId : Bytes) (log : List DeviceAction) : List (Nat × Nat) :=
  log.foldl (addReport deviceId) []

/-- How many reports in a row, up to the last one, differ from the place. -/
def streak (place : Nat × Nat) (places : List (Nat × Nat)) : Nat :=
  (places.takeWhile (fun other => other ≠ place)).length

@[simp] theorem streak_same (place : Nat × Nat) (places : List (Nat × Nat)) :
    streak place (place :: places) = 0 := by
  simp [streak]

theorem streak_other {place other : Nat × Nat} (differs : other ≠ place) (places : List (Nat × Nat)) :
    streak place (other :: places) = streak place places + 1 := by
  simp [streak,differs]

/-! ## Beliefs and streaks -/

/-- A device is doubted as long as its last report alone came from elsewhere. -/
def Streaked (belief : Belief) (places : List (Nat × Nat)) : Prop :=
  ∀ place doubted, belief = some (place,doubted) → streak place places = if doubted then 1 else 0

theorem streaked_report {belief : Belief} {places : List (Nat × Nat)} (streaked : Streaked belief places)
    (place : Nat × Nat) : Streaked (belief.report place) (place :: places) := by
  intro now doubts after
  cases belief with
  | none =>
    obtain ⟨rfl,rfl⟩ := Prod.mk.inj (Option.some.inj after)
    simp
  | some pair =>
    obtain ⟨believed,doubted⟩ := pair
    have before := streaked believed doubted rfl
    unfold Belief.report at after
    dsimp only at after
    by_cases same : place = believed
    · rw [if_pos same] at after
      obtain ⟨rfl,rfl⟩ := Prod.mk.inj (Option.some.inj after)
      simp [same]
    · rw [if_neg same] at after
      cases doubted with
      | true =>
        obtain ⟨rfl,rfl⟩ := Prod.mk.inj (Option.some.inj after)
        simp
      | false =>
        obtain ⟨rfl,rfl⟩ := Prod.mk.inj (Option.some.inj after)
        rw [streak_other same,before]
        rfl

theorem streaked_believed (deviceId : Bytes) (log : List DeviceAction) :
    Streaked (believed deviceId log) (places deviceId log) := by
  induction log using List.reverseRecOn with
  | nil =>
    intro place doubted none
    cases none
  | append_singleton log a ih =>
    unfold places at ih ⊢
    rw [List.foldl_append]
    cases a with
    | updated info timestampMS =>
      rw [believed_updated]
      simp only [List.foldl_cons,List.foldl_nil,addReport]
      split
      · exact streaked_report ih info.place
      · exact ih
    | removed other =>
      rw [believed_removed]
      simp only [List.foldl_cons,List.foldl_nil,addReport]
      split
      · intro place doubted none
        cases none
      · exact ih
    | selected region id device =>
      unfold believed at ih ⊢
      rw [List.foldl_append]
      exact ih

/-- Without an update of the device, it is believed to be where it was, or is gone. -/
theorem believed_quiet {deviceId : Bytes} {out : List DeviceAction}
    (quiet : ∀ info timestampMS, .updated info timestampMS ∈ out → info.deviceId ≠ deviceId)
    (log : List DeviceAction) :
    believed deviceId (log ++ out) = believed deviceId log ∨ believed deviceId (log ++ out) = none := by
  induction out using List.reverseRecOn with
  | nil => simp
  | append_singleton out a ih =>
    have before := ih (fun info timestampMS member => quiet info timestampMS (by simp [member]))
    rw [← List.append_assoc]
    cases a with
    | updated info timestampMS =>
      rw [believed_updated,if_neg (quiet info timestampMS (by simp))]
      exact before
    | removed other =>
      rw [believed_removed]
      split
      · exact .inr rfl
      · exact before
    | selected region id device =>
      unfold believed at before ⊢
      rw [List.foldl_append]
      exact before

/-! ## Updates among the events -/

theorem step_of_update {m : DeviceContextManager} {e : DeviceEvent} {info : DeviceInfoBase}
    (update : e.update? = some info) : (m.step e).2 = [.updated info m.ticker] := by
  cases e with
  | updateDevice info' =>
    obtain rfl := Option.some.inj update
    rfl
  | serverPacket packet =>
    cases packet with
    | none => cases update
    | some p =>
      cases offline : p.isOffline with
      | true => simp [DeviceEvent.update?,offline] at update
      | false =>
        simp only [DeviceEvent.update?,offline,Bool.false_eq_true,if_false,Option.some.injEq] at update
        simp [step,onServerPacket,offline,update]
  | removeDevice deviceId => cases update
  | removeDeviceById deviceId => cases update
  | tick nowMS => cases update
  | select region id => cases update

theorem removed_of_removeDeviceById {m : DeviceContextManager} {deviceId : Bytes} {a : DeviceAction}
    (member : a ∈ (m.removeDeviceById deviceId).2) : a = .removed deviceId := by
  unfold removeDeviceById at member
  split at member
  · cases member
  · exact List.mem_singleton.mp member

theorem removed_of_removeDevice {m : DeviceContextManager} {deviceId : Bytes} {a : DeviceAction}
    (member : a ∈ (m.removeDevice deviceId).2) : ∃ other, a = .removed other := by
  unfold removeDevice at member
  split at member
  · cases member
  · exact ⟨_,removed_of_removeDeviceById member⟩

theorem removed_of_removeDevices {m : DeviceContextManager} {list : List Bytes} {a : DeviceAction}
    (member : a ∈ (m.removeDevices list).2) : ∃ other, a = .removed other := by
  induction list generalizing m with
  | nil => cases member
  | cons deviceId rest ih =>
    rcases List.mem_append.mp member with first | later
    · exact removed_of_removeDevice first
    · exact ih later

theorem step_of_no_update {m : DeviceContextManager} {e : DeviceEvent} (none : e.update? = none)
    (info : DeviceInfoBase) (timestampMS : Nat) : .updated info timestampMS ∉ (m.step e).2 := by
  intro member
  cases e with
  | updateDevice info' => cases none
  | serverPacket packet =>
    cases packet with
    | none => cases member
    | some p =>
      cases offline : p.isOffline with
      | true =>
        simp only [step,onServerPacket,offline,Bool.not_true,Bool.false_eq_true,if_false] at member
        cases removed_of_removeDeviceById member
      | false => simp [DeviceEvent.update?,offline] at none
  | removeDevice deviceId =>
    obtain ⟨other,removed⟩ := removed_of_removeDevice member
    cases removed
  | removeDeviceById deviceId => cases removed_of_removeDeviceById member
  | tick nowMS =>
    obtain ⟨other,removed⟩ := removed_of_removeDevices member
    cases removed
  | select region id => simp [step] at member

/-! ## Every run -/

/-- From one record of a device to the next: the stored place changes exactly at an update that
is the last of as many differing ones in a row as the device resists, to the place of that
update, and an update of the stored place resets the counter. -/
structure Damped (deviceId : Bytes) (before : List (Nat × Nat)) (e : DeviceEvent) (d d' : DeviceContext) :
    Prop where
  counter : 1 ≤ d'.resisterCounter ∧ d'.resisterCounter ≤ deviceInfoResistCounter
  changes : d'.infoBase.place ≠ d.infoBase.place ↔ ∃ info, e.update? = some info ∧
    info.deviceId = deviceId ∧ streak d.infoBase.place (info.place :: before) = deviceInfoResistCounter
  becomes : d'.infoBase.place ≠ d.infoBase.place →
    ∃ info, e.update? = some info ∧ info.deviceId = deviceId ∧ d'.infoBase.place = info.place
  resets : ∀ info, e.update? = some info → info.deviceId = deviceId →
    info.place = d.infoBase.place → d'.resisterCounter = deviceInfoResistCounter

theorem Agrees.counter {d : DeviceContext} {belief : (Nat × Nat) × Bool} (agrees : Agrees d belief) :
    1 ≤ d.resisterCounter ∧ d.resisterCounter ≤ deviceInfoResistCounter := by
  rw [agrees.2]
  split <;> decide

/-- The record of a device, and what is believed of it. -/
theorem believed_of_stored {m : DeviceContextManager} {log : List DeviceAction} (believes : Believes m log)
    {deviceId : Bytes} {d : DeviceContext} (stored : m.deviceMap deviceId = some d) :
    ∃ belief, believed deviceId log = some belief ∧ Agrees d belief := by
  have here := believes deviceId
  rw [stored] at here
  generalize believed deviceId log = belief at here
  cases here with
  | some agrees => exact ⟨_,rfl,agrees⟩

theorem damped_update {deviceId : Bytes} {log : List DeviceAction} {e : DeviceEvent} {info : DeviceInfoBase}
    {d d' : DeviceContext} {belief belief' : (Nat × Nat) × Bool} (update : e.update? = some info)
    (own : info.deviceId = deviceId) (before : believed deviceId log = some belief) (agrees : Agrees d belief)
    (after : Belief.report info.place (some belief) = some belief') (agrees' : Agrees d' belief') :
    Damped deviceId (places deviceId log) e d d' := by
  obtain ⟨place,doubted⟩ := belief
  have streaked := streaked_believed deviceId log place doubted before
  obtain ⟨same,-⟩ := agrees
  dsimp only at same
  unfold Belief.report at after
  dsimp only at after
  rw [← same] at after streaked
  by_cases here : info.place = d.infoBase.place
  · rw [if_pos here] at after
    obtain rfl := Option.some.inj after
    refine ⟨agrees'.counter,⟨fun moved => absurd agrees'.1 moved,?_⟩,fun moved => absurd agrees'.1 moved,?_⟩
    · rintro ⟨other,update',-,full⟩
      obtain rfl := Option.some.inj (update.symm.trans update')
      rw [here,streak_same] at full
      exact absurd full (by decide)
    · intro other update' _ _
      exact agrees'.2
  · have count : streak d.infoBase.place (info.place :: places deviceId log) =
        (if doubted then 1 else 0) + 1 := by
      rw [streak_other here,streaked]
    rw [if_neg here] at after
    have elsewhere : ∀ other, e.update? = some other → other.deviceId = deviceId →
        other.place = d.infoBase.place → d'.resisterCounter = deviceInfoResistCounter := by
      intro other update' _ back
      obtain rfl := Option.some.inj (update.symm.trans update')
      exact absurd back here
    cases doubted with
    | true =>
      obtain rfl := Option.some.inj after
      have moved : d'.infoBase.place = info.place := agrees'.1
      refine ⟨agrees'.counter,⟨fun _ => ⟨info,update,own,count⟩,fun _ => ?_⟩,fun _ => ⟨info,update,own,moved⟩,
        elsewhere⟩
      rw [moved]
      exact here
    | false =>
      obtain rfl := Option.some.inj after
      refine ⟨agrees'.counter,⟨fun moved => absurd agrees'.1 moved,?_⟩,fun moved => absurd agrees'.1 moved,
        elsewhere⟩
      rintro ⟨other,update',-,full⟩
      obtain rfl := Option.some.inj (update.symm.trans update')
      rw [count] at full
      exact absurd full (by decide)

/-- In every run, for every device that stays: its counter is in range, and the next event deals
with its place as `Damped` says. -/
theorem rerouting_damped {m : DeviceContextManager} {log : List DeviceAction}
    (reach : deviceMachine.Reach Machine.anything m log) {deviceId : Bytes} {d : DeviceContext}
    (stored : m.deviceMap deviceId = some d) :
    (1 ≤ d.resisterCounter ∧ d.resisterCounter ≤ deviceInfoResistCounter) ∧
      ∀ e d', (m.step e).1.deviceMap deviceId = some d' → Damped deviceId (places deviceId log) e d d' := by
  obtain ⟨belief,before,agrees⟩ := believed_of_stored (believes_reach reach) stored
  refine ⟨agrees.counter,fun e d' stays => ?_⟩
  have next : Believes (m.step e).1 (log ++ (m.step e).2) := believes_reach (.step e reach trivial)
  obtain ⟨belief',after,agrees'⟩ := believed_of_stored next stays
  by_cases own : ∃ info, e.update? = some info ∧ info.deviceId = deviceId
  · obtain ⟨info,update,own⟩ := own
    have turn : believed deviceId (log ++ (m.step e).2) = Belief.report info.place (some belief) := by
      rw [step_of_update update,believed_updated,if_pos own,before]
    exact damped_update update own before agrees (turn.symm.trans after) agrees'
  · have quiet : ∀ info timestampMS, .updated info timestampMS ∈ (m.step e).2 → info.deviceId ≠ deviceId := by
      intro info timestampMS member same
      cases update : e.update? with
      | none => exact step_of_no_update update info timestampMS member
      | some info' =>
        rw [step_of_update update,List.mem_singleton] at member
        obtain ⟨rfl,-⟩ := DeviceAction.updated.inj member
        exact own ⟨info,update,same⟩
    have kept : belief' = belief := by
      rcases believed_quiet quiet log with same | gone
      · rw [after,before] at same
        exact Option.some.inj same
      · rw [after] at gone
        cases gone
    have place : d'.infoBase.place = d.infoBase.place := by rw [agrees'.1,agrees.1,kept]
    refine ⟨agrees'.counter,⟨fun moved => absurd place moved,?_⟩,fun moved => absurd place moved,?_⟩
    · rintro ⟨info,update,mine,-⟩
      exact absurd ⟨info,update,mine⟩ own
    · intro info update mine
      exact absurd ⟨info,update,mine⟩ own

/-- The device as relay server 1 reported it, doubted once. -/
def doubtedDevice : DeviceContext := { infoBase := (online 1).localDevInfo, resisterCounter := 1 }

/-- The second report from relay server 2 moves the device there. -/
theorem rerouting_damped_relocated :
    Damped [100] [(2,1),(1,1)] (.serverPacket (some (online 2))) doubtedDevice
      { infoBase := (online 2).localDevInfo } := by
  have reach := Machine.reach_run (m := deviceMachine) (s := {}) ⟨0,rfl⟩
    [.serverPacket (some (online 1)),.serverPacket (some (online 2))]
  have stored : (deviceMachine.run {} [.serverPacket (some (online 1)),
      .serverPacket (some (online 2))]).1.deviceMap [100] = some doubtedDevice := by decide
  exact (rerouting_damped reach stored).2 (.serverPacket (some (online 2))) _ (by decide)

end MiniPP.Selector
