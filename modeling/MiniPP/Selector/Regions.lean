import MiniPP.Lib.Storage
import MiniPP.Selector.Devices

/-! Whether the region lists agree with the devices. A device is linked when it is new. When its
stored info is replaced later on it stays in the lists it is in. -/
namespace MiniPP.Selector

open DeviceContextManager

/-- Each device is, once, in the lists that its info names, and in no other. -/
def Indexed (m : DeviceContextManager) : Prop :=
  ∀ deviceId d, m.deviceMap deviceId = some d → ∀ region id,
    (m.deviceLists region id).count deviceId = if id = d.infoBase.regionId region then 1 else 0

/-- What is selected for a region is in it. -/
def SelectsInside (m : DeviceContextManager) : Prop :=
  ∀ region id d, (m.selectDevice region id).2 = some d → d.infoBase.regionId region = id

/-- The report is the one that replaces the stored info. -/
def Replaces (d : DeviceContext) (info : DeviceInfoBase) : Prop :=
  info.place ≠ d.infoBase.place ∧ d.resisterCounter = 1

/-- If the report replaces stored info, it names the same country, state and city. -/
def StaysIn (m : DeviceContextManager) (info : DeviceInfoBase) : Prop :=
  ∀ d, m.deviceMap info.deviceId = some d → Replaces d info →
    ∀ region, info.regionId region = d.infoBase.regionId region

def Stays (m : DeviceContextManager) (_ : List DeviceAction) : DeviceEvent → Prop
  | .updateDevice info => StaysIn m info
  | .serverPacket (some p) => p.isOffline = false → StaysIn m p.localDevInfo
  | _ => True

structure Valid (m : DeviceContextManager) : Prop where
  named : ∀ deviceId d, m.deviceMap deviceId = some d → d.infoBase.deviceId = deviceId
  counter : ∀ deviceId d, m.deviceMap deviceId = some d →
    1 ≤ d.resisterCounter ∧ d.resisterCounter ≤ deviceInfoResistCounter
  known : ∀ region id, ∀ deviceId ∈ m.deviceLists region id, m.deviceMap deviceId ≠ none
  indexed : Indexed m

theorem valid_init (ticker : Nat) : Valid { ticker } := by
  constructor <;> simp [Indexed]

/-! ## Reports -/

private theorem counter_reset : 1 ≤ deviceInfoResistCounter ∧
    deviceInfoResistCounter ≤ deviceInfoResistCounter := by decide

theorem place_ne_iff {info info' : DeviceInfoBase} : info.place ≠ info'.place ↔
    info.releayServerRuntimeId ≠ info'.releayServerRuntimeId ∨
      info.relaySideDeviceId ≠ info'.relaySideDeviceId := by
  unfold DeviceInfoBase.place
  rw [ne_eq,Prod.mk.injEq,not_and_or]

theorem refresh_replaces {d : DeviceContext} {info : DeviceInfoBase} (replaces : Replaces d info) :
    refresh d info = { d with infoBase := info, resisterCounter := deviceInfoResistCounter } := by
  obtain ⟨other,last⟩ := replaces
  unfold refresh
  rw [if_pos (place_ne_iff.mp other),if_pos (by rw [last]; rfl)]

theorem refresh_keeps {d : DeviceContext} {info : DeviceInfoBase} (pos : 1 ≤ d.resisterCounter)
    (bound : d.resisterCounter ≤ deviceInfoResistCounter) (keeps : ¬ Replaces d info) :
    (refresh d info).infoBase = d.infoBase ∧ 1 ≤ (refresh d info).resisterCounter ∧
      (refresh d info).resisterCounter ≤ deviceInfoResistCounter := by
  have down : sub64 d.resisterCounter 1 = d.resisterCounter - 1 := sub64_of_le pos
  unfold refresh
  split
  · rename_i moved
    have more : d.resisterCounter ≠ 1 := fun last => keeps ⟨place_ne_iff.mpr moved,last⟩
    rw [down,if_neg (by omega)]
    exact ⟨rfl,by dsimp only; omega,by dsimp only; omega⟩
  · exact ⟨rfl,counter_reset⟩

/-- Another record for the device, which leads to the same lists. -/
private theorem valid_keepAlive {m : DeviceContextManager} (valid : Valid m) {deviceId : Bytes}
    {d d' : DeviceContext} (stored : m.deviceMap deviceId = some d) (named : d'.infoBase.deviceId = deviceId)
    (counter : 1 ≤ d'.resisterCounter ∧ d'.resisterCounter ≤ deviceInfoResistCounter)
    (regions : ∀ region, d'.infoBase.regionId region = d.infoBase.regionId region) :
    Valid (m.keepAlive deviceId d') := by
  have found := deviceMap_keepAlive m deviceId d'
  refine ⟨?_,?_,?_,?_⟩
  · exact forall_keepAlive named (fun other e _ => valid.named other e)
  · exact forall_keepAlive counter (fun other e _ => valid.counter other e)
  · intro region id other member
    rw [found]
    split
    · simp
    · exact valid.known region id other member
  · apply forall_keepAlive
    · intro region id
      rw [deviceLists_keepAlive,valid.indexed deviceId d stored,← regions]
    · exact fun other e _ => valid.indexed other e

theorem valid_new {m : DeviceContextManager} (valid : Valid m) {info : DeviceInfoBase}
    (fresh : m.deviceMap info.deviceId = none) :
    Valid ((m.link info).keepAlive info.deviceId { infoBase := info }) := by
  have absent (region : Region) (id : Nat) : (m.deviceLists region id).count info.deviceId = 0 :=
    List.count_eq_zero.mpr (fun member => valid.known region id _ member fresh)
  have found (other : Bytes) :
      ((m.link info).keepAlive info.deviceId { infoBase := info }).deviceMap other =
        if other = info.deviceId then some { infoBase := info, timestampMS := m.ticker }
        else m.deviceMap other := deviceMap_keepAlive (m.link info) info.deviceId { infoBase := info } other
  refine ⟨?_,?_,?_,?_⟩
  · exact forall_keepAlive rfl (fun other d _ => valid.named other d)
  · exact forall_keepAlive counter_reset (fun other d _ => valid.counter other d)
  · intro region id other member
    rw [found]
    split
    · simp
    · rename_i apart
      rw [deviceLists_keepAlive] at member
      simp only [link] at member
      split at member
      · rcases List.mem_append.mp member with old | new
        · exact valid.known region id other old
        · exact absurd (List.mem_singleton.mp new) apart
      · exact valid.known region id other member
  · apply forall_keepAlive
    · intro region id
      rw [deviceLists_keepAlive]
      simp only [link]
      split
      · simp [absent]
      · exact absent region id
    · intro other d apart here region id
      rw [← valid.indexed other d here region id,deviceLists_keepAlive]
      simp only [link]
      split
      · simp [List.count_append,Ne.symm apart]
      · rfl

theorem valid_update {m : DeviceContextManager} (valid : Valid m) {info : DeviceInfoBase}
    (stays : StaysIn m info) : Valid (m.updateDevice info) := by
  unfold updateDevice
  cases stored : m.deviceMap info.deviceId with
  | none => exact valid_new valid stored
  | some d =>
    dsimp only
    obtain ⟨pos,bound⟩ := valid.counter info.deviceId d stored
    by_cases replaces : Replaces d info
    · rw [refresh_replaces replaces]
      exact valid_keepAlive valid stored rfl counter_reset (stays d stored replaces)
    · obtain ⟨same,counter⟩ := refresh_keeps pos bound replaces
      refine valid_keepAlive valid stored ?_ counter ?_
      · rw [same]
        exact valid.named info.deviceId d stored
      · intro region
        rw [same]

/-- A report that moves a device leaves it in a list of the region that it has left. -/
theorem not_indexed_update {m : DeviceContextManager} (valid : Valid m) {info : DeviceInfoBase}
    (moves : ¬ StaysIn m info) : ¬ Indexed (m.updateDevice info) := by
  unfold StaysIn at moves
  push Not at moves
  obtain ⟨d,stored,replaces,region,other⟩ := moves
  intro indexed
  have now : (m.updateDevice info).deviceMap info.deviceId = some { d with
      infoBase := info, resisterCounter := deviceInfoResistCounter, timestampMS := m.ticker } := by
    simp [updateDevice,stored,refresh_replaces replaces,keepAlive,setDevice]
  have linked := valid.indexed info.deviceId d stored region (d.infoBase.regionId region)
  have lists : (m.updateDevice info).deviceLists = m.deviceLists := by
    simp [updateDevice,stored,keepAlive,setDevice]
  have gone := indexed info.deviceId _ now region (d.infoBase.regionId region)
  rw [lists,linked] at gone
  simp [Ne.symm other] at gone

/-! ## Removals and selections -/

theorem valid_removeDeviceById {m : DeviceContextManager} (valid : Valid m) (deviceId : Bytes) :
    Valid (m.removeDeviceById deviceId).1 := by
  unfold removeDeviceById
  cases stored : m.deviceMap deviceId with
  | none => exact valid
  | some d =>
    have found (other : Bytes) : Function.update m.deviceMap deviceId none other =
        if other = deviceId then none else m.deviceMap other := Function.update_apply ..
    refine ⟨?_,?_,?_,?_⟩
    · intro other e here
      exact valid.named other e (of_update_none here).2
    · intro other e here
      exact valid.counter other e (of_update_none here).2
    · intro region id other member
      dsimp only at member ⊢
      rw [found]
      split
      · rename_i same
        subst same
        have gone : ((m.deviceLists region id).erase other).count other = 0 := by
          rw [List.count_erase_self,valid.indexed other d stored]
          split <;> rfl
        exact absurd member (List.count_eq_zero.mp gone)
      · exact valid.known region id other (List.mem_of_mem_erase member)
    · intro other e here region id
      obtain ⟨apart,before⟩ := of_update_none here
      dsimp only
      rw [List.count_erase_of_ne apart]
      exact valid.indexed other e before region id

theorem valid_removeDevice {m : DeviceContextManager} (valid : Valid m) (deviceId : Bytes) :
    Valid (m.removeDevice deviceId).1 := by
  unfold removeDevice
  split
  · exact valid
  · exact valid_removeDeviceById valid _

theorem valid_removeDevices {m : DeviceContextManager} (valid : Valid m) (list : List Bytes) :
    Valid (m.removeDevices list).1 := by
  induction list generalizing m with
  | nil => exact valid
  | cons deviceId rest ih => exact ih (valid_removeDevice valid deviceId)

theorem valid_tick {m : DeviceContextManager} (valid : Valid m) (nowMS : Nat) : Valid (m.tick nowMS).1 := by
  unfold tick
  dsimp only
  apply valid_removeDevices
  exact ⟨valid.named,valid.counter,valid.known,valid.indexed⟩

/-- A selection turns a list round. -/
theorem selectDevice_lists (m : DeviceContextManager) (region : Region) (id : Nat) :
    (m.selectDevice region id).1.deviceMap = m.deviceMap ∧
      ∀ region' id', ((m.selectDevice region id).1.deviceLists region' id').Perm
        (m.deviceLists region' id') := by
  unfold selectDevice
  cases list : m.deviceLists region id with
  | nil => exact ⟨rfl,fun _ _ => List.Perm.refl _⟩
  | cons first rest =>
    refine ⟨rfl,fun region' id' => ?_⟩
    dsimp only
    split
    · rename_i same
      rw [same.1,same.2,list]
      exact List.perm_append_singleton first rest
    · exact List.Perm.refl _

theorem valid_select {m : DeviceContextManager} (valid : Valid m) (region : Region) (id : Nat) :
    Valid (m.selectDevice region id).1 := by
  obtain ⟨map,perm⟩ := selectDevice_lists m region id
  refine ⟨?_,?_,?_,?_⟩
  · rw [map]
    exact valid.named
  · rw [map]
    exact valid.counter
  · intro region' id' deviceId member
    rw [map]
    exact valid.known region' id' deviceId ((perm region' id').mem_iff.mp member)
  · intro deviceId d here region' id'
    rw [map] at here
    rw [(perm region' id').count_eq]
    exact valid.indexed deviceId d here region' id'

theorem Valid.selects {m : DeviceContextManager} (valid : Valid m) : SelectsInside m := by
  intro region id d selected
  unfold selectDevice at selected
  split at selected
  · cases selected
  · rename_i deviceId rest list
    have linked := valid.indexed deviceId d selected region id
    by_contra outside
    rw [list,if_neg (Ne.symm outside)] at linked
    simp at linked

/-! ## Every run -/

theorem valid_step {m : DeviceContextManager} {log : List DeviceAction} (valid : Valid m) (e : DeviceEvent)
    (stays : Stays m log e) : Valid (m.step e).1 := by
  cases e with
  | serverPacket packet =>
    cases packet with
    | none => exact valid
    | some p =>
      simp only [step,onServerPacket]
      cases offline : p.isOffline with
      | false => exact valid_update valid (stays offline)
      | true => exact valid_removeDeviceById valid p.deviceUuid
  | updateDevice info => exact valid_update valid stays
  | removeDevice deviceId => exact valid_removeDevice valid deviceId
  | removeDeviceById deviceId => exact valid_removeDeviceById valid deviceId
  | tick nowMS => exact valid_tick valid nowMS
  | select region id => exact valid_select valid region id

theorem valid_reach {m : DeviceContextManager} {log : List DeviceAction}
    (reach : deviceMachine.Reach Stays m log) : Valid m := by
  refine reach.invariant (I := fun m _ => Valid m) ?_ (fun m log e _ stays valid => valid_step valid e stays)
  rintro _ ⟨ticker,rfl⟩
  exact valid_init ticker

/-- In every run in which no report that replaces a device's info moves it to another region:
each device is in the lists that its info names and in no other, and every selection for a
region gives a device of that region. One event more keeps the lists right if and only if it
meets the condition. -/
theorem region_lists_agree {m : DeviceContextManager} {log : List DeviceAction}
    (reach : deviceMachine.Reach Stays m log) :
    Indexed m ∧ SelectsInside m ∧ ∀ e, Indexed (m.step e).1 ↔ Stays m log e := by
  have valid := valid_reach reach
  refine ⟨valid.indexed,valid.selects,fun e => ⟨fun indexed => ?_,fun stays => (valid_step valid e stays).indexed⟩⟩
  cases e with
  | serverPacket packet =>
    cases packet with
    | none => trivial
    | some p =>
      intro online
      simp only [step,onServerPacket,online,Bool.not_false,if_true] at indexed
      exact not_not.mp (fun moves => not_indexed_update valid moves indexed)
  | updateDevice info => exact not_not.mp (fun moves => not_indexed_update valid moves indexed)
  | removeDevice deviceId => trivial
  | removeDeviceById deviceId => trivial
  | tick nowMS => trivial
  | select region id => trivial

/-! ## A device that stays, and one that moves -/

def at_ (place country : Nat) : DeviceInfoBase := ⟨place,1,[100],country,10 * country,100 * country⟩

abbrev reported (es : List DeviceEvent) : DeviceContextManager × List DeviceAction := deviceMachine.run {} es

/-- A device of country 1 reports from another relay server of the same country, until it is believed. -/
def staying : List DeviceEvent :=
  [.updateDevice (at_ 1 1),.updateDevice (at_ 2 1),.updateDevice (at_ 2 1),.select .country 1]

theorem region_lists_agree_reported :
    (reported staying).1.deviceMap [100] = some { infoBase := at_ 2 1 } ∧
      Indexed (reported staying).1 ∧ SelectsInside (reported staying).1 := by
  have start : deviceMachine.start {} := ⟨0,rfl⟩
  have stays : deviceMachine.Allowed Stays {} [] staying := by
    refine ⟨?_,?_,?_,trivial,trivial⟩
    · intro d stored
      cases stored
    · intro d stored replaces
      have first : some d = some { infoBase := at_ 1 1 } := stored.symm.trans (by decide)
      obtain rfl := Option.some.inj first
      exact absurd replaces.2 (by decide)
    · intro d stored _ region
      have second : some d = some { infoBase := at_ 1 1, resisterCounter := 1 } := stored.symm.trans (by decide)
      obtain rfl := Option.some.inj second
      cases region <;> rfl
  obtain ⟨indexed,selects,-⟩ := region_lists_agree (Machine.Reach.run (.start start) staying stays)
  exact ⟨by decide,indexed,selects⟩

/-- A device of country 1 reports from another relay server, in country 2, until it is believed. -/
def moving : List DeviceEvent := [.updateDevice (at_ 1 1),.updateDevice (at_ 2 2),.updateDevice (at_ 2 2)]

/-- A device that is now in country 2 is selected for country 1. -/
theorem moved_device_selected_for_former_country :
    ∃ (m : DeviceContextManager) (log : List DeviceAction),
      deviceMachine.Reach Machine.anything m log ∧
        m.deviceMap [100] = some { infoBase := at_ 2 2 } ∧
        m.deviceLists .country 1 = [[100]] ∧ m.deviceLists .country 2 = [] ∧
        (m.selectDeviceByCountryId 1).2 = some { infoBase := at_ 2 2 } ∧
        ¬ Indexed m ∧ ¬ SelectsInside m := by
  have start : deviceMachine.start {} := ⟨0,rfl⟩
  refine ⟨_,_,Machine.reach_run start moving,by decide,by decide,by decide,by decide,?_,?_⟩
  · intro indexed
    have linked := indexed [100] { infoBase := at_ 2 2 } (by decide) .country 2
    revert linked
    decide
  · intro inside
    have country := inside .country 1 { infoBase := at_ 2 2 } (by decide)
    revert country
    decide

end MiniPP.Selector
