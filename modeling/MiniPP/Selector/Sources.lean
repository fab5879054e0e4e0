import MiniPP.Selector.Rotation

/-! Where what a selector knows comes from: each stored record, and each place in a list of a region,
from an update that said so, after which no update said that the device is offline. -/
namespace MiniPP.Selector

open DeviceContextManager

variable {m m' : DeviceContextManager} {packets : List DeviceInfoUpdate}

/-- An update of the device said so while it was online, and none since that it is offline. -/
def Online (deviceId : Bytes) (tells : DeviceInfoUpdate → Prop) (packets : List DeviceInfoUpdate) : Prop :=
  ∃ front p back, packets = front ++ p :: back ∧ p.deviceUuid = deviceId ∧ p.isOffline = false ∧ tells p ∧
    ∀ later ∈ back, later.deviceUuid = deviceId → later.isOffline = false

theorem Online.later {deviceId : Bytes} {tells : DeviceInfoUpdate → Prop} (online : Online deviceId tells packets)
    {p : DeviceInfoUpdate} (up : p.deviceUuid = deviceId → p.isOffline = false) :
    Online deviceId tells (packets ++ [p]) := by
  obtain ⟨front,first,back,rfl,own,on,holds,since⟩ := online
  refine ⟨front,first,back ++ [p],by simp,own,on,holds,fun later member => ?_⟩
  rcases List.mem_append.mp member with old | new
  · exact since later old
  · obtain rfl := List.mem_singleton.mp new
    exact up

theorem online_last (packets : List DeviceInfoUpdate) {tells : DeviceInfoUpdate → Prop} {p : DeviceInfoUpdate}
    (on : p.isOffline = false) (holds : tells p) : Online p.deviceUuid tells (packets ++ [p]) :=
  ⟨packets,p,[],rfl,rfl,on,holds,by simp⟩

structure Sourced (m : DeviceContextManager) (packets : List DeviceInfoUpdate) : Prop where
  stored : ∀ deviceId d, m.deviceMap deviceId = some d →
    Online deviceId (fun p => p.localDevInfo = d.infoBase) packets
  listed : ∀ region id, ∀ deviceId ∈ m.deviceLists region id,
    Online deviceId (fun p => p.localDevInfo.regionId region = id) packets

theorem sourced_init (ticker : Nat) : Sourced { ticker } [] := by
  constructor <;> simp

/-- Nothing new is known. -/
theorem Sourced.less (sourced : Sourced m packets)
    (map : ∀ deviceId d, m'.deviceMap deviceId = some d → m.deviceMap deviceId = some d)
    (lists : ∀ region id, m'.deviceLists region id ⊆ m.deviceLists region id) : Sourced m' packets where
  stored deviceId d here := sourced.stored deviceId d (map deviceId d here)
  listed region id deviceId member := sourced.listed region id deviceId (lists region id member)

theorem removeDeviceById_less (m : DeviceContextManager) (removed : Bytes) :
    (∀ deviceId d, (m.removeDeviceById removed).1.deviceMap deviceId = some d →
      m.deviceMap deviceId = some d) ∧
    ∀ region id, (m.removeDeviceById removed).1.deviceLists region id ⊆ m.deviceLists region id := by
  unfold removeDeviceById
  cases m.deviceMap removed with
  | none => exact ⟨fun _ _ here => here,fun _ _ => List.Subset.refl _⟩
  | some d => exact ⟨fun _ _ here => (of_update_none here).2,fun _ _ => List.erase_subset⟩

theorem sourced_removeDevices (sourced : Sourced m packets) (list : List Bytes) :
    Sourced (m.removeDevices list).1 packets := by
  induction list generalizing m with
  | nil => exact sourced
  | cons deviceId rest ih =>
    apply ih
    unfold removeDevice
    split
    · exact sourced
    · obtain ⟨map,lists⟩ := removeDeviceById_less m (DeviceContext.infoBase _).deviceId
      exact sourced.less map lists

theorem sourced_tick (sourced : Sourced m packets) (nowMS : Nat) : Sourced (m.tick nowMS).1 packets := by
  unfold tick
  dsimp only
  apply sourced_removeDevices
  exact ⟨sourced.stored,sourced.listed⟩

theorem sourced_select (sourced : Sourced m packets) (region : Region) (id : Nat) :
    Sourced (m.selectDevice region id).1 packets := by
  obtain ⟨map,perm⟩ := selectDevice_lists m region id
  refine sourced.less (fun deviceId d here => ?_) (fun region' id' => (perm region' id').subset)
  rwa [map] at here

theorem refresh_infoBase (d : DeviceContext) (info : DeviceInfoBase) :
    (refresh d info).infoBase = info ∨ (refresh d info).infoBase = d.infoBase := by
  unfold refresh
  split
  · split
    · exact .inl rfl
    · exact .inr rfl
  · exact .inr rfl

theorem sourced_update (sourced : Sourced m packets) {p : DeviceInfoUpdate} (on : p.isOffline = false) :
    Sourced (m.updateDevice p.localDevInfo) (packets ++ [p]) := by
  have newest : Online p.deviceUuid (fun q => q.localDevInfo = p.localDevInfo) (packets ++ [p]) :=
    online_last packets on rfl
  have map (deviceId : Bytes) (d : DeviceContext) (here : m.deviceMap deviceId = some d) :
      Online deviceId (fun q => q.localDevInfo = d.infoBase) (packets ++ [p]) :=
    (sourced.stored deviceId d here).later (fun _ => on)
  have lists (region : Region) (id : Nat) (deviceId : Bytes) (member : deviceId ∈ m.deviceLists region id) :
      Online deviceId (fun q => q.localDevInfo.regionId region = id) (packets ++ [p]) :=
    (sourced.listed region id deviceId member).later (fun _ => on)
  unfold updateDevice
  cases known : m.deviceMap p.localDevInfo.deviceId with
  | some d =>
    refine ⟨forall_keepAlive ?_ (fun other e _ => map other e),lists⟩
    rcases refresh_infoBase d p.localDevInfo with same | same
    · dsimp only
      rw [same]
      exact newest
    · dsimp only
      rw [same]
      exact map _ d known
  | none =>
    refine ⟨forall_keepAlive newest (fun other e _ => map other e),?_⟩
    intro region id deviceId member
    rw [deviceLists_keepAlive] at member
    simp only [link] at member
    split at member
    · rename_i own
      rcases List.mem_append.mp member with old | new
      · exact lists region id deviceId old
      · obtain rfl := List.mem_singleton.mp new
        exact online_last packets on own.symm
    · exact lists region id deviceId member

theorem sourced_offline (sourced : Sourced m packets) (listed : Listed m) {p : DeviceInfoUpdate} :
    Sourced (m.removeDeviceById p.deviceUuid).1 (packets ++ [p]) := by
  unfold removeDeviceById
  cases known : m.deviceMap p.deviceUuid with
  | none =>
    constructor
    · intro deviceId d here
      have apart : p.deviceUuid ≠ deviceId := by
        rintro rfl
        cases known.symm.trans here
      exact (sourced.stored deviceId d here).later (fun same => absurd same apart)
    · intro region id deviceId member
      have apart : p.deviceUuid ≠ deviceId := by
        rintro rfl
        exact listed.known region id _ member known
      exact (sourced.listed region id deviceId member).later (fun same => absurd same apart)
  | some d =>
    constructor
    · intro deviceId e here
      obtain ⟨apart,old⟩ := of_update_none here
      exact (sourced.stored deviceId e old).later (fun same => absurd same.symm apart)
    · intro region id deviceId member
      obtain ⟨apart,old⟩ := (listed.once region id).mem_erase_iff.mp member
      exact (sourced.listed region id deviceId old).later (fun same => absurd same.symm apart)

/-- What a packet adds to the updates. -/
theorem sourced_onServerPacket (sourced : Sourced m packets) (listed : Listed m)
    (packet : Option DeviceInfoUpdate) :
    Sourced (m.onServerPacket packet).1 (packets ++ packet.toList) := by
  cases packet with
  | none => simpa [onServerPacket] using sourced
  | some p =>
    simp only [onServerPacket]
    cases on : p.isOffline with
    | false => exact sourced_update sourced on
    | true => exact sourced_offline sourced listed

/-- A device that is selected for a region was there by an update, and is where one said. -/
theorem Sourced.selects (sourced : Sourced m packets) (listed : Listed m) {region : Region} {id : Nat}
    {d : DeviceContext} (selected : (m.selectDevice region id).2 = some d) :
    Online d.infoBase.deviceId (fun p => p.localDevInfo.regionId region = id) packets ∧
      Online d.infoBase.deviceId (fun p => p.localDevInfo = d.infoBase) packets := by
  unfold selectDevice at selected
  split at selected
  · cases selected
  · rename_i deviceId rest here
    have own : d.infoBase.deviceId = deviceId := listed.named deviceId d selected
    rw [own]
    exact ⟨sourced.listed region id deviceId (by simp [here]),sourced.stored deviceId d selected⟩

end MiniPP.Selector
