import MiniPP.Selector.Regions

/-! Selections for a region take its devices in turn. Whatever the reports were before, each list
has a device once, and only devices that are known. -/
namespace MiniPP.Selector

open DeviceContextManager

/-! ## The lists -/

structure Listed (m : DeviceContextManager) : Prop where
  named : ∀ deviceId d, m.deviceMap deviceId = some d → d.infoBase.deviceId = deviceId
  known : ∀ region id, ∀ deviceId ∈ m.deviceLists region id, m.deviceMap deviceId ≠ none
  once : ∀ region id, (m.deviceLists region id).Nodup

theorem listed_init (ticker : Nat) : Listed { ticker } := by
  constructor <;> simp

/-- A record of the device that it is named by. -/
theorem listed_keepAlive {m : DeviceContextManager} {deviceId : Bytes} {d : DeviceContext}
    (named : ∀ other e, m.deviceMap other = some e → e.infoBase.deviceId = other)
    (known : ∀ region id, ∀ other ∈ m.deviceLists region id, other ≠ deviceId → m.deviceMap other ≠ none)
    (once : ∀ region id, (m.deviceLists region id).Nodup) (own : d.infoBase.deviceId = deviceId) :
    Listed (m.keepAlive deviceId d) := by
  have found := deviceMap_keepAlive m deviceId d
  refine ⟨?_,?_,once⟩
  · exact forall_keepAlive own (fun other e _ => named other e)
  · intro region id other member
    rw [found]
    split
    · simp
    · rename_i apart
      exact known region id other member apart

theorem refresh_deviceId {d : DeviceContext} {info : DeviceInfoBase} (same : info.deviceId = d.infoBase.deviceId) :
    (refresh d info).infoBase.deviceId = d.infoBase.deviceId := by
  unfold refresh
  split
  · split
    · exact same
    · rfl
  · rfl

theorem listed_update {m : DeviceContextManager} (listed : Listed m) (info : DeviceInfoBase) :
    Listed (m.updateDevice info) := by
  unfold updateDevice
  cases stored : m.deviceMap info.deviceId with
  | some d =>
    have own := listed.named info.deviceId d stored
    apply listed_keepAlive listed.named (fun region id other member _ => listed.known region id other member)
      listed.once
    rw [refresh_deviceId own.symm]
    exact own
  | none =>
    have absent (region : Region) (id : Nat) : info.deviceId ∉ m.deviceLists region id :=
      fun member => listed.known region id _ member stored
    apply listed_keepAlive
    · exact listed.named
    · intro region id other member apart
      simp only [link] at member
      split at member
      · obtain old | new := List.mem_append.mp member
        · exact listed.known region id other old
        · exact absurd (List.mem_singleton.mp new) apart
      · exact listed.known region id other member
    · intro region id
      simp only [link]
      split
      · apply List.nodup_append.mpr
        refine ⟨listed.once region id,List.pairwise_singleton _ _,?_⟩
        intro other member last new same
        rw [List.mem_singleton] at new
        rw [same,new] at member
        exact absent region id member
      · exact listed.once region id
    · rfl

theorem listed_removeDeviceById {m : DeviceContextManager} (listed : Listed m) (deviceId : Bytes) :
    Listed (m.removeDeviceById deviceId).1 := by
  unfold removeDeviceById
  cases stored : m.deviceMap deviceId with
  | none => exact listed
  | some d =>
    refine ⟨?_,?_,fun region id => (listed.once region id).erase deviceId⟩
    · intro other e here
      exact listed.named other e (of_update_none here).2
    · intro region id other member
      obtain ⟨apart,old⟩ := (listed.once region id).mem_erase_iff.mp member
      dsimp only
      rw [Function.update_of_ne apart]
      exact listed.known region id other old

theorem listed_removeDevice {m : DeviceContextManager} (listed : Listed m) (deviceId : Bytes) :
    Listed (m.removeDevice deviceId).1 := by
  unfold removeDevice
  split
  · exact listed
  · exact listed_removeDeviceById listed _

theorem listed_removeDevices {m : DeviceContextManager} (listed : Listed m) (list : List Bytes) :
    Listed (m.removeDevices list).1 := by
  induction list generalizing m with
  | nil => exact listed
  | cons deviceId rest ih => exact ih (listed_removeDevice listed deviceId)

theorem listed_tick {m : DeviceContextManager} (listed : Listed m) (nowMS : Nat) : Listed (m.tick nowMS).1 := by
  unfold tick
  dsimp only
  apply listed_removeDevices
  exact ⟨listed.named,listed.known,listed.once⟩

theorem listed_select {m : DeviceContextManager} (listed : Listed m) (region : Region) (id : Nat) :
    Listed (m.selectDevice region id).1 := by
  obtain ⟨map,perm⟩ := selectDevice_lists m region id
  refine ⟨?_,?_,?_⟩
  · rw [map]
    exact listed.named
  · intro region' id' deviceId member
    rw [map]
    exact listed.known region' id' deviceId ((perm region' id').mem_iff.mp member)
  · intro region' id'
    exact (perm region' id').nodup_iff.mpr (listed.once region' id')

theorem listed_step {m : DeviceContextManager} (listed : Listed m) (e : DeviceEvent) : Listed (m.step e).1 := by
  cases e with
  | serverPacket packet =>
    cases packet with
    | none => exact listed
    | some p =>
      simp only [step,onServerPacket]
      split
      · exact listed_update listed p.localDevInfo
      · exact listed_removeDeviceById listed p.deviceUuid
  | updateDevice info => exact listed_update listed info
  | removeDevice deviceId => exact listed_removeDevice listed deviceId
  | removeDeviceById deviceId => exact listed_removeDeviceById listed deviceId
  | tick nowMS => exact listed_tick listed nowMS
  | select region id => exact listed_select listed region id

theorem listed_reach {m : DeviceContextManager} {log : List DeviceAction}
    (reach : deviceMachine.Reach Machine.anything m log) : Listed m := by
  apply Machine.Reach.invariant (I := fun m _ => Listed m) ?_ (fun m log e _ _ listed => listed_step listed e) reach
  rintro _ ⟨ticker,rfl⟩
  exact listed_init ticker

/-! ## Selections in a row -/

/-- The devices that are selected for a region, one after the other, while others are selected
for other regions in between. -/
def selections (m : DeviceContextManager) (region : Region) (id : Nat) :
    List (Region × Nat) → DeviceContextManager × List (Option DeviceContext)
  | [] => (m,[])
  | (region',id') :: rest =>
    let (m',device) := m.selectDevice region' id'
    let later := selections m' region id rest
    (later.1,if region' = region ∧ id' = id then device :: later.2 else later.2)

/-- Selections of other regions leave a list as it is. -/
theorem selectDevice_other {m : DeviceContextManager} {region region' : Region} {id id' : Nat}
    (other : ¬ (region' = region ∧ id' = id)) :
    (m.selectDevice region' id').1.deviceLists region id = m.deviceLists region id := by
  unfold selectDevice
  split
  · rfl
  · apply if_neg
    rintro ⟨rfl,rfl⟩
    exact other ⟨rfl,rfl⟩

theorem selectDevice_head {m : DeviceContextManager} {region : Region} {id : Nat} {first : Bytes} {rest : List Bytes}
    (list : m.deviceLists region id = first :: rest) :
    (m.selectDevice region id).2 = m.deviceMap first ∧
      (m.selectDevice region id).1.deviceLists region id = rest ++ [first] := by
  simp [selectDevice,list]

/-- As long as the list has not come round, the selections take it from the front. -/
theorem selections_take {m : DeviceContextManager} {region : Region} {id : Nat} {es : List (Region × Nat)}
    (few : es.count (region,id) ≤ (m.deviceLists region id).length) :
    (selections m region id es).2 = ((m.deviceLists region id).take (es.count (region,id))).map m.deviceMap := by
  induction es generalizing m with
  | nil => simp [selections]
  | cons e rest ih =>
    obtain ⟨region',id'⟩ := e
    have map := (selectDevice_lists m region' id').1
    unfold selections
    dsimp only
    by_cases here : region' = region ∧ id' = id
    · obtain ⟨rfl,rfl⟩ := here
      rw [List.count_cons_self] at few ⊢
      cases list : m.deviceLists region' id' with
      | nil =>
        rw [list] at few
        exact absurd few (Nat.not_succ_le_zero _)
      | cons first others =>
        obtain ⟨device,turned⟩ := selectDevice_head list
        rw [list,List.length_cons,Nat.succ_le_succ_iff] at few
        have later := ih (m := (m.selectDevice region' id').1) (by
          rw [turned,List.length_append,List.length_singleton]
          omega)
        rw [if_pos ⟨rfl,rfl⟩,device,later,map,turned,List.take_append_of_le_length few]
        rfl
    · have apart : (region',id') ≠ (region,id) := by
        intro same
        exact here (Prod.mk.inj same)
      have same := selectDevice_other (m := m) here
      rw [List.count_cons_of_ne apart] at few ⊢
      have later := ih (m := (m.selectDevice region' id').1) (by rw [same]; exact few)
      rw [if_neg here,later,map,same]

/-- Selections only turn the lists round. -/
theorem selections_lists (m : DeviceContextManager) (region : Region) (id : Nat) (es : List (Region × Nat)) :
    (selections m region id es).1.deviceMap = m.deviceMap ∧
      ∀ region' id', ((selections m region id es).1.deviceLists region' id').Perm (m.deviceLists region' id') := by
  induction es generalizing m with
  | nil => exact ⟨rfl,fun _ _ => List.Perm.refl _⟩
  | cons e rest ih =>
    obtain ⟨map,perm⟩ := selectDevice_lists m e.1 e.2
    obtain ⟨map',perm'⟩ := ih (m.selectDevice e.1 e.2).1
    exact ⟨map'.trans map,fun region' id' => (perm' region' id').trans (perm region' id')⟩

/-- The selections give pairwise different devices, which are those of the list, and every list
has the members that it had. -/
def FairlyRotated (m : DeviceContextManager) (region : Region) (id : Nat) (es : List (Region × Nat)) : Prop :=
  let selected := selections m region id es
  selected.2.Nodup ∧
    selected.2.map (Option.map (fun d => d.infoBase.deviceId)) = (m.deviceLists region id).map some ∧
    selected.1.deviceMap = m.deviceMap ∧
    ∀ region' id', (selected.1.deviceLists region' id').Perm (m.deviceLists region' id')

/-- In every state, and for every region with as many devices as it is selected from, whatever is
selected in between for other regions. -/
theorem selection_fair {m : DeviceContextManager} {log : List DeviceAction}
    (reach : deviceMachine.Reach Machine.anything m log) (region : Region) (id : Nat) (es : List (Region × Nat))
    (turns : es.count (region,id) = (m.deviceLists region id).length) : FairlyRotated m region id es := by
  have listed := listed_reach reach
  obtain ⟨map,perm⟩ := selections_lists m region id es
  have selected : (selections m region id es).2 = (m.deviceLists region id).map m.deviceMap := by
    rw [selections_take (Nat.le_of_eq turns),turns,List.take_length]
  have ids : (selections m region id es).2.map (Option.map (fun d => d.infoBase.deviceId)) =
      (m.deviceLists region id).map some := by
    rw [selected,List.map_map]
    apply List.map_congr_left
    intro deviceId member
    obtain ⟨d,stored⟩ := Option.ne_none_iff_exists'.mp (listed.known region id deviceId member)
    rw [Function.comp_apply,stored,Option.map_some,listed.named deviceId d stored]
  have different : ((selections m region id es).2.map (Option.map (fun d => d.infoBase.deviceId))).Nodup := by
    rw [ids]
    exact List.Nodup.map (fun _ _ => Option.some.inj) (listed.once region id)
  exact ⟨List.Nodup.of_map _ different,ids,map,perm⟩

/-! ## Two devices -/

/-- Two devices of country 1, in different states. -/
def pair : List DeviceEvent :=
  [.updateDevice ⟨1,1,[100],1,10,100⟩,.updateDevice ⟨1,2,[101],1,20,200⟩]

theorem selection_fair_pair :
    FairlyRotated (reported pair).1 .country 1 [(.country,1),(.state,10),(.country,2),(.country,1)] := by
  have start : deviceMachine.start {} := ⟨0,rfl⟩
  exact selection_fair (Machine.reach_run start pair) .country 1 _ (by decide)

end MiniPP.Selector
