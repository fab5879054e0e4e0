import Mathlib.Data.Set.Card
import MiniPP.Lib.ExpiryQueue
import MiniPP.Selector.Hysteresis
import MiniPP.Selector.Rotation

/-! When devices expire. The timeout list is a queue of the devices in the order of their last
updates, and the local audit counts them. -/
namespace MiniPP.Selector

open DeviceContextManager

/-- The counters of `xDS_LocalAudit`. -/
structure LocalAudit where
  newDeviceCount : UInt64 := 0
  replacedDeviceCount : UInt64 := 0
  removedDeviceCount : UInt64 := 0
  timeoutDeviceCount : UInt64 := 0
  totalDeviceCount : UInt64 := 0
  deriving DecidableEq, Repr

/-- The total is not a count of the period. -/
def LocalAudit.resetPeriodCount (audit : LocalAudit) : LocalAudit := { totalDeviceCount := audit.totalDeviceCount }

structure AuditedManager where
  manager : DeviceContextManager
  audit : LocalAudit := {}

namespace AuditedManager

def updateDevice (a : AuditedManager) (info : DeviceInfoBase) : AuditedManager where
  manager := a.manager.updateDevice info
  audit :=
    match a.manager.deviceMap info.deviceId with
    | some d =>
      if (info.releayServerRuntimeId ≠ d.infoBase.releayServerRuntimeId ∨
          info.relaySideDeviceId ≠ d.infoBase.relaySideDeviceId) ∧ sub64 d.resisterCounter 1 = 0 then
        { a.audit with replacedDeviceCount := a.audit.replacedDeviceCount + 1 }
      else a.audit
    | none => { a.audit with
        newDeviceCount := a.audit.newDeviceCount + 1
        totalDeviceCount := a.audit.totalDeviceCount + 1 }

def removeDeviceById (a : AuditedManager) (deviceId : Bytes) : AuditedManager where
  manager := (a.manager.removeDeviceById deviceId).1
  audit :=
    match a.manager.deviceMap deviceId with
    | none => a.audit
    | some _ => { a.audit with
        removedDeviceCount := a.audit.removedDeviceCount + 1
        totalDeviceCount := a.audit.totalDeviceCount - 1 }

def removeDevice (a : AuditedManager) (deviceId : Bytes) : AuditedManager :=
  match a.manager.deviceMap deviceId with
  | none => a
  | some d => a.removeDeviceById d.infoBase.deviceId

/-- The devices that are popped, one after the other. -/
def removeTimeout (a : AuditedManager) : List Bytes → AuditedManager
  | [] => a
  | deviceId :: rest =>
    let a := { a with audit := { a.audit with timeoutDeviceCount := a.audit.timeoutDeviceCount + 1 } }
    removeTimeout (a.removeDevice deviceId) rest

/-- The heads of the list that have timed out. -/
def popped (a : AuditedManager) (nowMS : Nat) : List Bytes :=
  a.manager.timeoutDeviceList.takeWhile (a.manager.timedOut (sub64 nowMS deviceKeepAliveTimeoutMS))

def unlinkPopped (a : AuditedManager) (nowMS : Nat) : AuditedManager :=
  { a with manager := { a.manager with
      ticker := nowMS
      timeoutDeviceList := a.manager.timeoutDeviceList.dropWhile
        (a.manager.timedOut (sub64 nowMS deviceKeepAliveTimeoutMS)) } }

def tick (a : AuditedManager) (nowMS : Nat) : AuditedManager :=
  (a.unlinkPopped nowMS).removeTimeout (a.popped nowMS)

/-- The notice and the update that a packet brings. -/
def onServerPacket (a : AuditedManager) : Option DeviceInfoUpdate → AuditedManager
  | none => a
  | some p => if !p.isOffline then a.updateDevice p.localDevInfo else a.removeDeviceById p.deviceUuid

end AuditedManager

inductive AuditedEvent where
  | device (e : DeviceEvent)
  | resetPeriodCount
  deriving DecidableEq, Repr

def AuditedManager.step (a : AuditedManager) : AuditedEvent → AuditedManager
  | .device (.serverPacket packet) => a.onServerPacket packet
  | .device (.updateDevice info) => a.updateDevice info
  | .device (.removeDevice deviceId) => a.removeDevice deviceId
  | .device (.removeDeviceById deviceId) => a.removeDeviceById deviceId
  | .device (.tick nowMS) => a.tick nowMS
  | .device (.select region id) => { a with manager := (a.manager.selectDevice region id).1 }
  | .resetPeriodCount => { a with audit := a.audit.resetPeriodCount }

def auditedMachine : Machine AuditedManager AuditedEvent Empty where
  start a := ∃ ticker, a = { manager := { ticker } }
  step a e := (a.step e,[])

/-! ## The manager below the audit -/

theorem removeDevice_manager (a : AuditedManager) (deviceId : Bytes) :
    (a.removeDevice deviceId).manager = (a.manager.removeDevice deviceId).1 := by
  unfold AuditedManager.removeDevice DeviceContextManager.removeDevice
  cases a.manager.deviceMap deviceId with
  | none => rfl
  | some d => rfl

theorem removeTimeout_manager (a : AuditedManager) (popped : List Bytes) :
    (a.removeTimeout popped).manager = (a.manager.removeDevices popped).1 := by
  induction popped generalizing a with
  | nil => rfl
  | cons deviceId rest ih =>
    simp only [AuditedManager.removeTimeout,removeDevices]
    rw [ih,removeDevice_manager]

/-- The audit does not change what the manager does. -/
theorem step_manager (a : AuditedManager) (e : DeviceEvent) :
    (a.step (.device e)).manager = (a.manager.step e).1 := by
  cases e with
  | serverPacket packet =>
    cases packet with
    | none => rfl
    | some p =>
      simp only [AuditedManager.step,AuditedManager.onServerPacket,DeviceContextManager.step,
        DeviceContextManager.onServerPacket]
      split <;> rfl
  | updateDevice info => rfl
  | removeDevice deviceId => exact removeDevice_manager a deviceId
  | removeDeviceById deviceId => rfl
  | tick nowMS => exact removeTimeout_manager _ _
  | select region id => rfl

/-! ## What the calls ask for -/

/-- The device that a call removes. -/
def DeviceEvent.removal? : DeviceEvent → Option Bytes
  | .serverPacket (some p) => if p.isOffline then some p.deviceUuid else none
  | .removeDevice deviceId => some deviceId
  | .removeDeviceById deviceId => some deviceId
  | _ => none

/-- At which ticker time a device was last updated, unless a call has removed it since. Expiry
does not enter into it. -/
def watchUpdates (a : AuditedManager) (e : AuditedEvent) (updated : Bytes → Option Nat) : Bytes → Option Nat :=
  match e with
  | .resetPeriodCount => updated
  | .device e =>
    match e.update?,e.removal? with
    | some info,_ => Function.update updated info.deviceId (some a.manager.ticker)
    | none,some deviceId => Function.update updated deviceId none
    | none,none => updated

def watchedMachine : Machine (AuditedManager × (Bytes → Option Nat)) AuditedEvent Empty :=
  auditedMachine.withGhost (fun _ => none) watchUpdates

/-- Ticks come with epoch milliseconds, which do not go back. -/
def Ticks (m : DeviceContextManager) (nowMS : Nat) : Prop :=
  m.ticker ≤ nowMS ∧ deviceKeepAliveTimeoutMS ≤ nowMS

def Ticking (c : AuditedManager × (Bytes → Option Nat)) (_ : List Empty) : AuditedEvent → Prop
  | .device (.tick nowMS) => Ticks c.1.manager nowMS
  | _ => True

/-- `DeviceMap.size()`, a 64-bit number. -/
noncomputable def DeviceContextManager.size (m : DeviceContextManager) : UInt64 :=
  .ofNat {deviceId | m.deviceMap deviceId ≠ none}.ncard

/-! ## The timeout list as a queue -/

def DeviceContextManager.queue (m : DeviceContextManager) : ExpiryQueue Bytes where
  clock := m.ticker
  stamps deviceId := (m.deviceMap deviceId).map DeviceContext.timestampMS
  queue := m.timeoutDeviceList

def deviceDeadline : ExpiryQueue.Deadline where
  late now t := t + deviceKeepAliveTimeoutMS ≤ now
  downward now s t before late := by
    simp only [decide_eq_true_eq] at late ⊢
    omega
  monotone now later t before late := by
    simp only [decide_eq_true_eq] at late ⊢
    omega
  present now := by simp [deviceKeepAliveTimeoutMS]

theorem queue_keepAlive (m : DeviceContextManager) (deviceId : Bytes) (d : DeviceContext) :
    (m.keepAlive deviceId d).queue = m.queue.touch deviceId := by
  refine ExpiryQueue.ext rfl ?_ rfl
  funext other
  simp only [DeviceContextManager.queue,ExpiryQueue.touch]
  rw [deviceMap_keepAlive,Function.update_apply]
  split <;> rfl

theorem queue_updateDevice (m : DeviceContextManager) (info : DeviceInfoBase) :
    (m.updateDevice info).queue = m.queue.touch info.deviceId := by
  unfold updateDevice
  split
  · exact queue_keepAlive m info.deviceId _
  · exact queue_keepAlive (m.link info) info.deviceId _

theorem queue_removeDeviceById {m : DeviceContextManager} (sound : m.queue.Sound) (deviceId : Bytes) :
    (m.removeDeviceById deviceId).1.queue = m.queue.drop deviceId := by
  unfold removeDeviceById
  cases stored : m.deviceMap deviceId with
  | none =>
    have absent : m.queue.stamps deviceId = none := by simp [DeviceContextManager.queue,stored]
    exact (sound.drop_absent absent).symm
  | some d =>
    refine ExpiryQueue.ext rfl ?_ rfl
    funext other
    simp only [DeviceContextManager.queue,ExpiryQueue.drop]
    rw [Function.update_apply,Function.update_apply]
    split <;> rfl

/-- Each record is stored under its own id. -/
def Named (m : DeviceContextManager) : Prop :=
  ∀ deviceId d, m.deviceMap deviceId = some d → d.infoBase.deviceId = deviceId

/-! ## Expiry -/

/-- What the loop over the popped devices leaves. -/
theorem removeTimeout_spec {a : AuditedManager} {popped : List Bytes} (named : Named a.manager)
    (once : popped.Nodup) (known : ∀ deviceId ∈ popped, a.manager.deviceMap deviceId ≠ none)
    (off : ∀ deviceId ∈ popped, deviceId ∉ a.manager.timeoutDeviceList) :
    (a.removeTimeout popped).manager.ticker = a.manager.ticker ∧
      (a.removeTimeout popped).manager.timeoutDeviceList = a.manager.timeoutDeviceList ∧
      (∀ other, (a.removeTimeout popped).manager.deviceMap other =
        if other ∈ popped then none else a.manager.deviceMap other) ∧
      (a.removeTimeout popped).audit.totalDeviceCount + .ofNat popped.length = a.audit.totalDeviceCount := by
  induction popped generalizing a with
  | nil => exact ⟨rfl,rfl,fun other => by simp [AuditedManager.removeTimeout],by simp [AuditedManager.removeTimeout]⟩
  | cons first rest ih =>
    obtain ⟨absent,once⟩ := List.nodup_cons.mp once
    obtain ⟨d,stored⟩ := Option.ne_none_iff_exists'.mp (known first List.mem_cons_self)
    have own := named first d stored
    have unlisted : a.manager.timeoutDeviceList.erase first = a.manager.timeoutDeviceList :=
      List.erase_of_not_mem (off first List.mem_cons_self)
    let a' := { a with audit := { a.audit with timeoutDeviceCount := a.audit.timeoutDeviceCount + 1 } }
    have map (other : Bytes) : (a'.removeDevice first).manager.deviceMap other =
        if other = first then none else a.manager.deviceMap other := by
      simp only [AuditedManager.removeDevice,AuditedManager.removeDeviceById,removeDeviceById,a',stored,own]
      exact Function.update_apply ..
    have list : (a'.removeDevice first).manager.timeoutDeviceList = a.manager.timeoutDeviceList := by
      simp only [AuditedManager.removeDevice,AuditedManager.removeDeviceById,removeDeviceById,a',stored,own]
      exact unlisted
    have ticker : (a'.removeDevice first).manager.ticker = a.manager.ticker := by
      simp only [AuditedManager.removeDevice,AuditedManager.removeDeviceById,removeDeviceById,a',stored,own]
    have total : (a'.removeDevice first).audit.totalDeviceCount = a.audit.totalDeviceCount - 1 := by
      simp only [AuditedManager.removeDevice,AuditedManager.removeDeviceById,a',stored,own]
    have later := ih (a := a'.removeDevice first) ?_ once ?_ ?_
    · obtain ⟨clock,queue,found,count⟩ := later
      refine ⟨clock.trans ticker,queue.trans list,?_,?_⟩
      · intro other
        rw [show a.removeTimeout (first :: rest) = (a'.removeDevice first).removeTimeout rest from rfl,
          found,map]
        by_cases inside : other ∈ rest
        · simp [inside]
        · simp [inside]
      · rw [total] at count
        rw [show a.removeTimeout (first :: rest) = (a'.removeDevice first).removeTimeout rest from rfl,
          List.length_cons,UInt64.ofNat_add,← UInt64.add_assoc,count]
        exact UInt64.sub_add_cancel _ _
    · intro other e here
      rw [map] at here
      split at here
      · cases here
      · exact named other e here
    · intro other inside
      rw [map,if_neg (fun same : other = first => absent (same ▸ inside))]
      exact known other (List.mem_cons_of_mem _ inside)
    · intro other inside
      rw [list]
      exact off other (List.mem_cons_of_mem _ inside)

theorem stamps_late (m : DeviceContextManager) (nowMS : Nat) (deviceId : Bytes) :
    (m.queue.stamps deviceId).any (deviceDeadline.late nowMS) =
      (m.deviceMap deviceId).any (fun d => d.timestampMS + deviceKeepAliveTimeoutMS ≤ nowMS) := by
  simp only [DeviceContextManager.queue,deviceDeadline]
  cases m.deviceMap deviceId with
  | none => rfl
  | some d => rfl

theorem timedOut_eq {nowMS : Nat} (epoch : deviceKeepAliveTimeoutMS ≤ nowMS) (m : DeviceContextManager)
    (deviceId : Bytes) : m.timedOut (sub64 nowMS deviceKeepAliveTimeoutMS) deviceId =
      (m.queue.stamps deviceId).any (deviceDeadline.late nowMS) := by
  have limit (d : DeviceContext) : d.timestampMS ≤ nowMS - deviceKeepAliveTimeoutMS ↔
      d.timestampMS + deviceKeepAliveTimeoutMS ≤ nowMS := Nat.le_sub_iff_add_le epoch
  rw [sub64_of_le epoch,stamps_late]
  simp only [timedOut,limit]

/-! ## Every run -/

/-- The queue is in order, the devices in it are those whose last update is not too long ago, and
the audit counts them. -/
structure Expires (a : AuditedManager) (updated : Bytes → Option Nat) : Prop where
  named : Named a.manager
  sound : a.manager.queue.Sound
  exactly : ExpiryQueue.Exact deviceDeadline a.manager.queue updated
  total : a.audit.totalDeviceCount = .ofNat a.manager.timeoutDeviceList.length

theorem expires_init (ticker : Nat) : Expires { manager := { ticker } } (fun _ => none) := by
  refine ⟨?_,?_,?_,rfl⟩
  · intro deviceId d stored
    cases stored
  · exact ExpiryQueue.sound_empty ticker
  · exact ExpiryQueue.exact_empty deviceDeadline ticker

variable {a : AuditedManager} {updated : Bytes → Option Nat}

theorem Expires.known (expires : Expires a updated) (deviceId : Bytes) :
    deviceId ∈ a.manager.timeoutDeviceList ↔ a.manager.deviceMap deviceId ≠ none := by
  rw [show deviceId ∈ a.manager.timeoutDeviceList ↔ deviceId ∈ a.manager.queue.queue from Iff.rfl,
    expires.sound.linked]
  simp [DeviceContextManager.queue]

theorem named_keepAlive {m : DeviceContextManager} (named : Named m) {deviceId : Bytes} {d : DeviceContext}
    (own : d.infoBase.deviceId = deviceId) : Named (m.keepAlive deviceId d) :=
  forall_keepAlive own (fun other e _ => named other e)

theorem Expires.updateDevice (expires : Expires a updated) (info : DeviceInfoBase) :
    Expires (a.updateDevice info) (Function.update updated info.deviceId (some a.manager.ticker)) := by
  refine ⟨?_,?_,?_,?_⟩
  · simp only [AuditedManager.updateDevice,DeviceContextManager.updateDevice]
    split
    · rename_i d stored
      have own := expires.named info.deviceId d stored
      apply named_keepAlive expires.named
      rw [refresh_deviceId own.symm]
      exact own
    · exact named_keepAlive (m := a.manager.link info) expires.named rfl
  · simp only [AuditedManager.updateDevice,queue_updateDevice]
    exact expires.sound.touch info.deviceId
  · simp only [AuditedManager.updateDevice,queue_updateDevice]
    exact expires.exactly.touch info.deviceId
  · have list : (a.manager.updateDevice info).timeoutDeviceList =
        a.manager.timeoutDeviceList.erase info.deviceId ++ [info.deviceId] :=
      congrArg ExpiryQueue.queue (queue_updateDevice a.manager info)
    have here := expires.known info.deviceId
    simp only [AuditedManager.updateDevice,list,List.length_append,List.length_singleton]
    cases stored : a.manager.deviceMap info.deviceId with
    | none =>
      rw [stored] at here
      have absent : info.deviceId ∉ a.manager.timeoutDeviceList := fun member => here.mp member rfl
      rw [List.erase_of_not_mem absent,UInt64.ofNat_add,← expires.total]
      rfl
    | some d =>
      have member := here.mpr (by simp [stored])
      have positive := List.length_pos_of_mem member
      rw [List.length_erase_of_mem member,Nat.sub_add_cancel positive,← expires.total]
      dsimp only
      split <;> rfl

theorem Expires.removeDeviceById (expires : Expires a updated) (deviceId : Bytes) :
    Expires (a.removeDeviceById deviceId) (Function.update updated deviceId none) := by
  have queue := queue_removeDeviceById expires.sound deviceId
  refine ⟨?_,?_,?_,?_⟩
  · simp only [AuditedManager.removeDeviceById,DeviceContextManager.removeDeviceById]
    split
    · exact expires.named
    · exact fun other d here => expires.named other d (of_update_none here).2
  · simp only [AuditedManager.removeDeviceById,queue]
    exact expires.sound.drop deviceId
  · simp only [AuditedManager.removeDeviceById,queue]
    exact expires.exactly.drop deviceId
  · have list : (a.manager.removeDeviceById deviceId).1.timeoutDeviceList =
        a.manager.timeoutDeviceList.erase deviceId := congrArg ExpiryQueue.queue queue
    have here := expires.known deviceId
    simp only [AuditedManager.removeDeviceById,list]
    cases stored : a.manager.deviceMap deviceId with
    | none =>
      rw [stored] at here
      have absent : deviceId ∉ a.manager.timeoutDeviceList := fun member => here.mp member rfl
      rw [List.erase_of_not_mem absent]
      exact expires.total
    | some d =>
      have member := here.mpr (by simp [stored])
      have positive := List.length_pos_of_mem member
      have count : a.audit.totalDeviceCount =
          .ofNat (a.manager.timeoutDeviceList.erase deviceId).length + .ofNat 1 := by
        rw [← UInt64.ofNat_add,List.length_erase_of_mem member,Nat.sub_add_cancel positive]
        exact expires.total
      dsimp only
      rw [count]
      exact UInt64.add_sub_cancel _ _

theorem Expires.removeDevice (expires : Expires a updated) (deviceId : Bytes) :
    Expires (a.removeDevice deviceId) (Function.update updated deviceId none) := by
  have same : a.removeDevice deviceId = a.removeDeviceById deviceId := by
    unfold AuditedManager.removeDevice
    cases stored : a.manager.deviceMap deviceId with
    | none => simp [AuditedManager.removeDeviceById,DeviceContextManager.removeDeviceById,stored]
    | some d => rw [← expires.named deviceId d stored]
  rw [same]
  exact expires.removeDeviceById deviceId

/-- A tick expires the queue. -/
theorem queue_tick (expires : Expires a updated) {nowMS : Nat} (ticks : Ticks a.manager nowMS) :
    (a.tick nowMS).manager.queue = a.manager.queue.expire nowMS (deviceDeadline.late nowMS) ∧
      Named (a.tick nowMS).manager ∧
      (a.tick nowMS).audit.totalDeviceCount = .ofNat (a.tick nowMS).manager.timeoutDeviceList.length := by
  have late : a.manager.timedOut (sub64 nowMS deviceKeepAliveTimeoutMS) =
      fun deviceId => (a.manager.queue.stamps deviceId).any (deviceDeadline.late nowMS) :=
    funext (timedOut_eq ticks.2 a.manager)
  have lapsed : a.popped nowMS = a.manager.queue.lapsed (deviceDeadline.late nowMS) := by
    rw [AuditedManager.popped,late]
    rfl
  have left : (a.unlinkPopped nowMS).manager.timeoutDeviceList =
      (a.manager.queue.expire nowMS (deviceDeadline.late nowMS)).queue := by
    rw [AuditedManager.unlinkPopped,late]
    rfl
  have poppedOnce : (a.popped nowMS).Nodup := lapsed ▸ expires.sound.lapsed_nodup _
  have known : ∀ deviceId ∈ a.popped nowMS, a.manager.deviceMap deviceId ≠ none := by
    intro deviceId member none
    rw [lapsed] at member
    exact expires.sound.lapsed_linked member (by simp [DeviceContextManager.queue,none])
  have off : ∀ deviceId ∈ a.popped nowMS, deviceId ∉ (a.unlinkPopped nowMS).manager.timeoutDeviceList := by
    intro deviceId member
    rw [left]
    exact expires.sound.lapsed_unlinked nowMS (lapsed ▸ member)
  obtain ⟨clock,queue,map,count⟩ :=
    removeTimeout_spec (a := a.unlinkPopped nowMS) expires.named poppedOnce known off
  refine ⟨?_,?_,?_⟩
  · refine ExpiryQueue.ext clock ?_ (queue.trans left)
    funext deviceId
    have found : (a.tick nowMS).manager.deviceMap deviceId =
        if deviceId ∈ a.popped nowMS then none else a.manager.deviceMap deviceId := map deviceId
    rw [lapsed] at found
    change ((a.tick nowMS).manager.deviceMap deviceId).map DeviceContext.timestampMS =
      if deviceId ∈ a.manager.queue.lapsed (deviceDeadline.late nowMS) then none
      else (a.manager.deviceMap deviceId).map DeviceContext.timestampMS
    rw [found]
    exact apply_ite (Option.map DeviceContext.timestampMS) _ none _
  · intro deviceId d here
    simp only [AuditedManager.tick,map] at here
    split at here
    · cases here
    · exact expires.named deviceId d here
  · have total : (a.unlinkPopped nowMS).audit.totalDeviceCount =
        .ofNat (a.unlinkPopped nowMS).manager.timeoutDeviceList.length + .ofNat (a.popped nowMS).length := by
      rw [← UInt64.ofNat_add,Nat.add_comm,← List.length_append,lapsed,left,ExpiryQueue.lapsed_append]
      exact expires.total
    rw [total] at count
    rw [AuditedManager.tick,queue]
    exact UInt64.add_left_inj _ |>.mp count

theorem Expires.tick (expires : Expires a updated) {nowMS : Nat} (ticks : Ticks a.manager nowMS) :
    Expires (a.tick nowMS) updated := by
  obtain ⟨queue,named,total⟩ := queue_tick expires ticks
  refine ⟨named,?_,?_,total⟩
  · rw [queue]
    exact expires.sound.expire (deviceDeadline.downward nowMS) ticks.1
  · rw [queue]
    exact expires.exactly.expire expires.sound ticks.1

theorem expires_step {c : AuditedManager × (Bytes → Option Nat)} {log : List Empty}
    (expires : Expires c.1 c.2) {e : AuditedEvent} (ticking : Ticking c log e) :
    Expires (c.1.step e) (watchUpdates c.1 e c.2) := by
  cases e with
  | resetPeriodCount => exact ⟨expires.named,expires.sound,expires.exactly,expires.total⟩
  | device e =>
    cases e with
    | serverPacket packet =>
      cases packet with
      | none => exact expires
      | some p =>
        simp only [AuditedManager.step,AuditedManager.onServerPacket,watchUpdates,DeviceEvent.update?,
          DeviceEvent.removal?]
        cases p.isOffline with
        | false => exact expires.updateDevice p.localDevInfo
        | true => exact expires.removeDeviceById p.deviceUuid
    | updateDevice info => exact expires.updateDevice info
    | removeDevice deviceId => exact expires.removeDevice deviceId
    | removeDeviceById deviceId => exact expires.removeDeviceById deviceId
    | tick nowMS => exact expires.tick ticking
    | select region id =>
      have map := (selectDevice_lists c.1.manager region id).1
      have frame : (c.1.manager.selectDevice region id).1.ticker = c.1.manager.ticker ∧
          (c.1.manager.selectDevice region id).1.timeoutDeviceList = c.1.manager.timeoutDeviceList := by
        unfold selectDevice
        split <;> exact ⟨rfl,rfl⟩
      have queue : (c.1.manager.selectDevice region id).1.queue = c.1.manager.queue := by
        simp only [DeviceContextManager.queue,map,frame]
      refine ⟨?_,?_,?_,?_⟩
      · simp only [AuditedManager.step,Named,map]
        exact expires.named
      · simp only [AuditedManager.step,queue]
        exact expires.sound
      · simp only [AuditedManager.step,queue]
        exact expires.exactly
      · simp only [AuditedManager.step,frame]
        exact expires.total

theorem expires_reach {c : AuditedManager × (Bytes → Option Nat)} {log : List Empty}
    (reach : watchedMachine.Reach Ticking c log) : Expires c.1 c.2 := by
  apply Machine.Reach.invariant (I := fun c _ => Expires c.1 c.2) ?_ ?_ reach
  · rintro ⟨_,_⟩ ⟨⟨ticker,rfl⟩,rfl⟩
    exact expires_init ticker
  · exact fun c log e _ ticking expires => expires_step expires ticking

/-- Every device that is stored is in the timeout list, once, and no other is; the audit has their
number. -/
def Accounted (a : AuditedManager) : Prop :=
  (∀ deviceId, a.manager.timeoutDeviceList.count deviceId =
      if a.manager.deviceMap deviceId = none then 0 else 1) ∧
    a.audit.totalDeviceCount = a.manager.size

theorem Expires.accounted (expires : Expires a updated) : Accounted a := by
  constructor
  · intro deviceId
    have here := expires.known deviceId
    split
    · rename_i absent
      exact List.count_eq_zero.mpr (fun member => here.mp member absent)
    · rename_i stored
      exact List.count_eq_one_of_mem expires.sound.once (here.mpr stored)
  · have once : a.manager.timeoutDeviceList.Nodup := expires.sound.once
    have same : {deviceId | a.manager.deviceMap deviceId ≠ none} =
        (a.manager.timeoutDeviceList.toFinset : Set Bytes) := by
      ext deviceId
      rw [Set.mem_ofPred_eq,← expires.known,List.coe_toFinset]
      rfl
    rw [expires.total,DeviceContextManager.size,same,Set.ncard_coe_finset,
      List.toFinset_card_of_nodup once]

/-- What a tick leaves are the devices that were updated later than the limit and not removed by
a call since. -/
def ExactAfter (a : AuditedManager) (updated : Bytes → Option Nat) (nowMS : Nat) : Prop :=
  ∀ deviceId, (a.tick nowMS).manager.deviceMap deviceId ≠ none ↔
    ∃ t, updated deviceId = some t ∧ nowMS - deviceKeepAliveTimeoutMS < t

theorem Expires.exactAfter (expires : Expires a updated) {nowMS : Nat} (ticks : Ticks a.manager nowMS) :
    ExactAfter a updated nowMS := by
  intro deviceId
  have after := expires.tick ticks
  have stamps := after.exactly deviceId
  have clock : (a.tick nowMS).manager.queue.clock = nowMS := by
    rw [(queue_tick expires ticks).1]
    rfl
  have epoch := ticks.2
  rw [← after.known,show deviceId ∈ (a.tick nowMS).manager.timeoutDeviceList ↔
    deviceId ∈ (a.tick nowMS).manager.queue.queue from Iff.rfl,after.sound.linked,stamps,clock]
  cases updated deviceId with
  | none => simp
  | some t =>
    have limit : nowMS - deviceKeepAliveTimeoutMS < t ↔ ¬ t + deviceKeepAliveTimeoutMS ≤ nowMS := by omega
    simp [Option.filter,deviceDeadline,limit]

/-- In every run of updates, removals, selections and ticks in any order. -/
theorem device_expiry_exact {c : AuditedManager × (Bytes → Option Nat)} {log : List Empty}
    (reach : watchedMachine.Reach Ticking c log) :
    Accounted c.1 ∧ ∀ nowMS, Ticks c.1.manager nowMS →
      ExactAfter c.1 c.2 nowMS ∧ Accounted (c.1.tick nowMS) := by
  have expires := expires_reach reach
  exact ⟨expires.accounted,fun nowMS ticks => ⟨expires.exactAfter ticks,(expires.tick ticks).accounted⟩⟩

/-! ## Two devices -/

/-- One device falls silent. -/
def silent : List AuditedEvent :=
  [.device (.updateDevice ⟨1,1,[100],1,10,100⟩),.device (.updateDevice ⟨1,2,[101],1,10,100⟩),
    .device (.tick 1000000),.device (.updateDevice ⟨1,2,[101],1,10,100⟩)]

abbrev silenced : AuditedManager × (Bytes → Option Nat) :=
  (watchedMachine.run ({ manager := { ticker := 900000 } },fun _ => none) silent).1

theorem device_expiry_exact_silent :
    ExactAfter silenced.1 silenced.2 1080000 ∧ (silenced.1.tick 1080000).manager.timeoutDeviceList = [[101]] := by
  have start : watchedMachine.start ({ manager := { ticker := 900000 } },fun _ => none) := ⟨⟨900000,rfl⟩,rfl⟩
  have ticking : watchedMachine.Allowed Ticking ({ manager := { ticker := 900000 } },fun _ => none) [] silent := by
    refine ⟨trivial,trivial,?_,trivial,trivial⟩
    exact ⟨by decide,by decide⟩
  have exactly := (device_expiry_exact (Machine.Reach.run (.start start) silent ticking)).2 1080000
    ⟨by decide,by decide⟩
  exact ⟨exactly.1,by decide⟩

end MiniPP.Selector
