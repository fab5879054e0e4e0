import MiniPP.Relay.Assertions

/-! The slots of the device pool. A slot is taken for every data stream that gets as far as a
new device; released devices wait on a kill list for someone to destroy them. -/
namespace MiniPP.Relay

variable {keys : Keys} {cfg : Config}

/-- `xDeviceManager::Tick` updates its clock and leaves the kill list alone. -/
def DeviceManager.tick {keys : KeySource} (m : DeviceManager keys) (_nowMS : Nat) : DeviceManager keys := m

/-- The device has a ctrl connection, and it is live. -/
def Attached (s : DeviceRelayService keys) (d : Device) : Bool :=
  d.ctrlConnection.any (fun c => (s.conn? c).isSome)

theorem attached_iff {s : DeviceRelayService keys} {d : Device} :
    Attached s d = true ↔ ∃ c, d.ctrlConnection = some c ∧ s.conn? c ≠ none := by
  simp [Attached,Option.any_eq_true,Option.isSome_iff_ne_none]

/-! ## Slots that are over -/

/-- The slot that an event is done with: a closing ctrl connection hands its device to
`ReleaseDevice`, and a data stream is refused after its device was created. -/
def returns (cfg : Config) (s : DeviceRelayService keys) : RelayEvent → Option Nat
  | .devicePeerClose c =>
    match s.conn? c with
    | some ⟨.ctrl,deviceId⟩ =>
      if (s.deviceManager.getDeviceById deviceId).isSome then some deviceId else none
    | _ => none
  | .devicePacket c (.initDataStream _ (some m)) =>
    match s.conn? c,s.conn? m.ctrlId,s.deviceManager.newDevice with
    | some ⟨.data,_⟩,some ⟨_,0⟩,some (id,_) =>
      if DeviceRelayService.geoSegment cfg m.dataKey = none then some id else none
    | _,_,_ => none
  | _ => none

/-- The tick destroys the ctrl connection of some device. -/
def cutsOff (s : DeviceRelayService keys) : RelayEvent → Bool
  | .deviceConnectionTick nowMS =>
    s.deviceManager.devicePool.entries.any (fun entry => entry.2.ctrlConnection.any (fun c =>
      DeviceConnectionManager.idleConnections (s.deviceConnectionManager.setTicker nowMS) |>.contains c))
  | _ => false

structure Slots where
  returned : List Nat := []
  cutOff : Bool := false
  deriving DecidableEq, Repr

def Slots.watch (cfg : Config) (s : DeviceRelayService keys) (e : RelayEvent) (slots : Slots) : Slots where
  returned := slots.returned ++ (returns cfg s e).toList
  cutOff := slots.cutOff || cutsOff s e

abbrev slotMachine (cfg : Config) (keys : Keys) :
    Machine (DeviceRelayService keys × Slots) RelayEvent RelayAction :=
  (relayMachine cfg keys).withGhost {} (Slots.watch cfg)

/-- As many slots are taken as devices have a live ctrl connection, and no returned slot is. -/
structure Vacated (s : DeviceRelayService keys) (manager : DeviceManager keys.device) (slots : Slots) :
    Prop where
  occupancy : manager.devicePool.entries.length =
    (manager.devicePool.entries.filter (fun entry => Attached s entry.2)).length
  returned : ∀ id ∈ slots.returned, manager.devicePool.find? id = none

/-- `DeviceManager.Tick` comes right after the tick of the connections. -/
def Vacates (cfg : Config) (x : DeviceRelayService keys × Slots) (_ : List RelayAction) (e : RelayEvent) :
    Prop :=
  ∀ nowMS, e = .deviceConnectionTick nowMS →
    let s' := (x.1.step cfg e).1
    Vacated s' (s'.deviceManager.tick nowMS) (x.2.watch cfg x.1 e)

/-- Up to this tick no slot was done with. -/
def Untouched (cfg : Config) (x : DeviceRelayService keys × Slots) (_ : List RelayAction) (e : RelayEvent) :
    Prop :=
  ∀ nowMS, e = .deviceConnectionTick nowMS → x.2.watch cfg x.1 e = {}

/-! ## What becomes of a device -/

/-- The device has no ctrl connection, or one whose id will not be handed out again. -/
def Lost (s : DeviceRelayService keys) (d : Device) : Prop :=
  ∀ c, d.ctrlConnection = some c → s.conn? c = none ∧ s.Issued c

theorem Lost.not_attached {s : DeviceRelayService keys} {d : Device} (lost : Lost s d) :
    Attached s d = false := by
  rw [← Bool.not_eq_true,attached_iff]
  rintro ⟨c,ctrl,live⟩
  exact live (lost c ctrl).1

structure Occupied (s : DeviceRelayService keys) (slots : Slots) : Prop where
  issued : ∀ id d c, s.device? id = some d → d.ctrlConnection = some c → s.Issued c
  attached : slots = {} → ∀ id d, s.device? id = some d → Attached s d = true
  lost : slots.cutOff = true → ∃ id d, s.device? id = some d ∧ Lost s d
  returned : ∀ id ∈ slots.returned, s.device? id ≠ none

/-! ## Steps -/

theorem issued_of_conn? {s : DeviceRelayService keys} {c : Nat} (known : s.conn? c ≠ none) : s.Issued c := by
  obtain ⟨conn,found⟩ := Option.ne_none_iff_exists'.mp known
  exact TimedPool.issued_of_get? found

theorem issued_kept {s : DeviceRelayService keys} (e : RelayEvent) {c : Nat} (issued : s.Issued c) :
    (s.step cfg e).1.Issued c := by
  have move := step_move cfg s e
  generalize (s.step cfg e).1 = s' at move
  cases move with
  | same _ quiet => exact (quiet.2.2 c).mpr issued
  | accepted type fresh _ devices connections after => exact (after c).mpr (.inr issued)
  | streamed _ _ _ _ _ _ _ _ _ _ _ _ _ _ _ _ _ after => exact (after c).mpr issued
  | released _ _ _ _ after => exact (after c).mpr issued
  | destroyed _ _ _ after => exact (after c).mpr issued

/-- Only a tick that cuts a device off takes its ctrl connection away. -/
theorem attached_kept {s : DeviceRelayService keys} {e : RelayEvent} (uncut : cutsOff s e = false)
    {id : Nat} {d d' : Device} (found : s.device? id = some d) (same : d'.ctrlConnection = d.ctrlConnection)
    (attached : Attached s d = true) : Attached (s.step cfg e).1 d' = true := by
  obtain ⟨c,ctrl,live⟩ := attached_iff.mp attached
  refine attached_iff.mpr ⟨c,same.trans ctrl,?_⟩
  have move := step_move cfg s e
  generalize (s.step cfg e).1 = s' at move
  cases move with
  | same _ quiet => rwa [quiet.2.1 c]
  | accepted type fresh _ devices connections =>
    rw [connections]
    split
    · simp
    · exact live
  | streamed c requestId new m conn ctrlConn device _ _ _ _ _ _ _ _ _ _ _ outcome =>
    rcases outcome with ⟨-,-,-,connections⟩ | ⟨-,-,-,connections⟩
    · rwa [connections]
    · rw [connections]
      split
      · simp
      · split
        · simp
        · exact live
  | released _ _ _ connections => rwa [connections]
  | destroyed nowMS devices connections =>
    rcases connections c with ⟨due,-⟩ | ⟨-,kept⟩
    · have listed := mem_idleConnections.mpr due
      simp only [cutsOff,List.any_eq_false] at uncut
      have unlisted := uncut (id,d) (Storage.mem_of_find? found)
      simp [ctrl,listed] at unlisted
    · rwa [kept]

theorem lost_kept {s : DeviceRelayService keys} (e : RelayEvent) {d d' : Device}
    (same : d'.ctrlConnection = d.ctrlConnection) (lost : Lost s d) : Lost (s.step cfg e).1 d' := by
  intro c ctrl
  obtain ⟨gone,issued⟩ := lost c (same ▸ ctrl)
  refine ⟨?_,issued_kept e issued⟩
  have move := step_move cfg s e
  generalize (s.step cfg e).1 = s' at move
  cases move with
  | same _ quiet => rwa [quiet.2.1 c]
  | accepted type fresh new devices connections =>
    rw [connections,if_neg ?_,gone]
    rintro rfl
    exact new issued
  | streamed sender requestId new m conn ctrlConn device known _ other _ _ _ _ _ _ _ _ outcome =>
    rcases outcome with ⟨-,-,-,connections⟩ | ⟨-,-,-,connections⟩
    · rwa [connections]
    · rw [connections,if_neg ?_,if_neg ?_,gone]
      · rintro rfl
        exact absurd (gone.symm.trans known) (by simp)
      · rintro rfl
        exact absurd (gone.symm.trans other) (by simp)
  | released _ _ _ connections => rwa [connections]
  | destroyed nowMS devices connections =>
    rcases connections c with ⟨-,none⟩ | ⟨-,kept⟩
    · exact none
    · rwa [kept]

/-- A new device has a live ctrl connection, or its slot is done with at once. -/
theorem device_new {s : DeviceRelayService keys} {e : RelayEvent} {id : Nat} {d : Device}
    (fresh : s.device? id = none) (made : (s.step cfg e).1.device? id = some d) :
    Attached (s.step cfg e).1 d = true ∨ (d.ctrlConnection = none ∧ returns cfg s e ≠ none) := by
  obtain ⟨c,requestId,m,ctrlConn,rfl,⟨deviceId,sender⟩,ctrl,unbound,room,-,outcome⟩ :=
    streamed_of_new fresh made
  rcases outcome with ⟨malformed,noCtrl,-⟩ | ⟨-,toCtrl,-,live⟩
  · refine .inr ⟨noCtrl,?_⟩
    obtain ⟨created,slot⟩ := Option.ne_none_iff_exists'.mp room
    obtain ⟨ctrlKind,ctrlDevice⟩ := ctrlConn
    obtain rfl : ctrlDevice = 0 := unbound
    simp [returns,sender,ctrl,slot,malformed]
  · exact .inl (attached_iff.mpr ⟨m.ctrlId,toCtrl,live⟩)

/-- A slot that is done with stays taken. -/
theorem returns_taken {s : DeviceRelayService keys} {e : RelayEvent} {id : Nat}
    (returned : returns cfg s e = some id) : (s.step cfg e).1.device? id ≠ none := by
  unfold returns at returned
  split at returned
  · rename_i c
    split at returned
    · split at returned
      · rename_i live
        obtain rfl := Option.some.inj returned
        obtain ⟨d,known⟩ := Option.isSome_iff_exists.mp live
        obtain ⟨d',kept,-⟩ := device_kept cfg (getDeviceById_iff.mp known).1 (.devicePeerClose c)
        simp [kept]
      · cases returned
    · cases returned
  · rename_i c requestId m
    split at returned
    · rename_i deviceId kind id' manager sender ctrl slot
      split at returned
      · rename_i malformed
        obtain rfl := Option.some.inj returned
        have known : s.deviceConnectionManager.getConnectionById c = some ⟨.data,deviceId⟩ := sender
        have named : s.deviceConnectionManager.getConnectionById m.ctrlId = some ⟨kind,0⟩ := ctrl
        simp [DeviceRelayService.step,known,DeviceRelayService.onDevicePacket,
          DeviceRelayService.onDataPacket,DeviceRelayService.onTerminalInitDataStream,named,slot,malformed,
          (newDevice_spec slot).2.2]
      · cases returned
    · cases returned
  · cases returned

/-! ## Runs -/

theorem watch_eq_nothing {s : DeviceRelayService keys} {e : RelayEvent} {slots : Slots} :
    slots.watch cfg s e = {} ↔ slots = {} ∧ returns cfg s e = none ∧ cutsOff s e = false := by
  obtain ⟨returned,cutOff⟩ := slots
  simp only [Slots.watch,Slots.mk.injEq,List.append_eq_nil_iff,Option.toList_eq_nil_iff,
    Bool.or_eq_false_iff]
  exact and_and_and_comm

theorem cutsOff_lost {s : DeviceRelayService keys} (issued : ∀ id d c, s.device? id = some d →
    d.ctrlConnection = some c → s.Issued c) {e : RelayEvent} (cut : cutsOff s e = true) :
    ∃ id d, (s.step cfg e).1.device? id = some d ∧ Lost (s.step cfg e).1 d := by
  cases e with
  | deviceConnectionTick nowMS =>
    simp only [cutsOff,List.any_eq_true,Option.any_eq_true,List.contains_iff_mem] at cut
    obtain ⟨⟨id,d⟩,member,c,ctrl,listed⟩ := cut
    have found : s.device? id = some d := Storage.find?_of_mem member
    refine ⟨id,d,found,fun other names => ?_⟩
    obtain rfl : c = other := Option.some.inj (ctrl.symm.trans names)
    refine ⟨?_,issued_kept _ (issued id d c found ctrl)⟩
    have gone := TimedPool.get?_destroyAll (s.deviceConnectionManager.setTicker nowMS)
      (DeviceConnectionManager.idleConnections (s.deviceConnectionManager.setTicker nowMS)) c
    exact gone.trans (if_pos listed)
  | _ => simp [cutsOff] at cut

theorem occupied_step {s : DeviceRelayService keys} {slots : Slots} (held : Occupied s slots) (e : RelayEvent) :
    Occupied (s.step cfg e).1 (slots.watch cfg s e) := by
  refine ⟨?issued,?attached,?lost,?returned⟩
  case issued =>
    intro id d' c found ctrl
    cases before : s.device? id with
    | some d =>
      obtain ⟨d'',kept,-,same,-⟩ := device_kept cfg before e
      obtain rfl := Option.some.inj (kept.symm.trans found)
      exact issued_kept e (held.issued id d c before (same ▸ ctrl))
    | none =>
      rcases device_new before found with attached | ⟨none,-⟩
      · obtain ⟨c',ctrl',live⟩ := attached_iff.mp attached
        obtain rfl := Option.some.inj (ctrl'.symm.trans ctrl)
        exact issued_of_conn? live
      · exact absurd (none.symm.trans ctrl) (by simp)
  case attached =>
    intro nothing id d' found
    obtain ⟨quiet,unreturned,uncut⟩ := watch_eq_nothing.mp nothing
    cases before : s.device? id with
    | some d =>
      obtain ⟨d'',kept,-,same,-⟩ := device_kept cfg before e
      obtain rfl := Option.some.inj (kept.symm.trans found)
      exact attached_kept uncut before same (held.attached quiet id d before)
    | none =>
      rcases device_new before found with attached | ⟨-,returned⟩
      · exact attached
      · exact absurd unreturned returned
  case lost =>
    intro cut
    rcases Bool.or_eq_true_iff.mp cut with old | new
    · obtain ⟨id,d,found,lost⟩ := held.lost old
      obtain ⟨d',kept,-,same,-⟩ := device_kept cfg found e
      exact ⟨id,d',kept,lost_kept e same lost⟩
    · exact cutsOff_lost held.issued new
  case returned =>
    intro id member
    rcases List.mem_append.mp member with old | new
    · obtain ⟨d,found⟩ := Option.ne_none_iff_exists'.mp (held.returned id old)
      obtain ⟨d',kept,-⟩ := device_kept cfg found e
      simp [kept]
    · exact returns_taken (Option.mem_toList.mp new)

theorem occupied_run {x : DeviceRelayService keys × Slots} {log : List RelayAction}
    {ok : DeviceRelayService keys × Slots → List RelayAction → RelayEvent → Prop}
    (reach : (slotMachine cfg keys).Reach ok x log) : Occupied x.1 x.2 := by
  apply reach.invariant (I := fun x _ => Occupied x.1 x.2)
  · rintro ⟨s,slots⟩ ⟨⟨ticker,_,_,_,_,rfl⟩,rfl⟩
    refine ⟨?_,?_,by simp,by simp⟩ <;> intro id <;>
      simp [DeviceRelayService.init,DeviceManager.init,DeviceRelayService.device?]
  · exact fun _ _ e _ _ held => occupied_step held e

theorem vacated_iff {s : DeviceRelayService keys} {slots : Slots} (held : Occupied s slots) :
    Vacated s s.deviceManager slots ↔ slots = {} := by
  constructor
  · rintro ⟨occupancy,returned⟩
    have all : ∀ entry ∈ s.deviceManager.devicePool.entries, Attached s entry.2 = true :=
      List.length_filter_eq_length_iff.mp occupancy.symm
    have none : slots.returned = [] :=
      List.eq_nil_iff_forall_not_mem.mpr fun id member => held.returned id member (returned id member)
    have uncut : slots.cutOff = false := by
      by_contra cut
      obtain ⟨id,d,found,lost⟩ := held.lost (by simpa using cut)
      have attached := all (id,d) (Storage.mem_of_find? found)
      simp [lost.not_attached] at attached
    obtain ⟨ids,cutOff⟩ := slots
    subst none uncut
    rfl
  · rintro rfl
    refine ⟨(List.length_filter_eq_length_iff.mpr fun entry member => ?_).symm,by simp⟩
    exact held.attached rfl entry.1 entry.2 (Storage.find?_of_mem member)

/-- No slot is ever given back: in a run the pool is as full as devices are attached just as
long as none of them has been returned or cut off. -/
theorem device_slots_vacated {x : DeviceRelayService keys × Slots} (start : (slotMachine cfg keys).start x)
    (es : List RelayEvent) :
    (slotMachine cfg keys).Allowed (Vacates cfg) x [] es ↔
      (slotMachine cfg keys).Allowed (Untouched cfg) x [] es := by
  refine Machine.allowed_iff (fun x _ e reach => ?_) (.start start) es
  refine forall_congr' fun nowMS => forall_congr' fun _ => ?_
  exact vacated_iff (occupied_step (occupied_run reach) e)

/-- A device registers and the relay ticks; then its ctrl connection is closed, and the relay
ticks again. -/
def registered : List RelayEvent := registration ++ [.deviceConnectionTick 1000500]

def closed : List RelayEvent := registered ++ [.devicePeerClose 1,.deviceConnectionTick 1000501]

theorem device_slots_vacated_registered :
    (slotMachine referenceConfig .sequential).Allowed (Vacates referenceConfig) (smallRelay,{}) []
      registered := by
  refine (device_slots_vacated ⟨⟨_,_,_,_,_,rfl⟩,rfl⟩ registered).mpr
    ⟨?_,?_,?_,?_,?_,trivial⟩
  iterate 4 exact fun _ tick => by cases tick
  intro nowMS tick
  decide

/-- The slot of the closed device is still taken after the tick. -/
theorem closed_device_keeps_slot :
    ¬ ∀ x es, (slotMachine referenceConfig .sequential).start x →
      (slotMachine referenceConfig .sequential).Allowed (Vacates referenceConfig) x [] es := by
  intro always
  have vacates := always (smallRelay,{}) closed ⟨⟨_,_,_,_,_,rfl⟩,rfl⟩
  obtain ⟨-,-,-,-,-,-,last,-⟩ := vacates
  exact absurd ((last 1000501 rfl).returned 1 (by decide)) (by decide)

end MiniPP.Relay
