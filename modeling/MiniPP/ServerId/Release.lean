import MiniPP.ServerId.Uniqueness

/-! Which ids are taken back: those that are outstanding, and no other number of 64 bits. -/
namespace MiniPP.ServerId

variable {σ : Type} {ids : ObjectIdManager σ}

/-! ## The manager by itself -/

inductive IdEvent where
  | acquire (drawn : UInt32)
  | regain (drawn : UInt32) (serverId : UInt64)
  | release (serverId : UInt64)
  deriving DecidableEq

/-- Only an id that is not 0 has been given. -/
inductive IdAction where
  | given (serverId : Nat)
  | released (serverId : Nat)
  | assertion
  deriving DecidableEq, Repr

/-- Nothing happens any more once an assertion has failed. -/
structure IdProcess (σ : Type) where
  manager : ServerIdManager σ
  aborted : Bool := false

namespace IdProcess

def gain (s : IdProcess σ) : Option (Nat × ServerIdManager σ) → IdProcess σ × List IdAction
  | none => ({ s with aborted := true },[.assertion])
  | some (serverId,manager) => ({ s with manager },if serverId = 0 then [] else [.given serverId])

def step (ids : ObjectIdManager σ) (s : IdProcess σ) (e : IdEvent) : IdProcess σ × List IdAction :=
  if s.aborted then (s,[])
  else match e with
    | .acquire drawn => s.gain (s.manager.acquireServerId ids drawn)
    | .regain drawn serverId => s.gain (s.manager.regainServerId ids drawn serverId.toNat)
    | .release serverId =>
      match s.manager.releaseServerId ids serverId.toNat with
      | none => ({ s with aborted := true },[.assertion])
      | some (accepted,manager) => ({ s with manager },if accepted then [.released serverId.toNat] else [])

end IdProcess

def idMachine (ids : ObjectIdManager σ) : Machine (IdProcess σ) IdEvent IdAction where
  start s := s = { manager := .init ids }
  step := IdProcess.step ids

/-! ## What is said of an id -/

def track (serverId : Nat) (outstanding : Bool) : IdAction → Bool
  | .given other => outstanding || decide (other = serverId)
  | .released other => outstanding && !decide (other = serverId)
  | .assertion => outstanding

/-- The id was given, and was not released since. -/
def Outstanding (serverId : Nat) (log : List IdAction) : Prop := log.foldl (track serverId) false = true

def vacate (serverId : Nat) (vacated : Bool) : IdAction → Bool
  | .given other => vacated && !decide (idIndex other = idIndex serverId)
  | .released other => vacated || decide (other = serverId)
  | .assertion => vacated

/-- The id was released, and its index was not given since. -/
def Vacated (serverId : Nat) (log : List IdAction) : Prop := log.foldl (vacate serverId) false = true

/-- The id is taken back just if it is outstanding, and nothing changes if it is not. -/
def ReleasesExactly (ids : ObjectIdManager σ) (m : ServerIdManager σ) (log : List IdAction) (serverId : Nat) : Prop :=
  ∃ accepted m', m.releaseServerId ids serverId = some (accepted,m') ∧
    (accepted = true ↔ Outstanding serverId log) ∧ (accepted = false → m' = m)

/-- An id with an index of the manager has a random part. -/
def HasRandom (ids : ObjectIdManager σ) (serverId : Nat) : Prop :=
  idIndex serverId ≠ 0 → idIndex serverId ≤ ids.maxObjectId → idRandom serverId ≠ 0

/-- Whatever is released has a random part. -/
def WellReleased (ids : ObjectIdManager σ) (_ : IdProcess σ) (_ : List IdAction) : IdEvent → Prop
  | .release serverId => HasRandom ids serverId.toNat
  | _ => True

theorem outstanding_given {serverId other : Nat} {log : List IdAction} :
    Outstanding serverId (log ++ [.given other]) ↔ Outstanding serverId log ∨ other = serverId := by
  simp [Outstanding,track]

theorem outstanding_released {serverId other : Nat} {log : List IdAction} :
    Outstanding serverId (log ++ [.released other]) ↔ Outstanding serverId log ∧ other ≠ serverId := by
  simp [Outstanding,track]

theorem vacated_given {serverId other : Nat} {log : List IdAction} :
    Vacated serverId (log ++ [.given other]) ↔ Vacated serverId log ∧ idIndex other ≠ idIndex serverId := by
  simp [Vacated,vacate]

theorem vacated_released {serverId other : Nat} {log : List IdAction} :
    Vacated serverId (log ++ [.released other]) ↔ Vacated serverId log ∨ other = serverId := by
  simp [Vacated,vacate]

/-! ## Ids of 64 bits -/

/-- The three fields are all of an id. -/
theorem fields_injective {serverId other : Nat} (word : serverId < 2^64) (word' : other < 2^64)
    (index : idIndex serverId = idIndex other) (random : idRandom serverId = idRandom other)
    (check : idCheckSum serverId = idCheckSum other) : serverId = other := by
  unfold idIndex idRandom idCheckSum high32 low32 at *
  omega

theorem acquireServerId_lt {m m' : ServerIdManager σ} {drawn : UInt32} {serverId : Nat}
    (acquired : m.acquireServerId ids drawn = some (serverId,m')) : serverId < 2^64 := by
  unfold ServerIdManager.acquireServerId at acquired
  dsimp only at acquired
  split at acquired
  · obtain ⟨rfl,-⟩ := Prod.mk.inj (Option.some.inj acquired)
    exact Nat.two_pow_pos 64
  · split at acquired
    · cases acquired
    · rename_i checkSum sum
      obtain ⟨rfl,-⟩ := Prod.mk.inj (Option.some.inj acquired)
      have low := generateCheckSum_lt sum
      omega

theorem regainServerId_lt {m m' : ServerIdManager σ} {drawn : UInt32} {previous serverId : Nat}
    (word : previous < 2^64) (regained : m.regainServerId ids drawn previous = some (serverId,m')) :
    serverId < 2^64 := by
  unfold ServerIdManager.regainServerId at regained
  dsimp only at regained
  split at regained
  · exact acquireServerId_lt regained
  split at regained
  · exact acquireServerId_lt regained
  split at regained
  · cases regained
  split at regained
  · exact acquireServerId_lt regained
  split at regained
  · exact acquireServerId_lt regained
  split at regained
  · obtain ⟨rfl,-⟩ := Prod.mk.inj (Option.some.inj regained)
    exact word
  · cases regained

/-- An id that is in use is the only one of its index. -/
theorem InUse.unique {m : ServerIdManager σ} {serverId other : Nat} (used : InUse ids m serverId)
    (used' : InUse ids m other) (word : serverId < 2^64) (word' : other < 2^64)
    (index : idIndex serverId = idIndex other) : serverId = other := by
  have random : idRandom serverId = idRandom other := by
    rw [← used.slot,← used'.slot,index]
  apply fields_injective word word' index random
  have sum := used.checkSum
  rw [index,random,used'.checkSum] at sum
  exact (Option.some.inj sum).symm

/-- Whether an id is in use shows in its own slot. -/
theorem inUse_congr {m m' : ServerIdManager σ} {serverId : Nat} (slot : 1 ≤ idIndex serverId →
      m'.randomPool (idIndex serverId - 1) = m.randomPool (idIndex serverId - 1)) :
    InUse ids m' serverId ↔ InUse ids m serverId := by
  constructor
  · rintro ⟨range,odd,sum,here⟩
    exact ⟨range,odd,sum,(slot range.1).symm.trans here⟩
  · rintro ⟨range,odd,sum,here⟩
    exact ⟨range,odd,sum,(slot range.1).trans here⟩

/-- What happens to one slot leaves the others as they are. -/
theorem slot_update {m m' : ServerIdManager σ} {serverId id random : Nat} (pos : 1 ≤ id)
    (slots : m'.randomPool = Function.update m.randomPool (id - 1) random) (apart : idIndex serverId ≠ id)
    (range : 1 ≤ idIndex serverId) :
    m'.randomPool (idIndex serverId - 1) = m.randomPool (idIndex serverId - 1) := by
  have other : idIndex serverId - 1 ≠ id - 1 := fun same => apart (pred_injective range pos same)
  rw [slots,Function.update_of_ne other]

/-! ## Runs -/

/-- An id could be given back to whom it was released by. -/
structure Regainable (ids : ObjectIdManager σ) (m : ServerIdManager σ) (serverId : Nat) : Prop where
  index : 1 ≤ idIndex serverId ∧ idIndex serverId ≤ ids.maxObjectId
  random : 0 < idRandom serverId
  checkSum : generateCheckSum (idIndex serverId) (idRandom serverId) = some (idCheckSum serverId)
  slot : m.randomPool (idIndex serverId - 1) = 0

theorem Regainable.congr {m m' : ServerIdManager σ} {serverId : Nat} (regainable : Regainable ids m serverId)
    (slot : m'.randomPool (idIndex serverId - 1) = m.randomPool (idIndex serverId - 1)) :
    Regainable ids m' serverId where
  index := regainable.index
  random := regainable.random
  checkSum := regainable.checkSum
  slot := slot.trans regainable.slot

structure Exact (ids : ObjectIdManager σ) (m : ServerIdManager σ) (log : List IdAction) : Prop where
  free : SlotsFree ids m
  outstanding : ∀ serverId < 2^64, InUse ids m serverId ↔ Outstanding serverId log
  vacated : ∀ serverId < 2^64, Vacated serverId log → Regainable ids m serverId

theorem exact_init : Exact ids (.init ids) [] where
  free id := by simp [ServerIdManager.init,ids.free_init]
  outstanding serverId _ := by
    apply iff_of_false
    · intro used
      have slot := used.slot
      have random := used.random
      simp only [ServerIdManager.init] at slot
      omega
    · simp [Outstanding]
  vacated serverId _ gone := by simp [Vacated] at gone

/-- An id is given, or there was none to give. -/
theorem Exact.gain {s : IdProcess σ} {log : List IdAction} (exact_ : Exact ids s.manager log) {serverId : Nat}
    {m' : ServerIdManager σ} (word : serverId < 2^64) (gained : Gained ids s.manager serverId m') :
    Exact ids (s.gain (some (serverId,m'))).1.manager (log ++ (s.gain (some (serverId,m'))).2) := by
  obtain ⟨free,⟨rfl,same⟩ | ⟨empty,new,slots⟩⟩ := gained
  · simp only [IdProcess.gain,if_true,List.append_nil]
    refine ⟨free,fun other small => ?_,fun other small gone => ?_⟩
    · rw [← exact_.outstanding other small]
      apply inUse_congr
      intro _
      rw [same]
    · apply (exact_.vacated other small gone).congr
      rw [same]
  · have some_ : serverId ≠ 0 := by
      rintro rfl
      exact absurd new.index.1 (by decide)
    simp only [IdProcess.gain,if_neg some_]
    refine ⟨free,fun other small => ?_,fun other small gone => ?_⟩
    · rw [outstanding_given,← exact_.outstanding other small]
      by_cases index : idIndex other = idIndex serverId
      · -- the slot was 0, so no id of this index was in use
        have unused : ¬ InUse ids s.manager other := by
          intro used
          have slot := used.slot
          have random := used.random
          rw [index,empty] at slot
          omega
        constructor
        · intro used
          exact .inr (new.unique used word small index.symm)
        · rintro (used | rfl)
          · exact absurd used unused
          · exact new
      · rw [inUse_congr (slot_update new.index.1 slots index)]
        constructor
        · exact .inl
        · rintro (used | rfl)
          · exact used
          · exact absurd rfl index
    · obtain ⟨before,apart⟩ := vacated_given.mp gone
      have regainable := exact_.vacated other small before
      exact regainable.congr (slot_update new.index.1 slots (Ne.symm apart) regainable.index.1)

/-- What a release does with a number that has a random part. -/
theorem releaseServerId_cases {m : ServerIdManager σ} (free : SlotsFree ids m) {serverId : Nat}
    (random : HasRandom ids serverId) :
    (InUse ids m serverId ∧ ∃ m', m.releaseServerId ids serverId = some (true,m') ∧ SlotsFree ids m' ∧
      m'.randomPool = Function.update m.randomPool (idIndex serverId - 1) 0) ∨
    (¬ InUse ids m serverId ∧ m.releaseServerId ids serverId = some (false,m)) := by
  by_cases used : InUse ids m serverId
  · exact .inl ⟨used,releaseServerId_spec free used⟩
  · refine .inr ⟨used,?_⟩
    unfold ServerIdManager.releaseServerId
    dsimp only
    split
    · rfl
    · rename_i range
      have range : 1 ≤ idIndex serverId ∧ idIndex serverId ≤ ids.maxObjectId := by omega
      have odd : 0 < idRandom serverId := Nat.pos_of_ne_zero (random (by omega) range.2)
      obtain ⟨checkSum,sum⟩ := generateCheckSum_isSome range.1 odd
      rw [sum]
      dsimp only
      split
      · rfl
      · rename_i check
        have check : idCheckSum serverId = checkSum := not_not.mp check
        split
        · rfl
        · rename_i slot
          exact absurd ⟨range,odd,check ▸ sum,not_not.mp slot⟩ used

theorem exact_released {m m' : ServerIdManager σ} {log : List IdAction} (exact_ : Exact ids m log) {serverId : Nat}
    (word : serverId < 2^64) (used : InUse ids m serverId) (free : SlotsFree ids m')
    (slots : m'.randomPool = Function.update m.randomPool (idIndex serverId - 1) 0) :
    Exact ids m' (log ++ [.released serverId]) := by
  have empty : m'.randomPool (idIndex serverId - 1) = 0 := by
    rw [slots]
    exact Function.update_self ..
  refine ⟨free,fun other small => ?_,fun other small gone => ?_⟩
  · rw [outstanding_released,← exact_.outstanding other small]
    by_cases index : idIndex other = idIndex serverId
    · apply iff_of_false
      · intro used'
        have slot := used'.slot
        have random := used'.random
        rw [index,empty] at slot
        omega
      · rintro ⟨used',apart⟩
        exact apart (used.unique used' word small index.symm)
    · rw [inUse_congr (slot_update used.index.1 slots index)]
      constructor
      · intro used'
        refine ⟨used',?_⟩
        rintro rfl
        exact index rfl
      · exact And.left
  · obtain before | rfl := vacated_released.mp gone
    · obtain ⟨range,odd,sum,slot⟩ := exact_.vacated other small before
      refine ⟨range,odd,sum,?_⟩
      rw [slots]
      by_cases same : idIndex other - 1 = idIndex serverId - 1
      · rw [same,Function.update_self]
      · rw [Function.update_of_ne same]
        exact slot
    · exact ⟨used.index,used.random,used.checkSum,empty⟩

theorem exact_run {s : IdProcess σ} {log : List IdAction}
    (reach : (idMachine ids).Reach (WellReleased ids) s log) : s.aborted = false ∧ Exact ids s.manager log := by
  apply Machine.Reach.invariant (I := fun s log => s.aborted = false ∧ Exact ids s.manager log) ?_ ?_ reach
  · rintro _ rfl
    exact ⟨rfl,exact_init⟩
  · rintro s log e _ allowed ⟨running,exact_⟩
    simp only [idMachine,IdProcess.step,running,Bool.false_eq_true,if_false]
    cases e with
    | acquire drawn =>
      obtain ⟨serverId,m',acquired,gained⟩ := acquireServerId_spec exact_.free drawn
      dsimp only
      rw [acquired]
      exact ⟨running,exact_.gain (acquireServerId_lt acquired) gained⟩
    | regain drawn previous =>
      obtain ⟨serverId,m',regained,gained⟩ := regainServerId_spec exact_.free drawn previous.toNat
      dsimp only
      rw [regained]
      exact ⟨running,exact_.gain (regainServerId_lt previous.toNat_lt regained) gained⟩
    | release serverId =>
      dsimp only
      obtain ⟨used,m',released,free,slots⟩ | ⟨-,refused⟩ := releaseServerId_cases exact_.free allowed
      · rw [released]
        exact ⟨rfl,exact_released exact_ serverId.toNat_lt used free slots⟩
      · rw [refused]
        exact ⟨rfl,by simpa using exact_⟩

/-- An id whose index is free is given again to who asks for it. -/
theorem regain_of_regainable {m : ServerIdManager σ} (free : SlotsFree ids m) {serverId : Nat}
    (regainable : Regainable ids m serverId) (drawn : UInt32) :
    ∃ m', m.regainServerId ids drawn serverId = some (serverId,m') := by
  obtain ⟨range,random,sum,slot⟩ := regainable
  have some_ : serverId ≠ 0 := by
    rintro rfl
    exact absurd range.1 (by decide)
  have usable : ¬ (idIndex serverId = 0 ∨ ids.maxObjectId < idIndex serverId ∨ idRandom serverId = 0) := by omega
  have acquired := (ids.acquireId_spec m.idManager (idIndex serverId)).1.mpr ((free _).mpr ⟨range,slot⟩)
  simp [ServerIdManager.regainServerId,some_,usable,sum,slot,acquired]

/-- In every run whose releases are of ids with a random part, a release is exact just for those,
and an id that was released is regained until its index is given again. -/
theorem release_exact {s : IdProcess σ} {log : List IdAction}
    (reach : (idMachine ids).Reach (WellReleased ids) s log) :
    s.aborted = false ∧ ∀ serverId : UInt64,
      (ReleasesExactly ids s.manager log serverId.toNat ↔ HasRandom ids serverId.toNat) ∧
      (Vacated serverId.toNat log → ∀ drawn,
        ∃ m', s.manager.regainServerId ids drawn serverId.toNat = some (serverId.toNat,m')) := by
  obtain ⟨running,exact_⟩ := exact_run reach
  refine ⟨running,fun serverId => ⟨?_,fun gone drawn => ?_⟩⟩
  · constructor
    · -- without a random part the checksum is asserted not to be asked for
      rintro ⟨accepted,m',released,-⟩ index range zero
      have failed : s.manager.releaseServerId ids serverId.toNat = none := by
        simp [ServerIdManager.releaseServerId,index,Nat.not_lt.mpr range,generateCheckSum,zero]
      rw [failed] at released
      cases released
    · intro random
      have outstanding := exact_.outstanding serverId.toNat serverId.toNat_lt
      obtain ⟨used,m',released,-,-⟩ | ⟨unused,refused⟩ := releaseServerId_cases exact_.free random
      · exact ⟨true,m',released,iff_of_true rfl (outstanding.mp used),fun no => by cases no⟩
      · exact ⟨false,_,refused,iff_of_false Bool.false_ne_true (mt outstanding.mpr unused),fun _ => rfl⟩
  · exact regain_of_regainable exact_.free (exact_.vacated _ serverId.toNat_lt gone) drawn

/-- The first id that is given when the generator draws 7. -/
def firstId : UInt64 := 25859030659548

abbrev firstReleased : IdProcess (List Nat) × List IdAction :=
  (idMachine hundredIds).run { manager := .init hundredIds } [.acquire 7,.release firstId]

/-- The first id is released, and can be regained. -/
theorem release_exact_first :
    ReleasesExactly hundredIds firstReleased.1.manager firstReleased.2 firstId.toNat ∧
      ∃ m', firstReleased.1.manager.regainServerId hundredIds 9 firstId.toNat = some (firstId.toNat,m') := by
  have start : (idMachine hundredIds).start { manager := .init hundredIds } := rfl
  have random : HasRandom hundredIds firstId.toNat := fun _ _ => by decide
  have allowed : (idMachine hundredIds).Allowed (WellReleased hundredIds) { manager := .init hundredIds } []
      [.acquire 7,.release firstId] := ⟨trivial,random,trivial⟩
  have reach : (idMachine hundredIds).Reach (WellReleased hundredIds) firstReleased.1 firstReleased.2 := by
    simpa using Machine.Reach.run (.start start) _ allowed
  obtain ⟨-,all⟩ := release_exact reach
  have gone : Vacated firstId.toNat firstReleased.2 := by
    unfold Vacated
    decide
  exact ⟨(all firstId).1.mpr random,(all firstId).2 gone 9⟩

/-- Index 1, no random part, and the checksum of both: an assertion fails. -/
theorem release_without_random :
    ¬ ∀ s log, (idMachine hundredIds).Reach Machine.anything s log → s.aborted = false → ∀ serverId : UInt64,
      ReleasesExactly hundredIds s.manager log serverId.toNat := by
  intro always
  have start : (idMachine hundredIds).start { manager := .init hundredIds } := rfl
  obtain ⟨accepted,m',released,-⟩ := always _ _ (.start start) rfl 17592186044417
  have failed : (ServerIdManager.init hundredIds).releaseServerId hundredIds 17592186044417 = none := by decide
  cases failed.symm.trans released

end MiniPP.ServerId
