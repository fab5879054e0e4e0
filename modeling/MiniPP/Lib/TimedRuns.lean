import Mathlib.Data.List.Count
import MiniPP.Lib.TimedLife

/-! Runs of a timed pool under a policy: how long newcomers and idle members may stay
untouched, and which members a keep-alive counts for. -/
namespace MiniPP

/-- What happens to a member, with the time at which it does. Calls are logged whether or not
they move the member. -/
inductive LifeAction where
  | accepted (id time : Nat)
  | keptAlive (id time : Nat)
  | approved (id time : Nat)
  | destroyed (id : Nat)
  deriving DecidableEq, Repr

def LifeAction.id : LifeAction → Nat
  | .accepted id _ | .keptAlive id _ | .approved id _ | .destroyed id => id

inductive LifeEvent (α : Type) where
  | accept (value : α)
  | keepAlive (id : Nat)
  | approve (id : Nat)
  | giveUp (id : Nat)
  | tick (nowMS : Nat)

/-- A keep-alive counts for members that are ready; every member starts ready, or it becomes
so by being approved. Limits are functions of the present time. -/
structure LifePolicy (α : Type) where
  newcomerLimit : Nat → Nat
  idleLimit : Nat → Nat
  ready : α → Bool
  startsReady : Bool
  approve : α → α
  approves : ∀ value, ready (approve value) = true

namespace LifePolicy

variable {keys : KeySource} {α : Type}

def keepAlive (policy : LifePolicy α) (p : TimedPool keys α) (id : Nat) : TimedPool keys α :=
  if (p.get? id).any policy.ready then p.keepAlive id else p

/-- What a tick at the present time destroys. -/
def expired (policy : LifePolicy α) (p : TimedPool keys α) : List Nat :=
  p.expired (policy.newcomerLimit p.ticker) (policy.idleLimit p.ticker)

def step (policy : LifePolicy α) (p : TimedPool keys α) : LifeEvent α → TimedPool keys α × List LifeAction
  | .accept value =>
    match p.accept value with
    | none => (p,[])
    | some (id,p') => (p',[.accepted id p.ticker])
  | .keepAlive id => (policy.keepAlive p id,[.keptAlive id p.ticker])
  | .approve id => (policy.keepAlive (p.modify id policy.approve) id,[.approved id p.ticker])
  | .giveUp id => (p.giveUp id,[])
  | .tick nowMS =>
    let p := p.setTicker nowMS
    (p.destroyAll (policy.expired p),(policy.expired p).map .destroyed)

def machine (policy : LifePolicy α) (keys : KeySource) :
    Machine (TimedPool keys α) (LifeEvent α) LifeAction where
  start p := ∃ ticker capacity, p = .init keys α ticker capacity
  step p e := policy.step p e

/-- Calls are made on members, and the clock does not go back. -/
def Regular (policy : LifePolicy α) (p : TimedPool keys α) (_ : List LifeAction) : LifeEvent α → Prop
  | .accept value => policy.ready value = policy.startsReady
  | .keepAlive id | .approve id | .giveUp id => p.get? id ≠ none
  | .tick nowMS => p.ticker ≤ nowMS

/-- Some call has counted for the member. -/
def Approved (policy : LifePolicy α) (id : Nat) (log : List LifeAction) : Prop :=
  (∃ t, .approved id t ∈ log) ∨ (policy.startsReady = true ∧ ∃ t, .keptAlive id t ∈ log)

/-- What the pool and the log say of one id. -/
structure Life (policy : LifePolicy α) (p : TimedPool keys α) (log : List LifeAction) (id : Nat) :
    Prop where
  ready : ∀ value, p.get? id = some value →
    (policy.ready value = true ↔ policy.startsReady = true ∨ ∃ t, .approved id t ∈ log)
  newcomer : id ∈ p.newcomers → .accepted id (p.stamp id) ∈ log ∧ ¬ policy.Approved id log
  idle : id ∈ p.idle → policy.Approved id log ∧
    (.keptAlive id (p.stamp id) ∈ log ∨ .approved id (p.stamp id) ∈ log)
  once : ∀ t t', .accepted id t ∈ log → .accepted id t' ∈ log → t = t'
  lives : ∀ t, .accepted id t ∈ log → .destroyed id ∈ log ∨ p.get? id ≠ none
  deaths : log.count (.destroyed id) ≤ 1 ∧ (p.get? id ≠ none → .destroyed id ∉ log)

structure Invariant (policy : LifePolicy α) (p : TimedPool keys α) (log : List LifeAction) : Prop where
  valid : p.Valid
  issued : ∀ a ∈ log, p.members.Issued a.id
  lives : ∀ id, policy.Life p log id

/-! ## Frames -/

theorem approved_congr {policy : LifePolicy α} {log log' : List LifeAction} {id : Nat}
    (same : ∀ a, a.id = id → (a ∈ log' ↔ a ∈ log)) :
    policy.Approved id log' ↔ policy.Approved id log := by
  have approved (t : Nat) := same (.approved id t) rfl
  have keptAlive (t : Nat) := same (.keptAlive id t) rfl
  simp only [Approved,approved,keptAlive]

/-- An id of which neither the pool nor the log says anything new. -/
theorem Life.frame {policy : LifePolicy α} {p p' : TimedPool keys α} {log out : List LifeAction} {id : Nat}
    (life : policy.Life p log id) (value : p'.get? id = p.get? id) (stamp : p'.stamp id = p.stamp id)
    (newcomers : id ∈ p'.newcomers → id ∈ p.newcomers) (idle : id ∈ p'.idle → id ∈ p.idle)
    (silent : ∀ a ∈ out, a.id ≠ id) : policy.Life p' (log ++ out) id := by
  have same (a : LifeAction) (about : a.id = id) : a ∈ log ++ out ↔ a ∈ log := by
    rw [List.mem_append]
    exact or_iff_left (fun member => silent a member about)
  have accepted (t : Nat) := same (.accepted id t) rfl
  have keptAlive (t : Nat) := same (.keptAlive id t) rfl
  have approved (t : Nat) := same (.approved id t) rfl
  have destroyed := same (.destroyed id) rfl
  have none : out.count (.destroyed id) = 0 := List.count_eq_zero.mpr (fun member => silent _ member rfl)
  refine ⟨?_,?_,?_,?_,?_,?_⟩
  · simpa only [value,approved] using life.ready
  · intro member
    rw [stamp,accepted,approved_congr same]
    exact life.newcomer (newcomers member)
  · intro member
    rw [stamp,keptAlive,approved,approved_congr same]
    exact life.idle (idle member)
  · simpa only [accepted] using life.once
  · simpa only [value,accepted,destroyed] using life.lives
  · rw [List.count_append,none,value,destroyed]
    exact life.deaths

theorem invariant_start (policy : LifePolicy α) (ticker capacity : Nat) :
    policy.Invariant (.init keys α ticker capacity) [] := by
  refine ⟨TimedPool.valid_init ticker capacity,by simp,?_⟩
  intro id
  have empty : (TimedPool.init keys α ticker capacity).get? id = none := rfl
  refine ⟨?_,?_,?_,?_,?_,?_⟩ <;> simp [empty]
  · simp [TimedPool.init]
  · simp [TimedPool.init]

/-! ## Events -/

variable {policy : LifePolicy α} {p p' : TimedPool keys α} {log : List LifeAction}

theorem invariant_accept (invariant : policy.Invariant p log) {value : α} {id : Nat}
    (regular : policy.ready value = policy.startsReady) (accepted : p.accept value = some (id,p')) :
    policy.Invariant p' (log ++ [.accepted id p.ticker]) := by
  obtain ⟨-,newcomers,idle,-,fresh,-⟩ := TimedPool.accept_spec accepted
  have unissued := (TimedPool.accept_fresh accepted).2
  have issued := TimedPool.issued_accept accepted
  have unknown (a : LifeAction) (about : a.id = id) : a ∉ log := by
    intro member
    exact unissued (about ▸ invariant.issued a member)
  refine ⟨TimedPool.valid_accept invariant.valid accepted,?_,?_⟩
  · intro a member
    rw [issued]
    rcases List.mem_append.mp member with old | new
    · exact .inr (invariant.issued a old)
    · obtain rfl : a = .accepted id p.ticker := by simpa using new
      exact .inl rfl
  · intro other
    by_cases same : other = id
    · subst same
      have value' : p'.get? other = some value := by
        rw [TimedPool.get?_accept accepted,if_pos rfl]
      have stamp : p'.stamp other = p.ticker := by
        rw [TimedPool.stamp_accept accepted,if_pos rfl]
      have notIdle : other ∉ p.idle := by
        intro member
        exact (invariant.valid.live other).mp (by simp [member]) fresh
      have no (a : LifeAction) (about : a.id = other) (apart : a ≠ .accepted other p.ticker) :
          a ∉ log ++ [.accepted other p.ticker] := by
        simp [unknown a about,apart]
      have approved (t : Nat) := no (.approved other t) rfl (by simp)
      have keptAlive (t : Nat) := no (.keptAlive other t) rfl (by simp)
      have destroyed := no (.destroyed other) rfl (by simp)
      refine ⟨?_,?_,?_,?_,?_,?_⟩
      · intro v found
        obtain rfl := Option.some.inj (value'.symm.trans found)
        simp [regular,approved]
      · intro _
        simp [stamp,Approved,approved,keptAlive]
      · intro member
        exact absurd (idle ▸ member) notIdle
      · intro t t' first second
        have only (t : Nat) (member : .accepted other t ∈ log ++ [.accepted other p.ticker]) :
            t = p.ticker := by simpa [unknown (.accepted other t) rfl] using member
        rw [only t first,only t' second]
      · intro _ _
        exact .inr (by simp [value'])
      · rw [List.count_eq_zero.mpr destroyed]
        exact ⟨Nat.zero_le _,fun _ => destroyed⟩
    · apply (invariant.lives other).frame
      · rw [TimedPool.get?_accept accepted,if_neg same]
      · rw [TimedPool.stamp_accept accepted,if_neg same]
      · simp [newcomers,same]
      · simp [idle]
      · simpa [LifeAction.id] using Ne.symm same

/-- A call on a member adds no acceptance and no destruction. -/
theorem Life.call {q : TimedPool keys α} {id : Nat} (life : policy.Life p log id) {a : LifeAction}
    (call : a = .keptAlive id p.ticker ∨ a = .approved id p.ticker) (known : p.get? id ≠ none)
    (known' : q.get? id ≠ none)
    (ready : ∀ value, q.get? id = some value →
      (policy.ready value = true ↔ policy.startsReady = true ∨ ∃ t, .approved id t ∈ log ++ [a]))
    (newcomer : id ∈ q.newcomers →
      .accepted id (q.stamp id) ∈ log ∧ ¬ policy.Approved id (log ++ [a]))
    (idle : id ∈ q.idle → policy.Approved id (log ++ [a]) ∧ q.stamp id = p.ticker) :
    policy.Life q (log ++ [a]) id := by
  have accepted (t : Nat) : .accepted id t ∈ log ++ [a] ↔ .accepted id t ∈ log := by
    rcases call with rfl | rfl <;> simp
  have destroyed : .destroyed id ∈ log ++ [a] ↔ .destroyed id ∈ log := by
    rcases call with rfl | rfl <;> simp
  have none : [a].count (.destroyed id) = 0 := by
    rcases call with rfl | rfl <;> simp
  refine ⟨ready,?_,?_,?_,?_,?_⟩
  · intro member
    rw [accepted]
    exact newcomer member
  · intro member
    obtain ⟨counted,stamp⟩ := idle member
    refine ⟨counted,?_⟩
    rw [stamp]
    rcases call with rfl | rfl <;> simp
  · simpa only [accepted] using life.once
  · intro _ _
    exact .inr known'
  · rw [List.count_append,none,destroyed]
    exact ⟨life.deaths.1,fun _ => life.deaths.2 known⟩

/-- A member that moves to the idle list is touched. -/
theorem Life.moved {q : TimedPool keys α} {id : Nat} (life : policy.Life p log id) {a : LifeAction}
    (call : a = .keptAlive id p.ticker ∨ a = .approved id p.ticker) (known : p.get? id ≠ none)
    (known' : q.get? id ≠ none) (unmarked : q.marked id = false) (ticker : q.ticker = p.ticker)
    (ready : ∀ value, q.get? id = some value →
      (policy.ready value = true ↔ policy.startsReady = true ∨ ∃ t, .approved id t ∈ log ++ [a]))
    (counted : policy.Approved id (log ++ [a])) : policy.Life (q.keepAlive id) (log ++ [a]) id := by
  obtain ⟨-,newcomers,-⟩ := TimedPool.keepAlive_spec unmarked
  apply life.call call known
  · rwa [TimedPool.get?_keepAlive]
  · simpa using ready
  · intro member
    rw [newcomers,mem_without] at member
    exact absurd rfl member.2
  · intro _
    refine ⟨counted,?_⟩
    rw [TimedPool.stamp_keepAlive unmarked (TimedPool.get?_ne_none.mp known'),if_pos rfl,ticker]

/-- A member that is given up already stays where it is. -/
theorem Life.stays {q : TimedPool keys α} {id : Nat} (life : policy.Life p log id) (valid : q.Valid)
    {a : LifeAction} (call : a = .keptAlive id p.ticker ∨ a = .approved id p.ticker)
    (known : p.get? id ≠ none) (known' : q.get? id ≠ none) (marked : q.marked id = true)
    (ready : ∀ value, q.get? id = some value →
      (policy.ready value = true ↔ policy.startsReady = true ∨ ∃ t, .approved id t ∈ log ++ [a])) :
    policy.Life q (log ++ [a]) id := by
  have once := valid.once known'
  have doomed := List.count_pos_iff.mpr ((valid.marked id).mp marked)
  apply life.call call known known' ready
  · intro member
    have := List.count_pos_iff.mpr member
    omega
  · intro member
    have := List.count_pos_iff.mpr member
    omega

/-- A keep-alive leaves every other member where it was. -/
theorem keepAlive_others (policy : LifePolicy α) (q : TimedPool keys α) {id other : Nat}
    (known : q.get? id ≠ none) (apart : other ≠ id) :
    (policy.keepAlive q id).get? other = q.get? other ∧
      (policy.keepAlive q id).stamp other = q.stamp other ∧
      (other ∈ (policy.keepAlive q id).newcomers → other ∈ q.newcomers) ∧
      (other ∈ (policy.keepAlive q id).idle → other ∈ q.idle) := by
  unfold keepAlive
  split
  · cases unmarked : q.marked id with
    | true => simp [TimedPool.keepAlive,unmarked]
    | false =>
      obtain ⟨-,newcomers,idle,-,-⟩ := TimedPool.keepAlive_spec unmarked
      refine ⟨TimedPool.get?_keepAlive q id other,?_,?_,?_⟩
      · rw [TimedPool.stamp_keepAlive unmarked (TimedPool.get?_ne_none.mp known),if_neg apart]
      · simp +contextual [newcomers]
      · simp [idle,apart]
  · exact ⟨rfl,rfl,fun member => member,fun member => member⟩

@[simp] theorem issued_keepAlive (policy : LifePolicy α) (q : TimedPool keys α) (id other : Nat) :
    (policy.keepAlive q id).members.Issued other ↔ q.members.Issued other := by
  unfold keepAlive
  split
  · exact TimedPool.issued_keepAlive q id other
  · rfl

theorem valid_keepAlive (policy : LifePolicy α) {q : TimedPool keys α} (valid : q.Valid) {id : Nat}
    (known : q.get? id ≠ none) : (policy.keepAlive q id).Valid := by
  unfold keepAlive
  split
  · exact TimedPool.valid_keepAlive valid (TimedPool.get?_ne_none.mp known)
  · exact valid

theorem issued_call (invariant : policy.Invariant p log) {a : LifeAction} (known : p.get? a.id ≠ none) :
    ∀ b ∈ log ++ [a], p.members.Issued b.id := by
  intro b member
  rcases List.mem_append.mp member with old | new
  · exact invariant.issued b old
  · obtain rfl : b = a := by simpa using new
    obtain ⟨value,found⟩ := Option.ne_none_iff_exists'.mp known
    exact TimedPool.issued_of_get? found

theorem invariant_keepAlive (invariant : policy.Invariant p log) {id : Nat} (known : p.get? id ≠ none) :
    policy.Invariant (policy.keepAlive p id) (log ++ [.keptAlive id p.ticker]) := by
  refine ⟨valid_keepAlive policy invariant.valid known,?_,?_⟩
  · intro b member
    rw [issued_keepAlive]
    exact issued_call (a := .keptAlive id p.ticker) invariant known b member
  · intro other
    by_cases same : other = id
    · subst same
      have life := invariant.lives other
      obtain ⟨value,found⟩ := Option.ne_none_iff_exists'.mp known
      have approved : (∃ t, LifeAction.approved other t ∈ log ++ [.keptAlive other p.ticker]) ↔
          ∃ t, LifeAction.approved other t ∈ log := by simp
      have ready : ∀ v, p.get? other = some v → (policy.ready v = true ↔ policy.startsReady = true ∨
          ∃ t, .approved other t ∈ log ++ [.keptAlive other p.ticker]) := by
        intro v known
        rw [approved]
        exact life.ready v known
      unfold keepAlive
      rw [found,Option.any_some]
      by_cases counts : policy.ready value = true
      · have counted : policy.Approved other (log ++ [.keptAlive other p.ticker]) := by
          rcases (ready value found).mp counts with starts | called
          · exact .inr ⟨starts,p.ticker,by simp⟩
          · exact .inl called
        rw [if_pos counts]
        cases unmarked : p.marked other with
        | false => exact life.moved (.inl rfl) known known unmarked rfl ready counted
        | true =>
          rw [TimedPool.keepAlive,if_pos unmarked]
          exact life.stays invariant.valid (.inl rfl) known known unmarked ready
      · -- A keep-alive that does not count changes nothing, and such a member is not idle.
        have uncounted : ¬ (policy.startsReady = true ∨ ∃ t, .approved other t ∈ log) :=
          fun called => counts ((life.ready value found).mpr called)
        rw [not_or] at uncounted
        rw [if_neg counts]
        apply life.call (.inl rfl) known known ready
        · intro member
          refine ⟨(life.newcomer member).1,?_⟩
          rintro (called | ⟨starts,-⟩)
          · exact uncounted.2 (approved.mp called)
          · exact uncounted.1 starts
        · intro member
          rcases (life.idle member).1 with called | ⟨starts,-⟩
          · exact absurd called uncounted.2
          · exact absurd starts uncounted.1
    · obtain ⟨value,stamp,newcomers,idle⟩ := keepAlive_others policy p known same
      exact (invariant.lives other).frame value stamp newcomers idle
        (by simpa [LifeAction.id] using Ne.symm same)

theorem invariant_approve (invariant : policy.Invariant p log) {id : Nat} (known : p.get? id ≠ none) :
    policy.Invariant (policy.keepAlive (p.modify id policy.approve) id)
      (log ++ [.approved id p.ticker]) := by
  have values := TimedPool.get?_modify p id
  have known' : (p.modify id policy.approve).get? id ≠ none := by
    rw [values,if_pos rfl]
    simpa using known
  have valid := TimedPool.valid_modify invariant.valid id policy.approve
  refine ⟨valid_keepAlive policy valid known',?_,?_⟩
  · intro b member
    rw [issued_keepAlive]
    exact issued_call (a := .approved id p.ticker) invariant known b member
  · intro other
    by_cases same : other = id
    · subst same
      have life := invariant.lives other
      have called : ∃ t, LifeAction.approved other t ∈ log ++ [.approved other p.ticker] :=
        ⟨p.ticker,by simp⟩
      have approved : ∀ v, (p.modify other policy.approve).get? other = some v → policy.ready v = true := by
        intro v found
        rw [values,if_pos rfl] at found
        obtain ⟨old,-,rfl⟩ := Option.map_eq_some_iff.mp found
        exact policy.approves old
      have ready : ∀ v, (p.modify other policy.approve).get? other = some v →
          (policy.ready v = true ↔ policy.startsReady = true ∨
            ∃ t, .approved other t ∈ log ++ [.approved other p.ticker]) :=
        fun v found => ⟨fun _ => .inr called,fun _ => approved v found⟩
      obtain ⟨value,found⟩ := Option.ne_none_iff_exists'.mp known'
      unfold keepAlive
      rw [found,Option.any_some,if_pos (approved value found)]
      cases unmarked : (p.modify other policy.approve).marked other with
      | false => exact life.moved (.inr rfl) known known' unmarked rfl ready (.inl called)
      | true =>
        rw [TimedPool.keepAlive,if_pos unmarked]
        exact life.stays valid (.inr rfl) known known' unmarked ready
    · obtain ⟨value,stamp,newcomers,idle⟩ := keepAlive_others policy (p.modify id policy.approve) known' same
      refine (invariant.lives other).frame ?_ ?_ newcomers idle
        (by simpa [LifeAction.id] using Ne.symm same)
      · rw [value,values,if_neg same]
      · rw [stamp,TimedPool.stamp_modify]

theorem invariant_giveUp (invariant : policy.Invariant p log) {id : Nat} (known : p.get? id ≠ none) :
    policy.Invariant (p.giveUp id) log := by
  refine ⟨TimedPool.valid_giveUp invariant.valid (TimedPool.get?_ne_none.mp known),?_,?_⟩
  · intro a member
    rw [TimedPool.issued_giveUp]
    exact invariant.issued a member
  · intro other
    have part : (other ∈ (p.giveUp id).newcomers → other ∈ p.newcomers) ∧
        (other ∈ (p.giveUp id).idle → other ∈ p.idle) := by
      cases unmarked : p.marked id with
      | true => simp [TimedPool.giveUp,unmarked]
      | false =>
        obtain ⟨-,newcomers,idle,-,-⟩ := TimedPool.giveUp_spec unmarked
        simp +contextual [newcomers,idle]
    have framed : policy.Life (p.giveUp id) (log ++ []) other :=
      (invariant.lives other).frame (TimedPool.get?_giveUp p id other)
        (TimedPool.stamp_giveUp p id other) part.1 part.2 (by simp)
    simpa using framed

theorem invariant_tick (invariant : policy.Invariant p log) :
    policy.Invariant (p.destroyAll (policy.expired p)) (log ++ (policy.expired p).map .destroyed) := by
  obtain ⟨nodup,live⟩ := TimedPool.expired_members invariant.valid (policy.newcomerLimit p.ticker)
    (policy.idleLimit p.ticker)
  obtain ⟨-,newcomers,idle,-,members⟩ := TimedPool.destroyAll_spec p (policy.expired p)
  have values := TimedPool.get?_destroyAll p (policy.expired p)
  refine ⟨TimedPool.valid_destroyAll invariant.valid _,?_,?_⟩
  · intro a member
    rw [TimedPool.issued_destroyAll]
    rcases List.mem_append.mp member with old | new
    · exact invariant.issued a old
    · obtain ⟨id,late,rfl⟩ := List.mem_map.mp new
      obtain ⟨m,found⟩ := Option.ne_none_iff_exists'.mp (live id late)
      exact Storage.issued_of_find? found
  · intro other
    have life := invariant.lives other
    by_cases late : other ∈ policy.expired p
    · have gone : (p.destroyAll (policy.expired p)).get? other = none := by
        rw [values,if_pos late]
      have count : ((policy.expired p).map LifeAction.destroyed).count (.destroyed other) = 1 := by
        rw [List.count_map_of_injective _ _ (fun _ _ same => LifeAction.destroyed.inj same)]
        exact List.count_eq_one_of_mem nodup late
      have before := life.deaths.2 (TimedPool.get?_ne_none.mpr (live other late))
      refine ⟨?_,?_,?_,?_,?_,?_⟩
      · intro v found
        rw [gone] at found
        cases found
      · intro member
        rw [newcomers,List.mem_filter] at member
        simp [late] at member
      · intro member
        rw [idle,List.mem_filter] at member
        simp [late] at member
      · simpa using life.once
      · intro _ _
        exact .inl (by simp [late])
      · rw [List.count_append,count,List.count_eq_zero.mpr before,gone]
        exact ⟨Nat.le_refl _,fun known => absurd rfl known⟩
    · apply life.frame
      · rw [values,if_neg late]
      · simp [TimedPool.stamp,members,late]
      · simp [newcomers]
        exact fun member _ => member
      · simp [idle]
        exact fun member _ => member
      · intro a member about
        obtain ⟨id,inside,rfl⟩ := List.mem_map.mp member
        exact late (about ▸ inside)

/-! ## Runs -/

theorem invariant_step (invariant : policy.Invariant p log) {e : LifeEvent α}
    (regular : policy.Regular p log e) :
    policy.Invariant (policy.step p e).1 (log ++ (policy.step p e).2) := by
  cases e with
  | accept value =>
    simp only [step]
    split
    · simpa using invariant
    · rename_i id p' accepted
      exact invariant_accept invariant regular accepted
  | keepAlive id => exact invariant_keepAlive invariant regular
  | approve id => exact invariant_approve invariant regular
  | giveUp id => simpa [step] using invariant_giveUp invariant regular
  | tick nowMS =>
    have clocked : policy.Invariant (p.setTicker nowMS) log :=
      ⟨TimedPool.valid_setTicker invariant.valid regular,invariant.issued,
        fun id => { invariant.lives id with }⟩
    exact invariant_tick clocked

theorem invariant_reach (reach : (policy.machine keys).Reach policy.Regular p log) :
    policy.Invariant p log := by
  apply reach.invariant
  · rintro _ ⟨ticker,capacity,rfl⟩
    exact invariant_start policy ticker capacity
  · intro p log e _ regular invariant
    exact invariant_step invariant regular

/-- A member that was accepted is on one list until it is destroyed, which happens once; then
its id leads nowhere. -/
theorem one_life (reach : (policy.machine keys).Reach policy.Regular p log) {id t : Nat}
    (accepted : .accepted id t ∈ log) :
    (log.count (.destroyed id) = 0 ∧ p.get? id ≠ none ∧
      p.newcomers.count id + p.idle.count id + p.doomed.count id = 1) ∨
    (log.count (.destroyed id) = 1 ∧ p.get? id = none ∧ id ∉ p.listed) := by
  have invariant := invariant_reach reach
  have life := invariant.lives id
  by_cases known : p.get? id = none
  · right
    have destroyed := (life.lives t accepted).resolve_right (fun live => live known)
    have positive := List.count_pos_iff.mpr destroyed
    refine ⟨Nat.le_antisymm life.deaths.1 positive,known,?_⟩
    rw [invariant.valid.live,← TimedPool.get?_ne_none]
    exact fun live => live known
  · left
    exact ⟨List.count_eq_zero.mpr (life.deaths.2 known),known,invariant.valid.once known⟩

/-- What a tick leaves: members that no call has counted for are younger than newcomers may
be, and the others have been called more recently than idle members may. -/
theorem left_by_tick (reach : (policy.machine keys).Reach policy.Regular p log) {nowMS id : Nat}
    (later : p.ticker ≤ nowMS) (known : (policy.step p (.tick nowMS)).1.get? id ≠ none) :
    (¬ policy.Approved id log → ∀ t, .accepted id t ∈ log → policy.newcomerLimit nowMS < t) ∧
    (policy.Approved id log → ∃ t, (.keptAlive id t ∈ log ∨ .approved id t ∈ log) ∧
      policy.idleLimit nowMS < t) := by
  have invariant := invariant_reach reach
  have life := invariant.lives id
  have clocked := TimedPool.valid_setTicker invariant.valid later
  rcases TimedPool.left_by_tick clocked known with ⟨member,young⟩ | ⟨member,recent⟩
  · obtain ⟨accepted,uncounted⟩ := life.newcomer member
    refine ⟨fun _ t other => ?_,fun counted => absurd counted uncounted⟩
    rw [life.once t _ other accepted]
    exact young
  · obtain ⟨counted,called⟩ := life.idle member
    exact ⟨fun uncounted => absurd counted uncounted,fun _ => ⟨_,called,recent⟩⟩

end LifePolicy

end MiniPP
