import Mathlib.Data.List.Nodup
import Mathlib.Data.List.TakeWhile
import Mathlib.Logic.Function.Basic

/-! Keys that expire. A key that is touched gets the present time as its stamp and goes to the
tail of a queue, so that the queue is in the order of the stamps. Expiry looks at the head only. -/
namespace MiniPP

/-- If an element passes whenever one behind it does, the elements that pass come first. -/
theorem takeWhile_eq_filter {α : Type*} {p : α → Bool} {list : List α}
    (order : list.Pairwise (fun a b => p b = true → p a = true)) : list.takeWhile p = list.filter p := by
  induction list with
  | nil => rfl
  | cons first rest ih =>
    obtain ⟨ahead,order⟩ := List.pairwise_cons.mp order
    cases passes : p first with
    | true =>
      rw [List.takeWhile_cons_of_pos passes,List.filter_cons_of_pos passes,ih order]
    | false =>
      have none : ∀ x ∈ rest, ¬ p x = true := by
        intro x member holds
        rw [ahead x member holds] at passes
        cases passes
      rw [List.takeWhile_cons_of_neg (by simp [passes]),List.filter_cons_of_neg (by simp [passes]),
        List.filter_eq_nil_iff.mpr none]

theorem dropWhile_eq_filter {α : Type*} {p : α → Bool} {list : List α}
    (order : list.Pairwise (fun a b => p b = true → p a = true)) :
    list.dropWhile p = list.filter (fun x => !p x) := by
  induction list with
  | nil => rfl
  | cons first rest ih =>
    obtain ⟨ahead,order⟩ := List.pairwise_cons.mp order
    cases passes : p first with
    | true =>
      rw [List.dropWhile_cons_of_pos passes,List.filter_cons_of_neg (by simp [passes]),ih order]
    | false =>
      have all : ∀ x ∈ first :: rest, (!p x) = true := by
        intro x member
        cases holds : p x with
        | false => rfl
        | true =>
          rcases List.mem_cons.mp member with rfl | later
          · rw [holds] at passes
            cases passes
          · rw [ahead x later holds] at passes
            cases passes
      rw [List.dropWhile_cons_of_neg (by simp [passes]),List.filter_eq_self.mpr all]

theorem dropWhile_congr {α : Type*} {p q : α → Bool} {list : List α} (same : ∀ x ∈ list, p x = q x) :
    list.dropWhile p = list.dropWhile q := by
  induction list with
  | nil => rfl
  | cons x list ih =>
    rw [List.dropWhile_cons,List.dropWhile_cons,same x (by simp),ih (fun y member => same y (by simp [member]))]

/-- Dropping from the head leaves nothing that passes just if what passes comes first. -/
theorem dropWhile_clear_iff {α : Type*} {p : α → Bool} {list : List α} :
    (∀ x ∈ list.dropWhile p, p x = false) ↔ list.Pairwise (fun a b => p b = true → p a = true) := by
  constructor
  · intro clear
    rw [← List.takeWhile_append_dropWhile (p := p) (l := list)]
    apply List.pairwise_append.mpr
    refine ⟨?_,?_,?_⟩
    · exact List.pairwise_of_forall_mem_list fun a first b _ _ => List.mem_takeWhile_imp first
    · refine List.pairwise_of_forall_mem_list fun a _ b last passes => ?_
      exact absurd (passes.symm.trans (clear b last)) (by simp)
    · exact fun a first b _ _ => List.mem_takeWhile_imp first
  · intro order x member
    rw [dropWhile_eq_filter order] at member
    simpa using (List.mem_filter.mp member).2

@[ext] structure ExpiryQueue (κ : Type*) where
  clock : Nat
  stamps : κ → Option Nat
  queue : List κ

namespace ExpiryQueue

set_option linter.unusedSectionVars false

variable {κ : Type*} [DecidableEq κ] [BEq κ] [LawfulBEq κ] {q : ExpiryQueue κ} {k : κ}

def empty (κ : Type*) (clock : Nat) : ExpiryQueue κ := ⟨clock,fun _ => none,[]⟩

def touch (q : ExpiryQueue κ) (k : κ) : ExpiryQueue κ where
  clock := q.clock
  stamps := Function.update q.stamps k (some q.clock)
  queue := q.queue.erase k ++ [k]

def drop (q : ExpiryQueue κ) (k : κ) : ExpiryQueue κ where
  clock := q.clock
  stamps := Function.update q.stamps k none
  queue := q.queue.erase k

/-- The keys at the head whose stamps are late. -/
def lapsed (q : ExpiryQueue κ) (late : Nat → Bool) : List κ :=
  q.queue.takeWhile (fun k => (q.stamps k).any late)

def expire (q : ExpiryQueue κ) (now : Nat) (late : Nat → Bool) : ExpiryQueue κ where
  clock := now
  stamps k := if k ∈ q.lapsed late then none else q.stamps k
  queue := q.queue.dropWhile (fun k => (q.stamps k).any late)

/-! ## Soundness -/

/-- The stamp of the first key is no later. -/
def Older (q : ExpiryQueue κ) (a b : κ) : Prop := ∀ s t, q.stamps a = some s → q.stamps b = some t → s ≤ t

structure Sound (q : ExpiryQueue κ) : Prop where
  once : q.queue.Nodup
  linked : ∀ k, k ∈ q.queue ↔ q.stamps k ≠ none
  past : ∀ k t, q.stamps k = some t → t ≤ q.clock
  order : q.queue.Pairwise q.Older

theorem sound_empty (clock : Nat) : (empty κ clock).Sound := by
  constructor <;> simp [empty]

theorem Sound.touch (sound : q.Sound) (k : κ) : (q.touch k).Sound := by
  have apart {other : κ} (member : other ∈ q.queue.erase k) : other ≠ k :=
    (sound.once.mem_erase_iff.mp member).1
  refine ⟨?_,?_,?_,?_⟩
  · apply List.nodup_append.mpr
    refine ⟨sound.once.erase k,List.pairwise_singleton _ _,?_⟩
    intro other member last new
    rw [List.mem_singleton.mp new]
    exact apart member
  · intro other
    by_cases same : other = k
    · simp [ExpiryQueue.touch,same]
    · simp [ExpiryQueue.touch,same,sound.once.mem_erase_iff,sound.linked]
  · intro other t stamped
    by_cases same : other = k
    · subst same
      simp only [ExpiryQueue.touch,Function.update_self,Option.some.injEq] at stamped
      exact Nat.le_of_eq stamped.symm
    · simp only [ExpiryQueue.touch,Function.update_of_ne same] at stamped
      exact sound.past other t stamped
  · apply List.pairwise_append.mpr
    refine ⟨?_,List.pairwise_singleton _ _,?_⟩
    · apply (sound.order.sublist List.erase_sublist).imp_of_mem
      intro a b inA inB older s t
      simp only [ExpiryQueue.touch,Function.update_of_ne (apart inA),Function.update_of_ne (apart inB)]
      exact older s t
    · intro other member last new s t earlier now
      rw [List.mem_singleton.mp new] at now
      simp only [ExpiryQueue.touch,Function.update_self,Option.some.injEq] at now
      simp only [ExpiryQueue.touch,Function.update_of_ne (apart member)] at earlier
      rw [← now]
      exact sound.past other s earlier

theorem Sound.drop (sound : q.Sound) (k : κ) : (q.drop k).Sound := by
  have apart {other : κ} (member : other ∈ q.queue.erase k) : other ≠ k :=
    (sound.once.mem_erase_iff.mp member).1
  refine ⟨sound.once.erase k,?_,?_,?_⟩
  · intro other
    by_cases same : other = k
    · simp [ExpiryQueue.drop,same,sound.once.mem_erase_iff]
    · simp [ExpiryQueue.drop,same,sound.once.mem_erase_iff,sound.linked]
  · intro other t stamped
    by_cases same : other = k
    · simp [ExpiryQueue.drop,same] at stamped
    · simp only [ExpiryQueue.drop,Function.update_of_ne same] at stamped
      exact sound.past other t stamped
  · apply (sound.order.sublist List.erase_sublist).imp_of_mem
    intro a b inA inB older s t
    simp only [ExpiryQueue.drop,Function.update_of_ne (apart inA),Function.update_of_ne (apart inB)]
    exact older s t

/-- A key that is not there has nothing to drop. -/
theorem Sound.drop_absent (sound : q.Sound) (absent : q.stamps k = none) : q.drop k = q := by
  have missing : k ∉ q.queue := fun member => (sound.linked k).mp member absent
  have same : Function.update q.stamps k none = q.stamps := by
    rw [← absent,Function.update_eq_self]
  unfold ExpiryQueue.drop
  rw [same,List.erase_of_not_mem missing]

/-- Time goes on. -/
theorem Sound.later (sound : q.Sound) {now : Nat} (later : q.clock ≤ now) : { q with clock := now }.Sound where
  once := sound.once
  linked := sound.linked
  past k t stamped := Nat.le_trans (sound.past k t stamped) later
  order := sound.order

/-! ## Expiry -/

variable {late : Nat → Bool}

/-- Expiry splits the queue. -/
theorem lapsed_append (q : ExpiryQueue κ) (late : Nat → Bool) (now : Nat) :
    q.lapsed late ++ (q.expire now late).queue = q.queue := List.takeWhile_append_dropWhile

theorem Sound.lapsed_nodup (sound : q.Sound) (late : Nat → Bool) : (q.lapsed late).Nodup :=
  sound.once.sublist (List.takeWhile_sublist _)

theorem Sound.lapsed_linked (sound : q.Sound) (member : k ∈ q.lapsed late) : q.stamps k ≠ none :=
  (sound.linked k).mp ((List.takeWhile_sublist _).subset member)

theorem Sound.lapsed_unlinked (sound : q.Sound) (now : Nat) (member : k ∈ q.lapsed late) :
    k ∉ (q.expire now late).queue := by
  have once := sound.once
  rw [← lapsed_append q late now] at once
  intro left
  exact (List.nodup_append.mp once).2.2 k member k left rfl

/-- What is late stays late if it is earlier. -/
def Downward (late : Nat → Bool) : Prop := ∀ s t, s ≤ t → late t = true → late s = true

theorem Sound.late_order (sound : q.Sound) (downward : Downward late) :
    q.queue.Pairwise (fun a b => (q.stamps b).any late = true → (q.stamps a).any late = true) := by
  apply sound.order.imp_of_mem
  intro a b inA _ older lateB
  obtain ⟨s,stamped⟩ := Option.ne_none_iff_exists'.mp ((sound.linked a).mp inA)
  cases stampedB : q.stamps b with
  | none => simp [stampedB] at lateB
  | some t =>
    simp only [stampedB,Option.any_some] at lateB
    simp only [stamped,Option.any_some]
    exact downward s t (older s t stamped stampedB) lateB

theorem Sound.mem_lapsed (sound : q.Sound) (downward : Downward late) :
    k ∈ q.lapsed late ↔ (q.stamps k).any late = true := by
  unfold lapsed
  rw [takeWhile_eq_filter (sound.late_order downward),List.mem_filter,sound.linked]
  constructor
  · exact fun both => both.2
  · intro holds
    refine ⟨?_,holds⟩
    intro none
    rw [none] at holds
    cases holds

/-- Although only the head is looked at, what is left is just what is not late. -/
theorem Sound.stamps_expire (sound : q.Sound) (downward : Downward late) (now : Nat) (k : κ) :
    (q.expire now late).stamps k = (q.stamps k).filter (fun t => !late t) := by
  simp only [expire,sound.mem_lapsed downward]
  cases q.stamps k with
  | none => rfl
  | some t => cases here : late t <;> simp [here,Option.filter]

theorem Sound.expire (sound : q.Sound) (downward : Downward late) {now : Nat} (later : q.clock ≤ now) :
    (q.expire now late).Sound := by
  have queue : (q.expire now late).queue = q.queue.filter (fun k => !(q.stamps k).any late) :=
    dropWhile_eq_filter (sound.late_order downward)
  have before {other : κ} {t : Nat} (stamped : (q.expire now late).stamps other = some t) :
      q.stamps other = some t := by
    rw [sound.stamps_expire downward] at stamped
    exact (Option.filter_eq_some_iff.mp stamped).1
  refine ⟨?_,?_,?_,?_⟩
  · rw [queue]
    exact sound.once.filter _
  · intro other
    rw [queue,List.mem_filter,sound.linked,sound.stamps_expire downward]
    cases q.stamps other with
    | none => simp
    | some t => cases here : late t <;> simp [here,Option.filter]
  · exact fun other t stamped => Nat.le_trans (sound.past other t (before stamped)) later
  · rw [queue]
    apply (sound.order.sublist List.filter_sublist).imp
    exact fun older s t earlier now => older s t (before earlier) (before now)

/-! ## When each key was last touched -/

/-- Which stamps are late at which time: more of them as time goes on, never the present one. -/
structure Deadline where
  late : Nat → Nat → Bool
  downward : ∀ now, Downward (late now)
  monotone : ∀ now later t, now ≤ later → late now t = true → late later t = true
  present : ∀ now, late now now = false

/-- The keys that are there are those that were touched, not dropped since, and are not late. -/
def Exact (deadline : Deadline) (q : ExpiryQueue κ) (touched : κ → Option Nat) : Prop :=
  ∀ k, q.stamps k = (touched k).filter (fun t => !deadline.late q.clock t)

variable {deadline : Deadline} {touched : κ → Option Nat}

/-- The stamp of a key that is there is the time it was last touched. -/
theorem Exact.stamps_iff (exactly : Exact deadline q touched) {t : Nat} :
    q.stamps k = some t ↔ touched k = some t ∧ deadline.late q.clock t = false := by
  rw [exactly k,Option.filter_eq_some_iff]
  simp

theorem exact_empty (deadline : Deadline) (clock : Nat) : Exact deadline (empty κ clock) (fun _ => none) :=
  fun _ => rfl

theorem Exact.touch (exactly : Exact deadline q touched) (k : κ) :
    Exact deadline (q.touch k) (Function.update touched k (some q.clock)) := by
  intro other
  by_cases same : other = k
  · subst same
    simp [ExpiryQueue.touch,Option.filter,deadline.present]
  · simp only [ExpiryQueue.touch,Function.update_of_ne same]
    exact exactly other

theorem Exact.drop (exactly : Exact deadline q touched) (k : κ) :
    Exact deadline (q.drop k) (Function.update touched k none) := by
  intro other
  by_cases same : other = k
  · subst same
    simp [ExpiryQueue.drop]
  · simp only [ExpiryQueue.drop,Function.update_of_ne same]
    exact exactly other

theorem Exact.expire (exactly : Exact deadline q touched) (sound : q.Sound) {now : Nat} (later : q.clock ≤ now) :
    Exact deadline (q.expire now (deadline.late now)) touched := by
  intro k
  rw [sound.stamps_expire (deadline.downward now),exactly k]
  cases touched k with
  | none => rfl
  | some t =>
    cases before : deadline.late q.clock t with
    | false => simp [Option.filter,before,ExpiryQueue.expire]
    | true =>
      have after := deadline.monotone q.clock now t later before
      simp [Option.filter,before,after,ExpiryQueue.expire]

end ExpiryQueue

end MiniPP
