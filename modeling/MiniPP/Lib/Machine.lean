import Mathlib.Algebra.Group.Nat.Defs
import Mathlib.Data.List.Basic
import Mathlib.Logic.Relation

/-! Deterministic machines that log what they do. A run is a finite sequence of
events; properties of runs are properties of reachable pairs of a state and the
complete log so far. -/
namespace MiniPP

structure Machine (σ ε α : Type*) where
  start : σ → Prop
  step : σ → ε → σ × List α

namespace Machine

variable {σ ε α : Type*} {m : Machine σ ε α} {ok ok' : σ → List α → ε → Prop}

/-- `ok` restricts the events taken; it may look at the state and at the past. -/
inductive Reach (m : Machine σ ε α) (ok : σ → List α → ε → Prop) : σ → List α → Prop where
  | start {s : σ} : m.start s → Reach m ok s []
  | step {s : σ} {log : List α} (e : ε) : Reach m ok s log → ok s log e →
      Reach m ok (m.step s e).1 (log ++ (m.step s e).2)

/-- Every event is allowed. -/
abbrev anything : σ → List α → ε → Prop := fun _ _ _ => True

/-- An invariant holds at the start and survives every allowed event of a reachable state. -/
theorem Reach.invariant {I : σ → List α → Prop} (initial : ∀ s, m.start s → I s [])
    (preserved : ∀ s log e, Reach m ok s log → ok s log e → I s log →
      I (m.step s e).1 (log ++ (m.step s e).2))
    {s : σ} {log : List α} (reach : Reach m ok s log) : I s log := by
  induction reach with
  | start h => exact initial _ h
  | step e before allowed ih => exact preserved _ _ e before allowed ih

theorem Reach.mono (weaker : ∀ s log e, ok s log e → ok' s log e) {s : σ} {log : List α}
    (reach : Reach m ok s log) : Reach m ok' s log := by
  induction reach with
  | start h => exact .start h
  | step e _ allowed ih => exact .step e ih (weaker _ _ e allowed)

/-- One allowed event, on pairs of a state and a log. -/
def Step (m : Machine σ ε α) (ok : σ → List α → ε → Prop) (c c' : σ × List α) : Prop :=
  ∃ e, ok c.1 c.2 e ∧ c' = ((m.step c.1 e).1, c.2 ++ (m.step c.1 e).2)

abbrev Later (m : Machine σ ε α) (ok : σ → List α → ε → Prop) : σ × List α → σ × List α → Prop :=
  Relation.ReflTransGen (m.Step ok)

theorem Reach.later {c c' : σ × List α} (reach : Reach m ok c.1 c.2) (later : m.Later ok c c') :
    Reach m ok c'.1 c'.2 := by
  induction later with
  | refl => exact reach
  | tail _ last ih =>
    obtain ⟨e,allowed,rfl⟩ := last
    exact .step e ih allowed

def run (m : Machine σ ε α) : σ → List ε → σ × List α
  | s, [] => (s, [])
  | s, e :: es =>
    let first := m.step s e
    let rest := run m first.1 es
    (rest.1, first.2 ++ rest.2)

def Allowed (m : Machine σ ε α) (ok : σ → List α → ε → Prop) : σ → List α → List ε → Prop
  | _, _, [] => True
  | s, log, e :: es => ok s log e ∧ Allowed m ok (m.step s e).1 (log ++ (m.step s e).2) es

instance decidableAllowed [∀ s log e, Decidable (ok s log e)] :
    (s : σ) → (log : List α) → (es : List ε) → Decidable (m.Allowed ok s log es)
  | _, _, [] => inferInstanceAs (Decidable True)
  | s, log, e :: es =>
    have := decidableAllowed (m.step s e).1 (log ++ (m.step s e).2) es
    inferInstanceAs (Decidable (_ ∧ _))

theorem Reach.run {s : σ} {log : List α} (reach : Reach m ok s log) (es : List ε)
    (allowed : m.Allowed ok s log es) :
    Reach m ok (m.run s es).1 (log ++ (m.run s es).2) := by
  induction es generalizing s log with
  | nil => simpa [Machine.run] using reach
  | cons e es ih =>
    have rest := ih (.step e reach allowed.1) allowed.2
    simpa [Machine.run,List.append_assoc] using rest

theorem allowed_anything (s : σ) (log : List α) (es : List ε) :
    m.Allowed anything s log es := by
  induction es generalizing s log with
  | nil => trivial
  | cons e es ih => exact ⟨trivial,ih _ _⟩

/-- A concrete run from a start state, with no restriction on its events. -/
theorem reach_run {s : σ} (start : m.start s) (es : List ε) :
    Reach m anything (m.run s es).1 (m.run s es).2 := by
  simpa using Reach.run (Reach.start start) es (allowed_anything s [] es)

theorem allowed_append {s : σ} {log : List α} (es es' : List ε) :
    m.Allowed ok s log (es ++ es') ↔
      m.Allowed ok s log es ∧ m.Allowed ok (m.run s es).1 (log ++ (m.run s es).2) es' := by
  induction es generalizing s log with
  | nil => simp [Machine.Allowed,Machine.run]
  | cons e es ih => simp [Machine.Allowed,Machine.run,ih,and_assoc]

theorem allowed_and {s : σ} {log : List α} {es : List ε} :
    m.Allowed (fun s log e => ok s log e ∧ ok' s log e) s log es ↔
      m.Allowed ok s log es ∧ m.Allowed ok' s log es := by
  induction es generalizing s log with
  | nil => simp [Machine.Allowed]
  | cons e es ih => simp only [Machine.Allowed,ih,and_and_and_comm]

theorem run_append (s : σ) (es es' : List ε) :
    m.run s (es ++ es') =
      ((m.run (m.run s es).1 es').1,(m.run s es).2 ++ (m.run (m.run s es).1 es').2) := by
  induction es generalizing s with
  | nil => rfl
  | cons e es ih => simp only [List.cons_append,Machine.run,ih,List.append_assoc]

/-- What is reachable is reached by a run. -/
theorem Reach.exists_run {s : σ} {log : List α} (reach : Reach m ok s log) :
    ∃ first es, m.start first ∧ m.run first es = (s,log) := by
  induction reach with
  | start h => exact ⟨_,[],h,rfl⟩
  | step e _ _ ih =>
    obtain ⟨first,es,start,run⟩ := ih
    refine ⟨first,es ++ [e],start,?_⟩
    rw [run_append,run]
    simp [Machine.run]

/-- Restrictions that agree on such events as long as they were kept allow the same runs of them. -/
theorem allowed_iff_of {R : ε → Prop}
    (agree : ∀ s log e, Reach m ok s log → R e → (ok s log e ↔ ok' s log e))
    {s : σ} {log : List α} (reach : Reach m ok s log) {es : List ε} (all : ∀ e ∈ es, R e) :
    m.Allowed ok s log es ↔ m.Allowed ok' s log es := by
  induction es generalizing s log with
  | nil => exact Iff.rfl
  | cons e es ih =>
    have here : ok s log e ↔ ok' s log e := agree s log e reach (all e (by simp))
    have later : ∀ e ∈ es, R e := fun other member => all other (by simp [member])
    constructor
    · rintro ⟨first,rest⟩
      exact ⟨here.mp first,(ih (.step e reach first) later).mp rest⟩
    · rintro ⟨first,rest⟩
      have first := here.mpr first
      exact ⟨first,(ih (.step e reach first) later).mpr rest⟩

theorem allowed_iff (agree : ∀ s log e, Reach m ok s log → (ok s log e ↔ ok' s log e))
    {s : σ} {log : List α} (reach : Reach m ok s log) (es : List ε) :
    m.Allowed ok s log es ↔ m.Allowed ok' s log es :=
  allowed_iff_of (R := fun _ => True) (fun s log e reach _ => agree s log e reach) reach
    (fun _ _ => trivial)

/-- What a restriction implies where it was kept so far, it implies for whole runs. -/
theorem allowed_imp (weaker : ∀ s log e, Reach m ok s log → ok s log e → ok' s log e) {s : σ} {log : List α}
    (reach : Reach m ok s log) {es : List ε} (allowed : m.Allowed ok s log es) : m.Allowed ok' s log es := by
  induction es generalizing s log with
  | nil => trivial
  | cons e es ih =>
    obtain ⟨first,rest⟩ := allowed
    exact ⟨weaker s log e reach first,ih (.step e reach first) rest⟩

/-- A run is allowed if what comes next is, wherever it was allowed so far. -/
theorem allowed_of_prefixes {s : σ} {log : List α} {es : List ε}
    (next : ∀ front e back, es = front ++ e :: back → m.Allowed ok s log front →
      ok (m.run s front).1 (log ++ (m.run s front).2) e) : m.Allowed ok s log es := by
  induction es generalizing s log with
  | nil => trivial
  | cons e es ih =>
    have first : ok s log e := by simpa [Machine.run] using next [] e es rfl trivial
    refine ⟨first,ih fun front e' back split allowed => ?_⟩
    have later := next (e :: front) e' back (by rw [split,List.cons_append]) ⟨first,allowed⟩
    simpa [Machine.run] using later

/-- `P` holds of every state on the way and the log by then. -/
def Stays (m : Machine σ ε α) (P : σ → List α → Prop) (s : σ) (log : List α) (es : List ε) : Prop :=
  ∀ front back, es = front ++ back → P (m.run s front).1 (log ++ (m.run s front).2)

theorem stays_nil {P : σ → List α → Prop} {s : σ} {log : List α} : m.Stays P s log [] ↔ P s log := by
  constructor
  · intro stays
    simpa [Machine.run] using stays [] [] rfl
  · intro holds front back split
    obtain ⟨rfl,rfl⟩ := List.append_eq_nil_iff.mp split.symm
    simpa [Machine.run] using holds

theorem stays_cons {P : σ → List α → Prop} {s : σ} {log : List α} {e : ε} {es : List ε} :
    m.Stays P s log (e :: es) ↔ P s log ∧ m.Stays P (m.step s e).1 (log ++ (m.step s e).2) es := by
  constructor
  · intro stays
    refine ⟨by simpa [Machine.run] using stays [] _ rfl,fun front back split => ?_⟩
    simpa [Machine.run] using stays (e :: front) back (by rw [split,List.cons_append])
  · rintro ⟨first,rest⟩ front back split
    cases front with
    | nil => simpa [Machine.run] using first
    | cons other front =>
      rw [List.cons_append,List.cons.injEq] at split
      obtain ⟨rfl,split⟩ := split
      simpa [Machine.run] using rest front back split

/-- If the allowed events keep an invariant, and any other event loses `P`, then `P` stays just as
long as every event is allowed. -/
theorem stays_iff_allowed {I P : σ → List α → Prop} (holds : ∀ s log, I s log → P s log)
    (keeps : ∀ s log e, I s log → ok s log e → I (m.step s e).1 (log ++ (m.step s e).2))
    (loses : ∀ s log e, I s log → ¬ ok s log e → ¬ P (m.step s e).1 (log ++ (m.step s e).2))
    {s : σ} {log : List α} (first : I s log) (es : List ε) : m.Stays P s log es ↔ m.Allowed ok s log es := by
  have reached {front : List ε} (allowed : m.Allowed ok s log front) :
      I (m.run s front).1 (log ++ (m.run s front).2) := by
    induction front generalizing s log with
    | nil => simpa [Machine.run] using first
    | cons e front ih => simpa [Machine.run] using ih (keeps s log e first allowed.1) allowed.2
  constructor
  · intro stays
    apply allowed_of_prefixes
    intro front e back split before
    by_contra unsound
    apply loses _ _ e (reached before) unsound
    have next := stays (front ++ [e]) back (by rw [split,List.append_assoc,List.singleton_append])
    simpa [run_append,Machine.run] using next
  · rintro allowed front back rfl
    exact holds _ _ (reached ((allowed_append front back).mp allowed).1)

/-! ## Ghosts -/

/-- The machine with a record of its past, kept from the events and the states they meet. -/
def withGhost {γ : Type*} (m : Machine σ ε α) (blank : γ) (watch : σ → ε → γ → γ) :
    Machine (σ × γ) ε α where
  start c := m.start c.1 ∧ c.2 = blank
  step c e := (((m.step c.1 e).1,watch c.1 e c.2),(m.step c.1 e).2)

section Ghost

variable {γ : Type*} {blank : γ} {watch : σ → ε → γ → γ}

/-- The record does not change what the machine does. -/
theorem Reach.forget {ok : σ × γ → List α → ε → Prop} {c : σ × γ} {log : List α}
    (reach : Reach (m.withGhost blank watch) ok c log) : Reach m anything c.1 log := by
  induction reach with
  | start h => exact .start h.1
  | step e _ _ ih => exact .step e ih trivial

end Ghost

end Machine

/-! ## Relations that log what they do -/

/-- A finite sequence of steps, with everything they log. -/
inductive Path {σ α : Type*} (step : σ → List α → σ → Prop) : σ → List α → σ → Prop where
  | nil (s : σ) : Path step s [] s
  | cons {s s' s'' : σ} {out rest : List α} : step s out s' → Path step s' rest s'' →
      Path step s (out ++ rest) s''

namespace Path

variable {σ α : Type*} {step : σ → List α → σ → Prop}

theorem single {s s' : σ} {out : List α} (first : step s out s') : Path step s out s' := by
  simpa using Path.cons first (Path.nil s')

theorem append {s s' s'' : σ} {out rest : List α} (first : Path step s out s')
    (second : Path step s' rest s'') : Path step s (out ++ rest) s'' := by
  induction first with
  | nil => exact second
  | cons head _ ih =>
    rw [List.append_assoc]
    exact .cons head (ih second)

theorem mono {step' : σ → List α → σ → Prop} (weaker : ∀ s out s', step s out s' → step' s out s')
    {s s' : σ} {out : List α} (path : Path step s out s') : Path step' s out s' := by
  induction path with
  | nil => exact .nil _
  | cons head _ ih => exact .cons (weaker _ _ _ head) ih

/-- What each step preserves, a path preserves. -/
theorem invariant {I : σ → List α → Prop}
    (preserved : ∀ s out s' log, step s out s' → I s log → I s' (log ++ out))
    {s s' : σ} {out : List α} (path : Path step s out s') {log : List α} (before : I s log) :
    I s' (log ++ out) := by
  induction path generalizing log with
  | nil => simpa using before
  | cons head _ ih =>
    rw [← List.append_assoc]
    exact ih (preserved _ _ _ _ head before)

/-- The same, for what does not depend on the log. -/
theorem keeps {I : σ → Prop} (preserved : ∀ s out s', step s out s' → I s → I s') {s s' : σ}
    {out : List α} (path : Path step s out s') (before : I s) : I s' := by
  induction path with
  | nil => exact before
  | cons head _ ih => exact ih (preserved _ _ _ head before)

/-- What every step logs satisfies what each step's log does. -/
theorem forall_mem {P : α → Prop} (turn : ∀ s out s', step s out s' → ∀ x ∈ out, P x)
    {s s' : σ} {out : List α} (path : Path step s out s') : ∀ x ∈ out, P x := by
  induction path with
  | nil => simp
  | cons head _ ih =>
    intro x member
    rcases List.mem_append.mp member with now | later
    · exact turn _ _ _ head x now
    · exact ih x later

end Path

/-! ## The past of a log entry -/

namespace Log

variable {α β : Type*}

/-- Every entry satisfies `P` of the entries before it. -/
def Always (P : List α → α → Prop) (log : List α) : Prop :=
  ∀ before x after, log = before ++ x :: after → P before x

@[simp] theorem always_nil (P : List α → α → Prop) : Always P [] := by
  intro before x after h
  simp at h

theorem always_append {P : List α → α → Prop} {log out : List α} :
    Always P (log ++ out) ↔ Always P log ∧ Always (fun before x => P (log ++ before) x) out := by
  constructor
  · intro h
    refine ⟨fun before x after split => ?_,fun before x after split => ?_⟩
    · exact h before x (after ++ out) (by simp [split])
    · exact h (log ++ before) x after (by simp [split])
  · rintro ⟨old,new⟩ before x after split
    rcases List.append_eq_append_iff.mp split with ⟨middle,rfl,rest⟩ | ⟨middle,rfl,rest⟩
    · exact new middle x after rest
    · cases middle with
      | nil =>
        simp only [List.append_nil] at *
        exact (by simpa using new [] x after (by simpa using rest.symm))
      | cons y middle =>
        simp only [List.cons_append,List.cons.injEq] at rest
        obtain ⟨rfl,-⟩ := rest
        exact old before x middle rfl

theorem always_cons {P : List α → α → Prop} {x : α} {out : List α} :
    Always P (x :: out) ↔ P [] x ∧ Always (fun before y => P (x :: before) y) out := by
  constructor
  · intro h
    refine ⟨h [] x out rfl,fun before y after split => ?_⟩
    exact h (x :: before) y after (by simp [split])
  · rintro ⟨first,rest⟩ before y after split
    cases before with
    | nil =>
      simp only [List.nil_append,List.cons.injEq] at split
      exact split.1 ▸ first
    | cons z before =>
      simp only [List.cons_append,List.cons.injEq] at split
      obtain ⟨rfl,split⟩ := split
      exact rest before y after split

theorem Always.imp {P Q : List α → α → Prop} (h : ∀ before x, P before x → Q before x)
    {log : List α} (always : Always P log) : Always Q log :=
  fun before x after split => h before x (always before x after split)

theorem Always.and {P Q : List α → α → Prop} {log : List α} (left : Always P log)
    (right : Always Q log) : Always (fun before x => P before x ∧ Q before x) log :=
  fun before x after split => ⟨left before x after split,right before x after split⟩

/-- A predicate of single entries, seen as one of entries and their past. -/
theorem always_of_mem {P : List α → α → Prop} {log : List α} (h : ∀ x ∈ log, ∀ before, P before x) :
    Always P log := by
  intro before x after split
  exact h x (by simp [split]) before

/-- An entry of a projected log splits the log at its origin. -/
theorem split_of_filterMap {f : α → Option β} {log : List α} {before after : List β} {y : β}
    (split : log.filterMap f = before ++ y :: after) :
    ∃ old x new, log = old ++ x :: new ∧ f x = some y ∧ old.filterMap f = before := by
  rw [List.filterMap_eq_append_iff] at split
  obtain ⟨left,right,rfl,rfl,tail⟩ := split
  rw [List.filterMap_eq_cons_iff] at tail
  obtain ⟨skipped,x,new,rfl,none,some,-⟩ := tail
  refine ⟨left ++ skipped,x,new,by simp,some,?_⟩
  have empty : skipped.filterMap f = [] := List.filterMap_eq_nil_iff.mpr none
  simp [List.filterMap_append,empty]

theorem eq_of_countP_le_one {p : α → Bool} {list : List α} (once : list.countP p ≤ 1)
    {a b : α} (memberA : a ∈ list) (memberB : b ∈ list) (holdsA : p a = true) (holdsB : p b = true) :
    a = b := by
  induction list with
  | nil => simp at memberA
  | cons x list ih =>
    have none (y : α) (inside : y ∈ list) (holds : p y = true) : p x = false := by
      have positive : 0 < list.countP p := List.countP_pos_iff.mpr ⟨y,inside,holds⟩
      cases holdsX : p x with
      | false => rfl
      | true => rw [List.countP_cons_of_pos holdsX] at once; omega
    rcases List.mem_cons.mp memberA with rfl | insideA
    · rcases List.mem_cons.mp memberB with rfl | insideB
      · rfl
      · rw [none b insideB holdsB] at holdsA
        cases holdsA
    · rcases List.mem_cons.mp memberB with rfl | insideB
      · rw [none a insideA holdsA] at holdsB
        cases holdsB
      · refine ih ?_ insideA insideB
        rw [List.countP_cons] at once
        omega

end Log

end MiniPP
