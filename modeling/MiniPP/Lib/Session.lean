import Mathlib.Data.List.Basic

/-! A client's session with a transactional server. While autocommit is on an effect is durable
at once, and while it is off effects wait for a commit, or for autocommit to come on again. -/
namespace MiniPP

/-- What a call to the server answers: it fails, or learns that the session is lost. -/
inductive Answer where
  | done | failed | lost
  deriving DecidableEq, Repr

structure Session (α : Type*) where
  autocommit : Bool := true
  pending : List α := []
  alive : Bool := true
  deriving DecidableEq, Repr

namespace Session

variable {α : Type*}

/-- The server rolls the session's open transaction back. -/
def lose (s : Session α) : Session α := { s with pending := [], alive := false }

/-- A session that is lost answers no call. -/
def answers (s : Session α) (answer : Answer) : Answer := if s.alive then answer else .lost

/-- A call that changes nothing, but may lose the session. -/
def probe (s : Session α) (answer : Answer) : Session α :=
  if s.answers answer = .lost then s.lose else s

/-! The calls with effects give the session, and what became durable. -/

def enableAutocommit (s : Session α) : Session α × List α :=
  if s.alive then ({ s with autocommit := true, pending := [] },s.pending) else (s,[])

def disableAutocommit (s : Session α) : Session α := if s.alive then { s with autocommit := false } else s

def rollback (s : Session α) : Session α := if s.alive then { s with pending := [] } else s

/-- A commit that fails may leave the transaction open. -/
def commit (s : Session α) (answer : Answer) (leavesOpen : Bool) : Session α × List α :=
  match s.answers answer with
  | .done => ({ s with pending := [] },s.pending)
  | .failed => (if leavesOpen then s else { s with pending := [] },[])
  | .lost => (s.lose,[])

def apply (s : Session α) (effect : α) : Session α × List α :=
  if s.alive then
    if s.autocommit then (s,[effect]) else ({ s with pending := s.pending ++ [effect] },[])
  else (s,[])

/-- The effect takes place or not, whatever the client learns of it. -/
def execute (s : Session α) (effect : α) (applied : Bool) (answer : Answer) : Session α × List α :=
  let (s,durable) := if applied then s.apply effect else (s,[])
  (s.probe answer,durable)

/-! ## Whose effects wait -/

/-- While it lives, the session is inside a transaction whose effects are those of `owner`;
without an owner it is in none. -/
def OwnedBy (s : Session α) (owner : Option (α → Prop)) : Prop :=
  s.alive = true →
    match owner with
    | none => s.autocommit = true ∧ s.pending = []
    | some own => s.autocommit = false ∧ ∀ effect ∈ s.pending, own effect

variable {s : Session α} {owner : Option (α → Prop)} {own : α → Prop}

theorem ownedBy_fresh : OwnedBy (α := α) {} none := fun _ => ⟨rfl,rfl⟩

theorem ownedBy_lose : OwnedBy s.lose owner := fun alive => by cases alive

theorem ownedBy_dead (dead : s.alive = false) : OwnedBy s owner :=
  fun alive => by simp [dead] at alive

theorem OwnedBy.probe (owned : OwnedBy s owner) (answer : Answer) : OwnedBy (s.probe answer) owner := by
  unfold Session.probe
  split
  · exact ownedBy_lose
  · exact owned

theorem ownedBy_enableAutocommit : OwnedBy s.enableAutocommit.1 none := by
  cases live : s.alive with
  | false => exact ownedBy_dead (by simp [enableAutocommit,live])
  | true =>
    intro _
    simp [enableAutocommit,live]

theorem OwnedBy.disableAutocommit (owned : OwnedBy s none) : OwnedBy s.disableAutocommit (some own) := by
  cases live : s.alive with
  | false => exact ownedBy_dead (by simp [Session.disableAutocommit,live])
  | true =>
    have nothing : s.pending = [] := (owned live).2
    intro _
    simp [Session.disableAutocommit,live,nothing]

/-- After a rollback nothing waits for autocommit. -/
theorem enableAutocommit_rollback : s.rollback.enableAutocommit.2 = [] := by
  unfold Session.rollback enableAutocommit
  split <;> simp_all

/-- What a commit and autocommit after it make durable: all that waits, unless the commit fails
and closes the transaction. -/
theorem commit_enableAutocommit (s : Session α) (answer : Answer) (leavesOpen : Bool) :
    (s.commit answer leavesOpen).2 ++ (s.commit answer leavesOpen).1.enableAutocommit.2 =
      if s.alive = true ∧ (answer = .done ∨ answer = .failed ∧ leavesOpen = true) then s.pending else [] := by
  cases live : s.alive with
  | false => simp [commit,answers,enableAutocommit,lose,live]
  | true =>
    cases answer with
    | done => simp [commit,answers,enableAutocommit,live]
    | failed => cases leavesOpen <;> simp [commit,answers,enableAutocommit,live]
    | lost => simp [commit,answers,enableAutocommit,lose,live]

theorem OwnedBy.autocommit_iff (owned : OwnedBy s owner) (live : s.alive = true) :
    s.autocommit = true ↔ owner = none := by
  cases owner with
  | none => simp [(owned live).1]
  | some own => simp [(owned live).1]

theorem OwnedBy.pending_eq_nil (owned : OwnedBy s none) (live : s.alive = true) : s.pending = [] :=
  (owned live).2

theorem OwnedBy.pending_own (owned : OwnedBy s (some own)) (live : s.alive = true) :
    ∀ effect ∈ s.pending, own effect := (owned live).2

theorem mem_apply {effect other : α} :
    other ∈ (s.apply effect).2 ↔ s.alive = true ∧ s.autocommit = true ∧ other = effect := by
  unfold Session.apply
  split
  · rename_i live
    split
    · rename_i enabled
      simp [live,enabled]
    · rename_i disabled
      simp [disabled]
  · rename_i dead
    simp [dead]

theorem mem_execute {effect other : α} {applied : Bool} {answer : Answer} :
    other ∈ (s.execute effect applied answer).2 ↔
      applied = true ∧ s.alive = true ∧ s.autocommit = true ∧ other = effect := by
  cases applied with
  | false => simp [execute]
  | true => simp [execute,mem_apply]

theorem OwnedBy.apply (owned : OwnedBy s owner) {effect : α} (mine : ∀ own, owner = some own → own effect) :
    OwnedBy (s.apply effect).1 owner := by
  cases live : s.alive with
  | false => exact ownedBy_dead (by simp [Session.apply,live])
  | true =>
    intro _
    cases owner with
    | none =>
      have before : s.autocommit = true ∧ s.pending = [] := owned live
      simp [Session.apply,live,before]
    | some own =>
      have before : s.autocommit = false ∧ ∀ effect ∈ s.pending, own effect := owned live
      have waits : (s.apply effect).1 = { s with pending := s.pending ++ [effect] } := by
        simp [Session.apply,live,before.1]
      rw [waits]
      refine ⟨before.1,fun other member => ?_⟩
      rcases List.mem_append.mp member with old | new
      · exact before.2 other old
      · exact List.mem_singleton.mp new ▸ mine own rfl

theorem OwnedBy.execute (owned : OwnedBy s owner) {effect : α} (mine : ∀ own, owner = some own → own effect)
    (applied : Bool) (answer : Answer) : OwnedBy (s.execute effect applied answer).1 owner := by
  unfold Session.execute
  cases applied with
  | false => exact owned.probe answer
  | true => exact (owned.apply mine).probe answer

end Session

end MiniPP
