import MiniPP.Lib.Storage

/-! A storage whose members live on one of three lists: newcomers, members in use, and
members given up. A tick destroys the members given up and, from the head of the other
two lists, those that have not been touched for as long as the list allows. -/
namespace MiniPP

structure Timed (α : Type) where
  value : α
  timestamp : Nat
  marked : Bool := false
  deriving DecidableEq, Repr

structure TimedPool (keys : KeySource) (α : Type) where
  ticker : Nat
  members : Storage keys (Timed α)
  newcomers : List Nat
  idle : List Nat
  doomed : List Nat

namespace TimedPool

variable {keys : KeySource} {α : Type}

def init (keys : KeySource) (α : Type) (ticker capacity : Nat) : TimedPool keys α :=
  ⟨ticker,.empty keys _ capacity,[],[],[]⟩

def setTicker (p : TimedPool keys α) (nowMS : Nat) : TimedPool keys α := { p with ticker := nowMS }

def get? (p : TimedPool keys α) (id : Nat) : Option α := (p.members.find? id).map Timed.value

def accept (p : TimedPool keys α) (value : α) : Option (Nat × TimedPool keys α) :=
  (p.members.acquire (fun _ => { value, timestamp := p.ticker })).map (fun (id,members) =>
    (id,{ p with members, newcomers := p.newcomers ++ [id] }))

def modify (p : TimedPool keys α) (id : Nat) (f : α → α) : TimedPool keys α :=
  { p with members := p.members.modify id (fun m => { m with value := f m.value }) }

/-- Off every list: a member has a single list node. -/
def unlink (p : TimedPool keys α) (id : Nat) : TimedPool keys α :=
  { p with
    newcomers := without p.newcomers id
    idle := without p.idle id
    doomed := without p.doomed id }

def marked (p : TimedPool keys α) (id : Nat) : Bool := (p.members.find? id).any Timed.marked

def keepAlive (p : TimedPool keys α) (id : Nat) : TimedPool keys α :=
  if p.marked id then p
  else
    { p.unlink id with
      members := p.members.modify id (fun m => { m with timestamp := p.ticker })
      idle := (p.unlink id).idle ++ [id] }

def giveUp (p : TimedPool keys α) (id : Nat) : TimedPool keys α :=
  if p.marked id then p
  else
    { p.unlink id with
      members := p.members.modify id (fun m => { m with marked := true })
      doomed := (p.unlink id).doomed ++ [id] }

def untouched (p : TimedPool keys α) (limit id : Nat) : Bool :=
  (p.members.find? id).any (fun m => m.timestamp ≤ limit)

/-- The heads of a list that have not been touched since `limit`. -/
def timedOut (p : TimedPool keys α) (list : List Nat) (limit : Nat) : List Nat :=
  list.takeWhile (p.untouched limit)

/-- No member of the list up to this one was touched since `limit`. -/
def Lapsed (p : TimedPool keys α) (list : List Nat) (limit id : Nat) : Prop :=
  ∃ before after, list = before ++ id :: after ∧
    ∀ other ∈ before ++ [id], p.untouched limit other = true

theorem mem_timedOut {p : TimedPool keys α} {list : List Nat} {limit id : Nat} :
    id ∈ p.timedOut list limit ↔ p.Lapsed list limit id := by
  induction list with
  | nil => simp [timedOut,Lapsed]
  | cons first rest ih =>
    unfold timedOut at ih ⊢
    by_cases old : p.untouched limit first = true
    · rw [List.takeWhile_cons_of_pos old,List.mem_cons,ih]
      constructor
      · rintro (rfl | ⟨before,after,rfl,lapsed⟩)
        · exact ⟨[],rest,rfl,by simpa using old⟩
        · refine ⟨first :: before,after,rfl,?_⟩
          simpa using ⟨old,by simpa using lapsed⟩
      · rintro ⟨before,after,split,lapsed⟩
        cases before with
        | nil => exact .inl (List.cons.inj split).1.symm
        | cons other before =>
          obtain ⟨rfl,rfl⟩ := List.cons.inj split
          exact .inr ⟨before,after,rfl,fun x member => lapsed x (List.mem_cons_of_mem _ member)⟩
    · rw [List.takeWhile_cons_of_neg old]
      constructor
      · intro none; simp at none
      · rintro ⟨before,after,split,lapsed⟩
        refine absurd (lapsed first ?_) old
        cases before with
        | nil => simp [(List.cons.inj split).1]
        | cons other before => simp [(List.cons.inj split).1]

def destroy (p : TimedPool keys α) (id : Nat) : TimedPool keys α :=
  { p.unlink id with members := p.members.release id }

def destroyAll (p : TimedPool keys α) : List Nat → TimedPool keys α
  | [] => p
  | id :: rest => (p.destroy id).destroyAll rest

/-- What is destroyed with these limits, in order. -/
def expired (p : TimedPool keys α) (newcomerLimit idleLimit : Nat) : List Nat :=
  p.doomed ++ p.timedOut p.newcomers newcomerLimit ++ p.timedOut p.idle idleLimit

@[simp] theorem get?_init (ticker capacity id : Nat) : (init keys α ticker capacity).get? id = none := rfl

@[simp] theorem get?_setTicker (p : TimedPool keys α) (nowMS id : Nat) :
    (p.setTicker nowMS).get? id = p.get? id := rfl

theorem get?_accept {p p' : TimedPool keys α} {value : α} {id : Nat}
    (accepted : p.accept value = some (id,p')) (other : Nat) :
    p'.get? other = if other = id then some value else p.get? other := by
  obtain ⟨⟨key,members⟩,acquired,same⟩ := Option.map_eq_some_iff.mp accepted
  obtain ⟨rfl,rfl⟩ := Prod.mk.inj same
  simp only [get?,Storage.find?_acquire acquired]
  split <;> rfl

/-- A key just handed out was unknown. -/
theorem accept_fresh {p p' : TimedPool keys α} {value : α} {id : Nat}
    (accepted : p.accept value = some (id,p')) : p.get? id = none ∧ ¬ p.members.Issued id := by
  obtain ⟨⟨key,members⟩,acquired,same⟩ := Option.map_eq_some_iff.mp accepted
  obtain ⟨rfl,rfl⟩ := Prod.mk.inj same
  obtain ⟨unknown,unissued⟩ := Storage.acquired_fresh acquired
  exact ⟨by simp [get?,unknown],unissued⟩

theorem issued_accept {p p' : TimedPool keys α} {value : α} {id : Nat}
    (accepted : p.accept value = some (id,p')) (other : Nat) :
    p'.members.Issued other ↔ other = id ∨ p.members.Issued other := by
  obtain ⟨⟨key,members⟩,acquired,same⟩ := Option.map_eq_some_iff.mp accepted
  obtain ⟨rfl,rfl⟩ := Prod.mk.inj same
  exact Storage.issued_acquire acquired other

theorem issued_of_get? {p : TimedPool keys α} {id : Nat} {value : α} (found : p.get? id = some value) :
    p.members.Issued id := by
  obtain ⟨m,known,-⟩ := Option.map_eq_some_iff.mp found
  exact Storage.issued_of_find? known

theorem get?_modify (p : TimedPool keys α) (id other : Nat) (f : α → α) :
    (p.modify id f).get? other = if other = id then (p.get? id).map f else p.get? other := by
  simp only [get?,modify,Storage.find?_modify]
  split
  · cases p.members.find? id <;> rfl
  · rfl

@[simp] theorem issued_modify (p : TimedPool keys α) (id other : Nat) (f : α → α) :
    (p.modify id f).members.Issued other ↔ p.members.Issued other := Iff.rfl

@[simp] theorem get?_keepAlive (p : TimedPool keys α) (id other : Nat) :
    (p.keepAlive id).get? other = p.get? other := by
  unfold keepAlive
  split
  · rfl
  · unfold get?
    apply Storage.map_find?_modify
    exact fun _ => rfl

@[simp] theorem issued_keepAlive (p : TimedPool keys α) (id other : Nat) :
    (p.keepAlive id).members.Issued other ↔ p.members.Issued other := by
  unfold keepAlive
  split <;> rfl

@[simp] theorem get?_giveUp (p : TimedPool keys α) (id other : Nat) :
    (p.giveUp id).get? other = p.get? other := by
  unfold giveUp
  split
  · rfl
  · unfold get?
    apply Storage.map_find?_modify
    exact fun _ => rfl

@[simp] theorem issued_giveUp (p : TimedPool keys α) (id other : Nat) :
    (p.giveUp id).members.Issued other ↔ p.members.Issued other := by
  unfold giveUp
  split <;> rfl

theorem get?_destroy (p : TimedPool keys α) (id other : Nat) :
    (p.destroy id).get? other = if other = id then none else p.get? other := by
  simp only [get?,destroy,Storage.find?_release]
  split <;> rfl

/-- Destroying a list of members leaves every other one as it was. -/
theorem get?_destroyAll (p : TimedPool keys α) (list : List Nat) (other : Nat) :
    (p.destroyAll list).get? other = if other ∈ list then none else p.get? other := by
  induction list generalizing p with
  | nil => simp [destroyAll]
  | cons id rest ih =>
    rw [destroyAll,ih,get?_destroy]
    by_cases later : other ∈ rest
    · simp [later]
    · simp [later]

@[simp] theorem issued_destroyAll (p : TimedPool keys α) (list : List Nat) (other : Nat) :
    (p.destroyAll list).members.Issued other ↔ p.members.Issued other := by
  induction list generalizing p with
  | nil => rfl
  | cons id rest ih => exact ih _

end TimedPool

end MiniPP
