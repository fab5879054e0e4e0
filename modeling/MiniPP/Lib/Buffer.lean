import Mathlib.Data.List.Basic

/-! Programs that read and overwrite a buffer of a fixed size, with a position that they move
on. An access outside of the buffer has no result. -/
namespace MiniPP

structure Buffer (α : Type) where
  data : List α
  offset : Nat := 0

abbrev Access (α : Type) := StateT (Buffer α) Option

namespace Access

variable {α β γ : Type}

/-- The element at the position, which moves on. -/
def next : Access α α := fun b => b.data[b.offset]?.map (·,{ b with offset := b.offset + 1 })

def skip (n : Nat) : Access α Unit := fun b => some ((),{ b with offset := b.offset + n })

def offset : Access α Nat := fun b => some (b.offset,b)

def size : Access α Nat := fun b => some (b.data.length,b)

def get (i : Nat) : Access α α := fun b => b.data[i]?.map (·,b)

def overwrite (i : Nat) (x : α) : Access α Unit := fun b =>
  if i < b.data.length then some ((),{ b with data := b.data.set i x }) else none

def slice (start n : Nat) : Access α (List α) := fun b =>
  if start + n ≤ b.data.length then some ((b.data.drop start).take n,b) else none

/-- The result on a buffer, and what the buffer holds then. -/
def on (m : Access α β) (data : List α) : Option (β × List α) :=
  (m ⟨data,0⟩).map (fun result => (result.1,result.2.data))

theorem on_eq {m : Access α β} {data : List α} {x : β} {b : Buffer α} (runs : m ⟨data,0⟩ = some (x,b)) :
    m.on data = some (x,b.data) := by
  simp [on,runs]

/-! ## Rules -/

theorem pure_runs (x : β) (b : Buffer α) : (pure x : Access α β) b = some (x,b) := rfl

theorem bind_runs {m : Access α β} {b b' : Buffer α} {x : β} (runs : m b = some (x,b'))
    (f : β → Access α γ) : (m >>= f) b = f x b' := by
  change (m b).bind (fun result => f result.1 result.2) = f x b'
  rw [runs]
  rfl

theorem next_runs {b : Buffer α} {x : α} (inside : b.data[b.offset]? = some x) :
    next b = some (x,{ b with offset := b.offset + 1 }) := by
  simp [next,inside]

theorem get_runs {b : Buffer α} {i : Nat} {x : α} (inside : b.data[i]? = some x) :
    get i b = some (x,b) := by
  simp [get,inside]

theorem overwrite_runs {b : Buffer α} {i : Nat} (inside : i < b.data.length) (x : α) :
    overwrite i x b = some ((),{ b with data := b.data.set i x }) := if_pos inside

theorem slice_runs {b : Buffer α} {start n : Nat} (inside : start + n ≤ b.data.length) :
    slice start n b = some ((b.data.drop start).take n,b) := if_pos inside

/-! ## Folding over the next elements -/

/-- Reads `n` elements. -/
def fold (f : β → α → β) : Nat → β → Access α β
  | 0, acc => pure acc
  | n + 1, acc => do
    let x ← next
    fold f n (f acc x)

theorem fold_runs (f : β → α → β) (n : Nat) (acc : β) {b : Buffer α}
    (inside : b.offset + n ≤ b.data.length) :
    fold f n acc b =
      some (((b.data.drop b.offset).take n).foldl f acc,{ b with offset := b.offset + n }) := by
  induction n generalizing acc b with
  | zero => simp [fold,pure_runs]
  | succ n ih =>
    have bound : b.offset < b.data.length := by omega
    have here : b.data[b.offset]? = some b.data[b.offset] := List.getElem?_eq_getElem bound
    have later : b.offset + 1 + n ≤ b.data.length := by omega
    have rest := ih (f acc b.data[b.offset]) (b := { b with offset := b.offset + 1 }) later
    rw [fold,bind_runs (next_runs here),rest,List.drop_eq_getElem_cons bound,List.take_succ_cons,
      List.foldl_cons,Nat.add_assoc,Nat.add_comm 1 n]

end Access

end MiniPP
