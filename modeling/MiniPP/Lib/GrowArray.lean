import Mathlib.Data.List.InsertIdx
import Mathlib.Data.List.Sort
import Mathlib.Order.Basic

/-! Growable arrays and the pointers into them. A pointer names a slot of one buffer. The
array leaves its buffer when it outgrows it, and its elements change their slots when others
are inserted or erased; what a pointer leads to then is another element, or nothing. -/
namespace MiniPP

structure Pointer where
  buffer : Nat
  slot : Nat
  deriving DecidableEq, Repr

structure GrowArray (α : Type*) where
  buffer : Nat := 0
  capacity : Nat := 0
  items : List α := []
  deriving DecidableEq, Repr

namespace GrowArray

variable {α κ : Type*}

/-- The element that a pointer leads to, while it leads to one. -/
def deref? (v : GrowArray α) (p : Pointer) : Option α :=
  if p.buffer = v.buffer then v.items[p.slot]? else none

/-- Inserts before position `i`; a full array moves to a buffer of `grow capacity` slots. -/
def emplace (grow : Nat → Nat) (v : GrowArray α) (i : Nat) (x : α) : GrowArray α × Pointer :=
  let v' : GrowArray α :=
    if v.items.length < v.capacity then { v with items := v.items.insertIdx i x }
    else ⟨v.buffer + 1,grow v.capacity,v.items.insertIdx i x⟩
  (v',⟨v'.buffer,i⟩)

def erase (v : GrowArray α) (i : Nat) : GrowArray α := { v with items := v.items.eraseIdx i }

@[simp] theorem items_emplace (grow : Nat → Nat) (v : GrowArray α) (i : Nat) (x : α) :
    (v.emplace grow i x).1.items = v.items.insertIdx i x := by
  unfold emplace
  dsimp only
  split <;> rfl

theorem items_of_emplace {grow : Nat → Nat} {v v' : GrowArray α} {i : Nat} {x : α} {pointer : Pointer}
    (placed : v.emplace grow i x = (v',pointer)) : v'.items = v.items.insertIdx i x := by
  rw [← items_emplace grow,placed]

@[simp] theorem pointer_emplace (grow : Nat → Nat) (v : GrowArray α) (i : Nat) (x : α) :
    (v.emplace grow i x).2 = ⟨(v.emplace grow i x).1.buffer,i⟩ := rfl

@[simp] theorem items_erase (v : GrowArray α) (i : Nat) : (v.erase i).items = v.items.eraseIdx i := rfl

@[simp] theorem buffer_erase (v : GrowArray α) (i : Nat) : (v.erase i).buffer = v.buffer := rfl

end GrowArray

/-! ## Lists in the order of a key -/

def SortedBy {α κ : Type*} [LT κ] (key : α → κ) (items : List α) : Prop :=
  items.Pairwise (fun x y => key x < key y)

namespace SortedBy

variable {α κ : Type*} [LinearOrder κ] {key : α → κ}

/-- `std::lower_bound`: the position of the first element whose key is not below `k`. -/
def lowerBound (key : α → κ) (items : List α) (k : κ) : Nat :=
  (items.takeWhile (fun x => key x < k)).length

theorem lowerBound_le (items : List α) (k : κ) : lowerBound key items k ≤ items.length :=
  (List.takeWhile_prefix _).length_le

/-- In a sorted list an element stands at the lower bound of its own key. -/
theorem lowerBound_of_getElem? {items : List α} (sorted : SortedBy key items) {i : Nat} {x : α}
    (here : items[i]? = some x) : lowerBound key items (key x) = i := by
  induction items generalizing i with
  | nil => simp at here
  | cons y items ih =>
    obtain ⟨above,sorted⟩ := List.pairwise_cons.mp sorted
    cases i with
    | zero =>
      obtain rfl : y = x := by simpa using here
      simp [lowerBound]
    | succ i =>
      have inside : items[i]? = some x := by simpa using here
      have below : key y < key x := above x (List.mem_of_getElem? inside)
      have position := ih sorted inside
      unfold lowerBound at position ⊢
      rw [List.takeWhile_cons_of_pos (by simpa using below),List.length_cons,position]

theorem getElem?_lowerBound {items : List α} (sorted : SortedBy key items) {x : α}
    (member : x ∈ items) : items[lowerBound key items (key x)]? = some x := by
  obtain ⟨i,here⟩ := List.mem_iff_getElem?.mp member
  rw [lowerBound_of_getElem? sorted here]
  exact here

theorem key_injective {items : List α} (sorted : SortedBy key items) {x y : α} (inside : x ∈ items)
    (inside' : y ∈ items) (same : key x = key y) : x = y := by
  have here := getElem?_lowerBound sorted inside
  rw [same,getElem?_lowerBound sorted inside'] at here
  exact (Option.some.inj here).symm

/-- One element has the key of an element. -/
theorem filter_key {items : List α} (sorted : SortedBy key items) {x : α} (inside : x ∈ items) :
    items.filter (fun y => key y = key x) = [x] := by
  induction items with
  | nil => cases inside
  | cons y rest ih =>
    obtain ⟨below,sorted⟩ := List.pairwise_cons.mp sorted
    rcases List.mem_cons.mp inside with rfl | later
    · have none : rest.filter (fun y => key y = key x) = [] :=
        List.filter_eq_nil_iff.mpr fun z member => by simpa using (below z member).ne'
      rw [List.filter_cons_of_pos (by simp),none]
    · rw [List.filter_cons_of_neg (by simpa using (below x later).ne)]
      exact ih sorted later

theorem insert {items : List α} (sorted : SortedBy key items) (x : α)
    (fresh : ∀ y ∈ items, key y ≠ key x) :
    SortedBy key (items.insertIdx (lowerBound key items (key x)) x) := by
  induction items with
  | nil => simp [lowerBound,SortedBy]
  | cons y items ih =>
    obtain ⟨above,rest⟩ := List.pairwise_cons.mp sorted
    have apart := fresh y List.mem_cons_self
    rcases lt_or_gt_of_ne apart with below | beyond
    · have position : lowerBound key (y :: items) (key x) = lowerBound key items (key x) + 1 := by
        unfold lowerBound
        rw [List.takeWhile_cons_of_pos (by simpa using below),List.length_cons]
      rw [position,List.insertIdx_succ_cons]
      refine List.pairwise_cons.mpr ⟨?_,ih rest (fun z inside => fresh z (List.mem_cons_of_mem y inside))⟩
      intro z inside
      rcases List.eq_or_mem_of_mem_insertIdx inside with rfl | old
      · exact below
      · exact above z old
    · have position : lowerBound key (y :: items) (key x) = 0 := by
        unfold lowerBound
        rw [List.takeWhile_cons_of_neg (by simpa using le_of_lt beyond),List.length_nil]
      rw [position,List.insertIdx_zero]
      refine List.pairwise_cons.mpr ⟨?_,sorted⟩
      intro z inside
      rcases List.mem_cons.mp inside with rfl | later
      · exact beyond
      · exact lt_trans beyond (above z later)

theorem mem_insert {items : List α} {x y : α} :
    y ∈ items.insertIdx (lowerBound key items (key x)) x ↔ y = x ∨ y ∈ items :=
  List.mem_insertIdx (lowerBound_le items (key x))

theorem erase {items : List α} (sorted : SortedBy key items) (i : Nat) :
    SortedBy key (items.eraseIdx i) := List.Pairwise.sublist (List.eraseIdx_sublist items i) sorted

theorem mem_erase {items : List α} (sorted : SortedBy key items) {i : Nat} {x : α}
    (here : items[i]? = some x) (y : α) : y ∈ items.eraseIdx i ↔ y ∈ items ∧ key y ≠ key x := by
  rw [List.mem_eraseIdx_iff_getElem?]
  constructor
  · rintro ⟨j,apart,there⟩
    refine ⟨List.mem_of_getElem? there,fun same => apart ?_⟩
    rw [← lowerBound_of_getElem? sorted there,← lowerBound_of_getElem? sorted here,same]
  · rintro ⟨member,other⟩
    obtain ⟨j,there⟩ := List.mem_iff_getElem?.mp member
    refine ⟨j,?_,there⟩
    rintro rfl
    exact other (congrArg key (Option.some.inj (there.symm.trans here)))

/-! ### The search -/

/-- The search of `std::lower_bound` in the `length` elements from `first` on: it halves them as
long as there are any. -/
def halve (key : α → κ) (items : List α) (k : κ) : Nat → Nat → Nat → Nat
  | 0, first, _ => first
  | fuel + 1, first, length =>
    if length = 0 then first
    else
      let half := length / 2
      match items[first + half]? with
      | none => first
      | some x =>
        if key x < k then halve key items k fuel (first + half + 1) (length - half - 1)
        else halve key items k fuel first half

/-- What stands before the lower bound is below. -/
theorem lt_iff_lt_lowerBound {items : List α} (sorted : SortedBy key items) {i : Nat} {x : α}
    (here : items[i]? = some x) (k : κ) : key x < k ↔ i < lowerBound key items k := by
  unfold lowerBound
  induction items generalizing i with
  | nil => simp at here
  | cons y items ih =>
    obtain ⟨above,sorted⟩ := List.pairwise_cons.mp sorted
    by_cases below : key y < k
    · rw [List.takeWhile_cons_of_pos (by simpa using below),List.length_cons]
      cases i with
      | zero =>
        obtain rfl : y = x := by simpa using here
        exact iff_of_true below (Nat.succ_pos _)
      | succ i =>
        rw [Nat.succ_lt_succ_iff]
        exact ih sorted (by simpa using here)
    · rw [List.takeWhile_cons_of_neg (by simpa using below),List.length_nil]
      apply iff_of_false ?_ (Nat.not_lt_zero i)
      intro under
      cases i with
      | zero =>
        obtain rfl : y = x := by simpa using here
        exact below under
      | succ i =>
        have member : x ∈ items := List.mem_of_getElem? (i := i) (by simpa using here)
        exact below ((above x member).trans under)

/-- On a sorted list the search finds the lower bound, if it is within the elements searched. -/
theorem halve_eq {items : List α} (sorted : SortedBy key items) (k : κ) {fuel first length : Nat}
    (enough : length ≤ fuel) (inside : first + length ≤ items.length)
    (above : first ≤ lowerBound key items k) (below : lowerBound key items k ≤ first + length) :
    halve key items k fuel first length = lowerBound key items k := by
  induction fuel generalizing first length with
  | zero =>
    unfold halve
    omega
  | succ fuel ih =>
    unfold halve
    split
    · omega
    · rename_i some_
      have middle : first + length / 2 < items.length := by omega
      have here : items[first + length / 2]? = some items[first + length / 2] := List.getElem?_eq_getElem middle
      have side := lt_iff_lt_lowerBound sorted here k
      simp only [here]
      split
      · rename_i under
        have beyond := side.mp under
        exact ih (by omega) (by omega) (by omega) (by omega)
      · rename_i behind
        have short := mt side.mpr behind
        exact ih (by omega) (by omega) above (by omega)

end SortedBy

/-- `std::sort`: what it does with elements of one key is left open. -/
structure Sorting {α κ : Type*} [LE κ] (key : α → κ) where
  sort : List α → List α
  perm : ∀ items, (sort items).Perm items
  ordered : ∀ items, (sort items).Pairwise (fun x y => key x ≤ key y)

namespace Sorting

variable {α κ : Type*} [LinearOrder κ] {key : α → κ}

def insertion (key : α → κ) : Sorting key where
  sort := List.insertionSort (fun x y => key x ≤ key y)
  perm := List.perm_insertionSort _
  ordered items := by
    have total : Std.Total (fun x y : α => key x ≤ key y) := ⟨fun x y => le_total (key x) (key y)⟩
    have trans : IsTrans α (fun x y => key x ≤ key y) := ⟨fun _ _ _ => le_trans⟩
    exact List.pairwise_insertionSort _ items

/-- With one element a key there is nothing to choose. -/
theorem sort_eq_self (sorting : Sorting key) {items : List α} (sorted : SortedBy key items) :
    sorting.sort items = items := by
  refine List.Perm.eq_of_pairwise ?_ (sorting.ordered items) (sorted.imp le_of_lt) (sorting.perm items)
  intro x y inside inside' below above
  have member := (sorting.perm items).mem_iff.mp inside
  exact SortedBy.key_injective sorted member inside' (le_antisymm below above)

theorem length_sort (sorting : Sorting key) (items : List α) :
    (sorting.sort items).length = items.length := (sorting.perm items).length_eq

end Sorting

end MiniPP
