import Mathlib.Algebra.Order.Group.Nat
import Mathlib.Order.Basic

/-! Binary search over indices that are machine words, which wrap around. The window includes
both of its ends. A value is looked for among the cells between boundaries that ascend. -/
namespace MiniPP.WordSearch

/-- What a cell says about the value: it is inside, in front of the cell, or behind it. -/
inductive Side where
  | here | before | behind
  deriving DecidableEq, Repr

/-- `unreadable` is a cell that cannot be read, and `running` a search that is not over. -/
inductive Outcome where
  | found (index : Nat)
  | absent
  | unreadable (index : Nat)
  | running
  deriving DecidableEq, Repr

/-- The sum wraps around before it is halved. -/
def middle (size low high : Nat) : Nat := (low + high) % size / 2

/-- As many turns as `fuel` of the loop, on words below `size`. -/
def search (size : Nat) (probe : Nat → Option Side) : Nat → Nat → Nat → Outcome
  | 0, _, _ => .running
  | fuel + 1, low, high =>
    if low ≤ high then
      match probe (middle size low high) with
      | none => .unreadable (middle size low high)
      | some .here => .found (middle size low high)
      | some .before => search size probe fuel low ((middle size low high + size - 1) % size)
      | some .behind => search size probe fuel ((middle size low high + 1) % size) high
    else .absent

variable {size fuel low high top target : Nat} {probe : Nat → Option Side}

/-- The cells below `top` show the way to the target. -/
structure Leads (probe : Nat → Option Side) (top target : Nat) : Prop where
  inside : target < top
  hit : probe target = some .here
  front : ∀ i, i < target → probe i = some .behind
  back : ∀ i, target < i → i < top → probe i = some .before

/-- The target is found as long as the window has it, in as many turns as halve the window away.
A cell at `top` or later is not read. -/
theorem Leads.search_found (leads : Leads probe top target) (small : 2 * top < size)
    (first : low ≤ target) (last : target ≤ high) (bounded : high ≤ top)
    (enough : high + 1 - low < 2^fuel) : search size probe fuel low high = .found target := by
  induction fuel generalizing low high with
  | zero => omega
  | succ fuel ih =>
    have inside := leads.inside
    have mid : middle size low high = (low + high) / 2 := by
      rw [middle,Nat.mod_eq_of_lt (by omega)]
    have halves : 2^(fuel + 1) = 2 * 2^fuel := by rw [Nat.pow_succ,Nat.mul_comm]
    rw [search,if_pos (first.trans last),mid]
    rcases Nat.lt_trichotomy ((low + high) / 2) target with less | same | more
    · have next : ((low + high) / 2 + 1) % size = (low + high) / 2 + 1 := Nat.mod_eq_of_lt (by omega)
      simp only [leads.front _ less,next]
      exact ih (by omega) last bounded (by omega)
    · simp only [same,leads.hit]
    · have next : ((low + high) / 2 + size - 1) % size = (low + high) / 2 - 1 := by
        rw [show (low + high) / 2 + size - 1 = (low + high) / 2 - 1 + size by omega,
          Nat.add_mod_right]
        exact Nat.mod_eq_of_lt (by omega)
      simp only [leads.back _ more (by omega),next]
      exact ih first (by omega) (by omega) (by omega)

/-! ## Boundaries -/

section Boundaries

variable {β : Type*} [LinearOrder β] {boundary : Nat → β} {value : β} {index other : Nat}

/-- The cell between a boundary and the next one. -/
def Cell (boundary : Nat → β) (index : Nat) (value : β) : Prop :=
  boundary index ≤ value ∧ value < boundary (index + 1)

instance : Decidable (Cell boundary index value) := inferInstanceAs (Decidable (_ ∧ _))

/-- The comparisons of a turn. -/
def sideOf (start stop value : β) : Side :=
  if start ≤ value ∧ value < stop then .here else if value < start then .before else .behind

/-- The boundaries ascend to the one at `top`. -/
def Ascends (boundary : Nat → β) (top : Nat) : Prop :=
  ∀ i j, i ≤ j → j ≤ top → boundary i ≤ boundary j

theorem cell_exists (top : Nat) (first : boundary 0 ≤ value) (last : value < boundary top) :
    ∃ index < top, Cell boundary index value := by
  induction top with
  | zero => exact absurd last (not_lt.mpr first)
  | succ top ih =>
    rcases lt_or_ge value (boundary top) with less | least
    · obtain ⟨index,below,cell⟩ := ih less
      exact ⟨index,by omega,cell⟩
    · exact ⟨top,by omega,least,last⟩

/-- Cells that are compared as boundaries that ascend lead to the cell of the value. -/
theorem leads_of_ascends (ascends : Ascends boundary top) (below : target < top)
    (cell : Cell boundary target value)
    (probed : ∀ i < top, probe i = some (sideOf (boundary i) (boundary (i + 1)) value)) :
    Leads probe top target where
  inside := below
  hit := by
    have inside : boundary target ≤ value ∧ value < boundary (target + 1) := cell
    rw [probed target below,sideOf,if_pos inside]
  front i less := by
    have passed : boundary (i + 1) ≤ value := (ascends (i + 1) target less below.le).trans cell.1
    have started : boundary i ≤ value := (ascends i target less.le below.le).trans cell.1
    rw [probed i (by omega),sideOf,if_neg (fun inside => not_lt.mpr passed inside.2),
      if_neg (not_lt.mpr started)]
  back i more small := by
    have ahead : value < boundary i := cell.2.trans_le (ascends (target + 1) i more small.le)
    rw [probed i small,sideOf,if_neg (fun inside => not_le.mpr ahead inside.1),if_pos ahead]

/-! ## Tables -/

variable {γ : Type*} {rows : List (β × γ)} {row : β × γ} {stop : β}

/-- Rows by their starts: a value belongs to the last row that starts at it or before it. -/
def lastFrom (rows : List (β × γ)) (value : β) : Option γ :=
  (rows.reverse.find? (fun row => row.1 ≤ value)).map Prod.snd

/-- The starts of the rows, and where the last row stops. -/
def starts (rows : List (β × γ)) (stop : β) (index : Nat) : β := (rows[index]?).elim stop Prod.fst

theorem mem_of_lastFrom {c : γ} (found : lastFrom rows value = some c) : ∃ row ∈ rows, row.2 = c := by
  obtain ⟨row,last,rfl⟩ := Option.map_eq_some_iff.mp found
  exact ⟨row,List.mem_reverse.mp (List.mem_of_find?_eq_some last),rfl⟩

omit [LinearOrder β] in
theorem starts_of_row (present : rows[index]? = some row) : starts rows stop index = row.1 := by
  rw [starts,present,Option.elim_some]

omit [LinearOrder β] in
theorem starts_length : starts rows stop rows.length = stop := by
  rw [starts,List.getElem?_eq_none (le_refl _),Option.elim_none]

theorem ascends_starts (sorted : rows.Pairwise (fun a b => a.1 ≤ b.1))
    (bounded : ∀ row ∈ rows, row.1 ≤ stop) : Ascends (starts rows stop) rows.length := by
  intro i j ordered small
  rcases Nat.lt_or_eq_of_le small with below | rfl
  · have here : i < rows.length := by omega
    rw [starts_of_row (List.getElem?_eq_getElem here),starts_of_row (List.getElem?_eq_getElem below)]
    rcases Nat.lt_or_eq_of_le ordered with less | rfl
    · exact List.pairwise_iff_getElem.mp sorted i j here below less
    · exact le_refl _
  · rw [starts_length]
    rcases Nat.lt_or_eq_of_le ordered with less | rfl
    · rw [starts_of_row (List.getElem?_eq_getElem less)]
      exact bounded _ (List.getElem_mem less)
    · rw [starts_length]

/-- The row of a cell is the last one that starts at the value or before it. -/
theorem lastFrom_of_cell (sorted : rows.Pairwise (fun a b => a.1 ≤ b.1))
    (present : rows[index]? = some row) (cell : Cell (starts rows stop) index value) :
    lastFrom rows value = some row.2 := by
  obtain ⟨below,same⟩ := List.getElem?_eq_some_iff.mp present
  have split : rows = rows.take index ++ row :: rows.drop (index + 1) := by
    rw [← same,← List.drop_eq_getElem_cons below,List.take_append_drop]
  have hit : row.1 ≤ value := by simpa [starts_of_row present] using cell.1
  have behind : ∀ later ∈ rows.drop (index + 1), ¬ later.1 ≤ value := by
    intro later member
    obtain ⟨k,inside,rfl⟩ := List.getElem_of_mem member
    have place : index + 1 + k < rows.length := by
      rw [List.length_drop] at inside
      omega
    have next : starts rows stop (index + 1) ≤ rows[index + 1 + k].1 := by
      rw [starts_of_row (List.getElem?_eq_getElem (by omega : index + 1 < rows.length))]
      rcases Nat.eq_zero_or_pos k with rfl | more
      · exact le_refl _
      · exact List.pairwise_iff_getElem.mp sorted (index + 1) (index + 1 + k) (by omega) place (by omega)
    rw [List.getElem_drop]
    exact not_le.mpr (cell.2.trans_le next)
  have found : rows.reverse.find? (fun row => row.1 ≤ value) = some row := by
    rw [List.find?_eq_some_iff_append]
    refine ⟨by simpa using hit,(rows.drop (index + 1)).reverse,(rows.take index).reverse,?_,?_⟩
    · conv_lhs => rw [split]
      simp
    · intro later member
      simpa using behind later (List.mem_reverse.mp member)
  rw [lastFrom,found,Option.map_some]

end Boundaries

end MiniPP.WordSearch
