import Mathlib.Data.List.Nodup
import Mathlib.Data.List.Perm.Basic
import Mathlib.Order.Lattice

/-! A list in the order of its keys is brought up to date with another one, both read from
the front once. What has an equal in the new list is kept, the rest is deleted, and what is
new is added. -/
namespace MiniPP

section Reconcile

variable {α β κ : Type*} [LinearOrder κ] (key : α → κ) (newKey : β → κ) (same : α → β → Prop)

/-- The moves of one pass, with the kept, the deleted and the added. -/
inductive Reconciles : List α → List β → List α → List α → List β → Prop where
  | addRest (news : List β) : Reconciles [] news [] [] news
  | deleteRest (olds : List α) : Reconciles olds [] [] olds []
  | keep {a b olds news kept deleted added} : key a = newKey b → same a b →
      Reconciles olds news kept deleted added →
      Reconciles (a :: olds) (b :: news) (a :: kept) deleted added
  | replace {a b olds news kept deleted added} : key a = newKey b → ¬ same a b →
      Reconciles olds news kept deleted added →
      Reconciles (a :: olds) (b :: news) kept (a :: deleted) (b :: added)
  | delete {a b olds news kept deleted added} : key a < newKey b →
      Reconciles olds (b :: news) kept deleted added →
      Reconciles (a :: olds) (b :: news) kept (a :: deleted) added
  | add {a b olds news kept deleted added} : newKey b < key a →
      Reconciles (a :: olds) news kept deleted added →
      Reconciles (a :: olds) (b :: news) kept deleted (b :: added)

variable {key newKey same} {olds : List α} {news : List β} {kept deleted : List α} {added : List β}

namespace Reconciles

theorem olds_perm (r : Reconciles key newKey same olds news kept deleted added) :
    olds.Perm (kept ++ deleted) := by
  induction r with
  | addRest => exact .refl _
  | deleteRest => exact .refl _
  | keep _ _ _ ih => exact ih.cons _
  | replace _ _ _ ih => exact (ih.cons _).trans List.perm_middle.symm
  | delete _ _ ih => exact (ih.cons _).trans List.perm_middle.symm
  | add _ _ ih => exact ih

theorem kept_sublist (r : Reconciles key newKey same olds news kept deleted added) :
    kept.Sublist olds := by
  induction r with
  | addRest => exact .slnil
  | deleteRest => exact List.nil_sublist _
  | keep _ _ _ ih => exact ih.cons_cons _
  | replace _ _ _ ih => exact ih.cons _
  | delete _ _ ih => exact ih.cons _
  | add _ _ ih => exact ih

theorem kept_eq_filter [DecidableEq α] (r : Reconciles key newKey same olds news kept deleted added)
    (once : olds.Nodup) : kept = olds.filter (· ∉ deleted) := by
  have apart := List.nodup_append.mp (r.olds_perm.nodup_iff.mp once)
  have outside : kept.filter (· ∉ deleted) = kept := by
    refine List.filter_eq_self.mpr fun a member => ?_
    simpa using fun other => apart.2.2 a member a other rfl
  have inside : deleted.filter (· ∉ deleted) = [] := by simp
  have sublist := r.kept_sublist.filter (· ∉ deleted)
  rw [outside] at sublist
  refine sublist.eq_of_length ?_
  rw [(r.olds_perm.filter _).length_eq,List.filter_append,outside,inside,List.append_nil]

/-- The kept are what their equals in the new list are. -/
theorem news_perm (r : Reconciles key newKey same olds news kept deleted added) :
    ∃ matched, List.Forall₂ (fun a b => key a = newKey b ∧ same a b) kept matched ∧
      news.Perm (matched ++ added) := by
  induction r with
  | addRest news => exact ⟨[],.nil,.refl _⟩
  | deleteRest => exact ⟨[],.nil,.refl _⟩
  | keep equal alike _ ih =>
    obtain ⟨matched,pairs,perm⟩ := ih
    exact ⟨_ :: matched,.cons ⟨equal,alike⟩ pairs,perm.cons _⟩
  | replace _ _ _ ih =>
    obtain ⟨matched,pairs,perm⟩ := ih
    exact ⟨matched,pairs,(perm.cons _).trans List.perm_middle.symm⟩
  | delete _ _ ih => exact ih
  | add _ _ ih =>
    obtain ⟨matched,pairs,perm⟩ := ih
    exact ⟨matched,pairs,(perm.cons _).trans List.perm_middle.symm⟩

/-- Behind a greater key there is no equal. -/
theorem no_equal {a : α} (above : ∀ b ∈ news, key a < newKey b) :
    ¬ ∃ b ∈ news, newKey b = key a ∧ same a b := by
  rintro ⟨b,inside,equal,-⟩
  exact ne_of_gt (above b inside) equal

omit [LinearOrder κ] in
theorem equal_cons {a : α} {b : β} (apart : newKey b ≠ key a) :
    (∃ b' ∈ b :: news, newKey b' = key a ∧ same a b') ↔ ∃ b' ∈ news, newKey b' = key a ∧ same a b' := by
  constructor
  · rintro ⟨b',inside,equal,alike⟩
    rcases List.mem_cons.mp inside with rfl | inside
    · exact absurd equal apart
    · exact ⟨b',inside,equal,alike⟩
  · rintro ⟨b',inside,found⟩
    exact ⟨b',List.mem_cons_of_mem _ inside,found⟩

/-- Only the first of a key can be kept. -/
theorem mem_kept_iff (r : Reconciles key newKey same olds news kept deleted added)
    (oldOrder : olds.Pairwise (fun a a' => key a ≤ key a'))
    (newOrder : news.Pairwise (fun b b' => newKey b < newKey b')) {a : α} :
    a ∈ kept ↔ olds.find? (fun x => key x = key a) = some a ∧
      ∃ b ∈ news, newKey b = key a ∧ same a b := by
  induction r with
  | addRest news => simp
  | deleteRest olds => simp
  | @keep x b olds news kept deleted added equal alike _ ih =>
    obtain ⟨-,oldOrder⟩ := List.pairwise_cons.mp oldOrder
    obtain ⟨above,newOrder⟩ := List.pairwise_cons.mp newOrder
    have later := ih oldOrder newOrder
    by_cases here : key x = key a
    · have none : a ∉ kept := fun member =>
        no_equal (fun b' inside => by rw [← here,equal]; exact above b' inside) (later.mp member).2
      rw [List.mem_cons,List.find?_cons_of_pos (by simpa using here),Option.some.injEq]
      constructor
      · rintro (rfl | member)
        · exact ⟨rfl,b,List.mem_cons_self,equal.symm,alike⟩
        · exact absurd member none
      · rintro ⟨rfl,-⟩
        exact .inl rfl
    · have differs : a ≠ x := fun h => here (by rw [h])
      rw [List.mem_cons,List.find?_cons_of_neg (by simpa using here),later,equal_cons (equal ▸ here)]
      exact or_iff_right differs
  | @replace x b olds news kept deleted added equal unlike _ ih =>
    obtain ⟨-,oldOrder⟩ := List.pairwise_cons.mp oldOrder
    obtain ⟨above,newOrder⟩ := List.pairwise_cons.mp newOrder
    rw [ih oldOrder newOrder]
    by_cases here : key x = key a
    · have none : ¬ ∃ b' ∈ news, newKey b' = key a ∧ same a b' :=
        no_equal fun b' inside => by rw [← here,equal]; exact above b' inside
      rw [List.find?_cons_of_pos (by simpa using here),Option.some.injEq]
      constructor
      · rintro ⟨-,found⟩
        exact absurd found none
      · rintro ⟨rfl,b',inside,key',alike⟩
        rcases List.mem_cons.mp inside with rfl | inside
        · exact absurd alike unlike
        · exact absurd ⟨b',inside,key',alike⟩ none
    · rw [List.find?_cons_of_neg (by simpa using here),equal_cons (equal ▸ here)]
  | @delete x b olds news kept deleted added less _ ih =>
    obtain ⟨-,oldOrder⟩ := List.pairwise_cons.mp oldOrder
    rw [ih oldOrder newOrder]
    by_cases here : key x = key a
    · have none : ¬ ∃ b' ∈ b :: news, newKey b' = key a ∧ same a b' := by
        refine no_equal fun b' inside => ?_
        rw [← here]
        rcases List.mem_cons.mp inside with rfl | inside
        · exact less
        · exact less.trans ((List.pairwise_cons.mp newOrder).1 b' inside)
      simp only [none,and_false]
    · rw [List.find?_cons_of_neg (by simpa using here)]
  | @add x b olds news kept deleted added less _ ih =>
    obtain ⟨ahead,-⟩ := List.pairwise_cons.mp oldOrder
    obtain ⟨-,newOrder⟩ := List.pairwise_cons.mp newOrder
    rw [ih oldOrder newOrder]
    refine and_congr_right fun first => ?_
    have beyond : newKey b < key a := by
      rcases List.mem_cons.mp (List.mem_of_find?_eq_some first) with rfl | inside
      · exact less
      · exact lt_of_lt_of_le less (ahead a inside)
    rw [equal_cons (ne_of_lt beyond)]

end Reconciles

end Reconcile

end MiniPP
