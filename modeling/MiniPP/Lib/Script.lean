import Mathlib.Data.List.Basic

/-! What a party may say: some replies in order, then any payloads, and at any point one
error in place of what would come next, which is then the last word. -/
namespace MiniPP

inductive Item (α : Type*) where
  | reply (data : α)
  | payload (data : α)
  deriving DecidableEq, Repr

/-- `Error n` are the errors that may stand in place of item `n`; all payloads have the
position behind the last reply. -/
structure Script (α : Type*) where
  replies : List α
  Error : Nat → α → Prop
  apart : ∀ n data, Error n data → replies[n]? ≠ some data

namespace Script

variable {α : Type*} {s : Script α} {list more : List (Item α)} {data : α}

def items (s : Script α) (payloads : List α) : List (Item α) :=
  s.replies.map .reply ++ payloads.map .payload

def Prefix (s : Script α) (list : List (Item α)) : Prop := ∃ payloads, list <+: s.items payloads

/-- How many of the replies have been given. -/
def position (s : Script α) (list : List (Item α)) : Nat := min list.length s.replies.length

def Ended (s : Script α) (list : List (Item α)) : Prop :=
  ∃ before data, list = before ++ [.reply data] ∧ s.Prefix before ∧ s.Error (s.position before) data

def Follows (s : Script α) (list : List (Item α)) : Prop := s.Prefix list ∨ s.Ended list

/-- What may come after `n` items. -/
def Next (s : Script α) (n : Nat) : Item α → Prop
  | .reply data => s.replies[n]? = some data
  | .payload _ => s.replies.length ≤ n

theorem prefix_nil (s : Script α) : s.Prefix [] := ⟨[],by simp⟩

theorem Prefix.left (whole : s.Prefix (list ++ more)) : s.Prefix list := by
  obtain ⟨payloads,inside⟩ := whole
  exact ⟨payloads,(List.prefix_append _ _).trans inside⟩

theorem next_of_getElem? {n : Nat} {x : Item α} (payloads : List α)
    (there : (s.items payloads)[n]? = some x) : s.Next n x := by
  rw [items,List.getElem?_append,List.length_map] at there
  split at there
  · rw [List.getElem?_map,Option.map_eq_some_iff] at there
    obtain ⟨data,found,rfl⟩ := there
    exact found
  · rename_i beyond
    rw [List.getElem?_map,Option.map_eq_some_iff] at there
    obtain ⟨data,-,rfl⟩ := there
    exact Nat.not_lt.mp beyond

theorem extend_inside {whole : List (Item α)} {x : Item α} (inside : list <+: whole)
    (there : whole[list.length]? = some x) : list ++ [x] <+: whole := by
  obtain ⟨rest,rfl⟩ := inside
  rw [List.getElem?_append_right (Nat.le_refl _),Nat.sub_self] at there
  cases rest with
  | nil => simp at there
  | cons y rest =>
    obtain rfl : y = x := by simpa using there
    exact ⟨rest,by simp⟩

theorem prefix_concat {x : Item α} : s.Prefix (list ++ [x]) ↔ s.Prefix list ∧ s.Next list.length x := by
  constructor
  · intro whole
    refine ⟨whole.left,?_⟩
    obtain ⟨payloads,rest,same⟩ := whole
    apply next_of_getElem? payloads
    rw [← same,List.append_assoc,List.getElem?_append_right (Nat.le_refl _),Nat.sub_self]
    rfl
  · rintro ⟨⟨payloads,inside⟩,next⟩
    cases x with
    | reply data =>
      refine ⟨payloads,extend_inside inside ?_⟩
      have found : s.replies[list.length]? = some data := next
      have within : list.length < (s.replies.map Item.reply).length := by
        rw [List.length_map]
        exact (List.getElem?_eq_some_iff.mp found).1
      rw [items,List.getElem?_append_left within,List.getElem?_map,found]
      rfl
    | payload data =>
      have beyond : (s.replies.map Item.reply).length ≤ list.length := by
        rw [List.length_map]
        exact next
      have front := List.prefix_of_prefix_length_le (List.prefix_append _ (payloads.map .payload)) inside
        beyond
      obtain ⟨tail,rfl⟩ := front
      rw [items,List.prefix_append_right_inj] at inside
      refine ⟨(payloads.take tail.length) ++ [data],[],?_⟩
      have taken : tail = (payloads.take tail.length).map .payload := by
        rw [List.map_take]
        exact List.prefix_iff_eq_take.mp inside
      rw [items,List.map_append,← taken]
      simp

theorem Prefix.reply (before : s.Prefix list) (next : s.replies[s.position list]? = some data) :
    s.Prefix (list ++ [.reply data]) ∧ s.position (list ++ [.reply data]) = s.position list + 1 := by
  have within := (List.getElem?_eq_some_iff.mp next).1
  have here : s.position list = list.length := by
    simp only [position] at within ⊢
    omega
  rw [here] at next within
  refine ⟨prefix_concat.mpr ⟨before,next⟩,?_⟩
  rw [here,position,List.length_append,List.length_singleton]
  omega

theorem Prefix.payload (before : s.Prefix list) (next : s.position list = s.replies.length) :
    s.Prefix (list ++ [.payload data]) ∧ s.position (list ++ [.payload data]) = s.position list := by
  have beyond : s.replies.length ≤ list.length := by
    simp only [position] at next
    omega
  refine ⟨prefix_concat.mpr ⟨before,beyond⟩,?_⟩
  rw [next,position,List.length_append,List.length_singleton]
  omega

/-- A script is not left by what comes later. -/
theorem Follows.left (whole : s.Follows (list ++ more)) (some : more ≠ []) : s.Prefix list := by
  rcases whole with kept | ⟨before,data,same,kept,-⟩
  · exact kept.left
  · rcases List.eq_nil_or_concat more with none | ⟨more,last,rfl⟩
    · exact absurd none some
    · rw [List.concat_eq_append,← List.append_assoc] at same
      obtain ⟨rfl,-⟩ := List.append_inj' same rfl
      exact kept.left

theorem Ended.apart (ended : s.Ended list) : ¬ s.Prefix list := by
  obtain ⟨before,data,rfl,-,error⟩ := ended
  intro kept
  have next : s.replies[before.length]? = some data := (prefix_concat.mp kept).2
  have here : s.position before = before.length :=
    Nat.min_eq_left (Nat.le_of_lt (List.getElem?_eq_some_iff.mp next).1)
  rw [here] at error
  exact s.apart _ _ error next

/-- An error is the last word. -/
theorem Ended.follows_append (ended : s.Ended list) : s.Follows (list ++ more) ↔ more = [] := by
  constructor
  · intro whole
    by_contra some
    exact ended.apart (whole.left some)
  · rintro rfl
    rw [List.append_nil]
    exact .inr ended

theorem follows_payload (before : s.Prefix list) :
    s.Follows (list ++ [.payload data]) ↔ s.position list = s.replies.length := by
  constructor
  · rintro (kept | ⟨other,error,same,-⟩)
    · have beyond : s.replies.length ≤ list.length := (prefix_concat.mp kept).2
      exact Nat.min_eq_right beyond
    · obtain ⟨-,last⟩ := List.append_inj' same rfl
      simp at last
  · intro next
    exact .inl (before.payload next).1

end Script

end MiniPP
