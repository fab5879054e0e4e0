import Mathlib.Data.List.Nodup
import Mathlib.Logic.Function.Basic

/-! A bounded storage that hands out keys and never hands out one twice. Which key the
next acquisition gets is left to a `KeySource`, so that results about a storage hold
for any numbering of its slots. -/
namespace MiniPP

/-! ## Lists of keys -/

/-- A list after an object leaves it, and after the object moves to its tail. -/
def without (list : List Nat) (id : Nat) : List Nat := list.filter (fun other => !(other == id))

def toTail (list : List Nat) (id : Nat) : List Nat := without list id ++ [id]

@[simp,grind =] theorem mem_without {list : List Nat} {id other : Nat} :
    other ∈ without list id ↔ other ∈ list ∧ other ≠ id := by simp [without]

@[simp,grind =] theorem mem_toTail {list : List Nat} {id other : Nat} :
    other ∈ toTail list id ↔ (other ∈ list ∧ other ≠ id) ∨ other = id := by simp [toTail]

theorem nodup_without {list : List Nat} (nodup : list.Nodup) (id : Nat) : (without list id).Nodup :=
  nodup.sublist List.filter_sublist

theorem without_absent {list : List Nat} {id : Nat} (absent : id ∉ list) : without list id = list := by
  unfold without
  rw [List.filter_eq_self]
  intro other member
  simpa using fun same : other = id => absent (same ▸ member)

theorem without_append (front back : List Nat) (id : Nat) :
    without (front ++ back) id = without front id ++ without back id := List.filter_append front back

theorem perm_without {list : List Nat} {id : Nat} (once : list.Nodup) (member : id ∈ list) :
    list.Perm (id :: without list id) := by
  have erased := List.perm_cons_erase member
  rwa [once.erase_eq_filter] at erased

theorem without_head {list : List Nat} {id : Nat} (absent : id ∉ list) : without (id :: list) id = list :=
  (List.filter_cons_of_neg (by simp)).trans (without_absent absent)

theorem nodup_toTail {list : List Nat} (nodup : list.Nodup) (id : Nat) : (toTail list id).Nodup := by
  refine List.nodup_append.mpr ⟨nodup_without nodup id,by simp,?_⟩
  intro other member last same
  rw [List.mem_singleton] at same
  exact fun equal => (mem_without.mp member).2 (equal.trans same)

/-- Moving an object to the tail keeps an order that lets it be last. -/
theorem pairwise_toTail {R R' : Nat → Nat → Prop} {list : List Nat} {id : Nat} (order : list.Pairwise R)
    (kept : ∀ a b, a ≠ id → b ≠ id → R a b → R' a b) (last : ∀ a ∈ list, a ≠ id → R' a id) :
    (toTail list id).Pairwise R' := by
  apply List.pairwise_append.mpr
  refine ⟨?_,List.pairwise_singleton R' id,?_⟩
  · apply (order.sublist List.filter_sublist).imp_of_mem
    intro a b memberA memberB before
    exact kept a b (mem_without.mp memberA).2 (mem_without.mp memberB).2 before
  · intro a member b isLast
    obtain rfl := List.mem_singleton.mp isLast
    obtain ⟨inside,apart⟩ := mem_without.mp member
    exact last a inside apart

/-! ## Tables -/

section Update

variable {α β : Type*} [DecidableEq α] {table : α → Option β} {a b : α} {x y : β}

/-- What is found after an entry was set or erased. -/
theorem of_update_some (found : Function.update table a (some x) b = some y) :
    (b = a ∧ y = x) ∨ (b ≠ a ∧ table b = some y) := by
  by_cases same : b = a
  · rw [same,Function.update_self] at found
    exact .inl ⟨same,(Option.some.inj found).symm⟩
  · rw [Function.update_of_ne same] at found
    exact .inr ⟨same,found⟩

theorem of_update_none (found : Function.update table a none b = some y) : b ≠ a ∧ table b = some y := by
  by_cases same : b = a
  · rw [same,Function.update_self] at found
    cases found
  · rw [Function.update_of_ne same] at found
    exact ⟨same,found⟩

end Update

/-- Erasing a key of an association list that has it once takes one entry off. -/
theorem length_without_key {κ β : Type*} [BEq κ] [LawfulBEq κ] {entries : List (κ × β)}
    (distinct : (entries.map Prod.fst).Nodup) {key : κ} (member : key ∈ entries.map Prod.fst) :
    (entries.filter (fun entry => !(entry.1 == key))).length + 1 = entries.length := by
  have others := List.length_erase_of_mem member
  have positive := List.length_pos_of_mem member
  rw [distinct.erase_eq_filter,List.filter_map,List.length_map,List.length_map] at others
  rw [List.length_map] at positive
  have same : (fun entry : κ × β => !(entry.1 == key)) = (fun other => other != key) ∘ Prod.fst := rfl
  rw [same]
  omega

/-! ## Storages -/

/-- Key number `n` is the one given to the `n`-th successful acquisition; 0 is no key. -/
structure KeySource where
  key : Nat → Nat
  injective : Function.Injective key
  nonzero : ∀ n, key n ≠ 0

def KeySource.sequential : KeySource := ⟨(· + 1),fun _ _ h => Nat.succ.inj h,Nat.succ_ne_zero⟩

structure Storage (keys : KeySource) (α : Type) where
  capacity : Nat
  issued : Nat
  entries : List (Nat × α)
  fresh : ∀ entry ∈ entries, ∃ n < issued, entry.1 = keys.key n
  distinct : (entries.map Prod.fst).Nodup

namespace Storage

variable {keys : KeySource} {α : Type}

def empty (keys : KeySource) (α : Type) (capacity : Nat) : Storage keys α :=
  ⟨capacity,0,[],by simp,by simp⟩

/-- The key was handed out at some time, whether or not its slot is still in use. -/
def Issued (s : Storage keys α) (id : Nat) : Prop := ∃ n < s.issued, id = keys.key n

def find? (s : Storage keys α) (id : Nat) : Option α :=
  (s.entries.find? (fun entry => entry.1 == id)).map Prod.snd

def nextKey (s : Storage keys α) : Nat := keys.key s.issued

/-- Occupies a slot, or changes nothing when all are in use. The value may mention its key. -/
def acquire (s : Storage keys α) (value : Nat → α) : Option (Nat × Storage keys α) :=
  if s.entries.length < s.capacity then
    some (s.nextKey,⟨s.capacity,s.issued + 1,(s.nextKey,value s.nextKey) :: s.entries,
      by
        intro entry member
        rcases List.mem_cons.mp member with rfl | old
        · exact ⟨s.issued,Nat.lt_succ_self _,rfl⟩
        · obtain ⟨n,bound,same⟩ := s.fresh entry old
          exact ⟨n,Nat.lt_succ_of_lt bound,same⟩,
      by
        refine List.nodup_cons.mpr ⟨?_,s.distinct⟩
        intro member
        obtain ⟨entry,old,same⟩ := List.mem_map.mp member
        obtain ⟨n,bound,key⟩ := s.fresh entry old
        have := keys.injective (key.symm.trans same)
        omega⟩)
  else none

def release (s : Storage keys α) (id : Nat) : Storage keys α :=
  ⟨s.capacity,s.issued,s.entries.filter (fun entry => !(entry.1 == id)),
    fun entry member => s.fresh entry (List.mem_filter.mp member).1,
    s.distinct.sublist (List.filter_sublist.map _)⟩

def modify (s : Storage keys α) (id : Nat) (f : α → α) : Storage keys α :=
  ⟨s.capacity,s.issued,s.entries.map (fun entry => if entry.1 = id then (entry.1,f entry.2) else entry),
    by
      intro entry member
      obtain ⟨old,inside,rfl⟩ := List.mem_map.mp member
      have := s.fresh old inside
      split <;> simpa using this,
    by
      have same : ∀ entry : Nat × α,
          (if entry.1 = id then (entry.1,f entry.2) else entry).1 = entry.1 := by
        intro entry; split <;> rfl
      simpa [List.map_map,Function.comp_def,same] using s.distinct⟩

private theorem lookup_of_mem {entries : List (Nat × α)} (nodup : (entries.map Prod.fst).Nodup)
    {id : Nat} {value : α} (member : (id,value) ∈ entries) :
    (entries.find? (fun entry => entry.1 == id)).map Prod.snd = some value := by
  induction entries with
  | nil => simp at member
  | cons entry rest ih =>
    rw [List.map_cons,List.nodup_cons] at nodup
    rcases List.mem_cons.mp member with rfl | later
    · simp
    · have apart : entry.1 ≠ id := by
        intro same
        exact nodup.1 (same ▸ List.mem_map.mpr ⟨_,later,rfl⟩)
      simpa [List.find?_cons,apart] using ih nodup.2 later

theorem find?_of_mem {s : Storage keys α} {id : Nat} {value : α}
    (member : (id,value) ∈ s.entries) : s.find? id = some value :=
  lookup_of_mem s.distinct member

theorem mem_of_find? {s : Storage keys α} {id : Nat} {value : α}
    (found : s.find? id = some value) : (id,value) ∈ s.entries := by
  obtain ⟨entry,at_,rfl⟩ := Option.map_eq_some_iff.mp found
  have key : entry.1 = id := by simpa using List.find?_some at_
  exact key ▸ List.mem_of_find?_eq_some at_

theorem find?_iff {s : Storage keys α} {id : Nat} {value : α} :
    s.find? id = some value ↔ (id,value) ∈ s.entries := ⟨mem_of_find?,find?_of_mem⟩

@[simp] theorem find?_empty (capacity id : Nat) : (empty keys α capacity).find? id = none := rfl

theorem issued_of_find? {s : Storage keys α} {id : Nat} {value : α}
    (found : s.find? id = some value) : s.Issued id :=
  s.fresh _ (mem_of_find? found)

theorem ne_zero_of_find? {s : Storage keys α} {id : Nat} {value : α}
    (found : s.find? id = some value) : id ≠ 0 := by
  obtain ⟨n,-,rfl⟩ := issued_of_find? found
  exact keys.nonzero n

@[simp] theorem find?_zero (s : Storage keys α) : s.find? 0 = none := by
  cases h : s.find? 0 with
  | none => rfl
  | some value => exact absurd rfl (ne_zero_of_find? h)

theorem not_issued_nextKey (s : Storage keys α) : ¬ s.Issued s.nextKey := by
  rintro ⟨n,bound,same⟩
  have := keys.injective same
  omega

@[simp] theorem find?_nextKey (s : Storage keys α) : s.find? s.nextKey = none := by
  cases h : s.find? s.nextKey with
  | none => rfl
  | some value => exact absurd (issued_of_find? h) s.not_issued_nextKey

theorem nextKey_ne_zero (s : Storage keys α) : s.nextKey ≠ 0 := keys.nonzero _

/-- Everything an acquisition does. -/
theorem acquire_spec {s s' : Storage keys α} {value : Nat → α} {id : Nat}
    (acquired : s.acquire value = some (id,s')) :
    id = s.nextKey ∧ s'.entries = (id,value id) :: s.entries ∧ s'.issued = s.issued + 1 ∧
      s'.capacity = s.capacity := by
  unfold acquire at acquired
  split at acquired
  · obtain ⟨rfl,rfl⟩ := Prod.mk.inj (Option.some.inj acquired)
    exact ⟨rfl,rfl,rfl,rfl⟩
  · exact absurd acquired (by simp)

theorem acquire_eq_none {s : Storage keys α} {value : Nat → α} :
    s.acquire value = none ↔ s.capacity ≤ s.entries.length := by
  unfold acquire
  split <;> simp <;> omega

theorem find?_acquire {s s' : Storage keys α} {value : Nat → α} {id : Nat}
    (acquired : s.acquire value = some (id,s')) (other : Nat) :
    s'.find? other = if other = id then some (value id) else s.find? other := by
  obtain ⟨-,entries,-⟩ := acquire_spec acquired
  unfold find?
  rw [entries,List.find?_cons]
  by_cases same : other = id
  · simp [same]
  · have : (id == other) = false := by simpa using Ne.symm same
    simp [this,same]

theorem find?_release (s : Storage keys α) (id other : Nat) :
    (s.release id).find? other = if other = id then none else s.find? other := by
  by_cases same : other = id
  · subst same
    cases h : (s.release other).find? other with
    | none => simp
    | some value => simpa [release] using mem_of_find? h
  · rw [if_neg same]
    apply Option.ext
    intro value
    rw [find?_iff,find?_iff]
    simp [release,same]

private theorem lookup_map (entries : List (Nat × α)) (id other : Nat) (f : α → α) :
    ((entries.map (fun entry => if entry.1 = id then (entry.1,f entry.2) else entry)).find?
        (fun entry => entry.1 == other)).map Prod.snd =
      if other = id then ((entries.find? (fun entry => entry.1 == id)).map Prod.snd).map f
      else (entries.find? (fun entry => entry.1 == other)).map Prod.snd := by
  induction entries with
  | nil => simp
  | cons entry rest ih =>
    by_cases here : entry.1 = id
    · by_cases same : other = id
      · simp [here,same]
      · have apart : (id == other) = false := by simpa using Ne.symm same
        simp only [List.map_cons,here,if_true,List.find?_cons,apart]
        simpa [same] using ih
    · by_cases this : entry.1 = other
      · have same : other ≠ id := fun h => here (this.trans h)
        simp [this,same]
      · have apart : (entry.1 == other) = false := by simpa using this
        have apart' : (entry.1 == id) = false := by simpa using here
        simp only [List.map_cons,here,if_false,List.find?_cons,apart,apart']
        exact ih

theorem find?_modify (s : Storage keys α) (id other : Nat) (f : α → α) :
    (s.modify id f).find? other = if other = id then (s.find? id).map f else s.find? other :=
  lookup_map s.entries id other f

/-- What is found after a change was found before it. -/
theorem of_find?_acquire {s s' : Storage keys α} {value : Nat → α} {id other : Nat} {found : α}
    (acquired : s.acquire value = some (id,s')) (there : s'.find? other = some found) :
    (other = id ∧ found = value id) ∨ (other ≠ id ∧ s.find? other = some found) := by
  rw [find?_acquire acquired] at there
  split at there
  · rename_i same
    exact .inl ⟨same,(Option.some.inj there).symm⟩
  · rename_i apart
    exact .inr ⟨apart,there⟩

theorem of_find?_release {s : Storage keys α} {id other : Nat} {found : α}
    (there : (s.release id).find? other = some found) : other ≠ id ∧ s.find? other = some found := by
  rw [find?_release] at there
  split at there
  · cases there
  · rename_i apart
    exact ⟨apart,there⟩

theorem of_find?_modify {s : Storage keys α} {id other : Nat} {f : α → α} {found : α}
    (there : (s.modify id f).find? other = some found) :
    (other = id ∧ ∃ old, s.find? id = some old ∧ found = f old) ∨
      (other ≠ id ∧ s.find? other = some found) := by
  rw [find?_modify] at there
  split at there
  · rename_i same
    obtain ⟨old,before,rfl⟩ := Option.map_eq_some_iff.mp there
    exact .inl ⟨same,old,before,rfl⟩
  · rename_i apart
    exact .inr ⟨apart,there⟩

/-- What a change of the entries does not touch can be read before it. -/
theorem map_find?_modify {β : Type*} {g : α → β} {f : α → α} (same : ∀ value, g (f value) = g value)
    (s : Storage keys α) (id other : Nat) :
    ((s.modify id f).find? other).map g = (s.find? other).map g := by
  rw [find?_modify]
  split
  · rename_i here
    rw [here,Option.map_map]
    exact congrArg (fun h => (s.find? id).map h) (funext same)
  · rfl

@[simp] theorem issued_release (s : Storage keys α) (id other : Nat) :
    (s.release id).Issued other ↔ s.Issued other := Iff.rfl

@[simp] theorem issued_modify (s : Storage keys α) (id other : Nat) (f : α → α) :
    (s.modify id f).Issued other ↔ s.Issued other := Iff.rfl

theorem issued_acquire {s s' : Storage keys α} {value : Nat → α} {id : Nat}
    (acquired : s.acquire value = some (id,s')) (other : Nat) :
    s'.Issued other ↔ other = id ∨ s.Issued other := by
  obtain ⟨key,-,count,-⟩ := acquire_spec acquired
  unfold Issued
  rw [count]
  constructor
  · rintro ⟨n,bound,rfl⟩
    rcases Nat.lt_succ_iff_lt_or_eq.mp bound with old | rfl
    · exact .inr ⟨n,old,rfl⟩
    · exact .inl key.symm
  · rintro (rfl | ⟨n,bound,rfl⟩)
    · exact ⟨s.issued,Nat.lt_succ_self _,key⟩
    · exact ⟨n,Nat.lt_succ_of_lt bound,rfl⟩

/-- A key just handed out was never in use before. -/
theorem acquired_fresh {s s' : Storage keys α} {value : Nat → α} {id : Nat}
    (acquired : s.acquire value = some (id,s')) : s.find? id = none ∧ ¬ s.Issued id := by
  obtain ⟨rfl,-⟩ := acquire_spec acquired
  exact ⟨s.find?_nextKey,s.not_issued_nextKey⟩

@[simp] theorem length_modify (s : Storage keys α) (id : Nat) (f : α → α) :
    (s.modify id f).entries.length = s.entries.length := List.length_map _

@[simp] theorem capacity_modify (s : Storage keys α) (id : Nat) (f : α → α) :
    (s.modify id f).capacity = s.capacity := rfl

/-- A key that resolves frees one slot. -/
theorem length_release {s : Storage keys α} {id : Nat} {value : α} (found : s.find? id = some value) :
    (s.release id).entries.length + 1 = s.entries.length :=
  length_without_key s.distinct (List.mem_map.mpr ⟨_,mem_of_find? found,rfl⟩)

/-- The slots in use are as many as the keys that resolve. -/
theorem length_entries {s : Storage keys α} {ids : List Nat} (nodup : ids.Nodup)
    (resolve : ∀ id, id ∈ ids ↔ s.find? id ≠ none) : s.entries.length = ids.length := by
  have same : ∀ id, id ∈ s.entries.map Prod.fst ↔ id ∈ ids := by
    intro id
    rw [resolve,Option.ne_none_iff_exists']
    constructor
    · intro member
      obtain ⟨⟨_,value⟩,inside,rfl⟩ := List.mem_map.mp member
      exact ⟨value,find?_of_mem inside⟩
    · rintro ⟨value,found⟩
      exact List.mem_map.mpr ⟨_,mem_of_find? found,rfl⟩
  have perm := (List.perm_ext_iff_of_nodup s.distinct nodup).mpr same
  simpa using perm.length_eq

/-- The slot of a key, and the others. -/
theorem entries_perm {s : Storage keys α} {id : Nat} {value : α} (found : s.find? id = some value) :
    s.entries.Perm ((id,value) :: (s.release id).entries) := by
  have new : (id,value) ∉ (s.release id).entries := by simp [release]
  refine (List.perm_ext_iff_of_nodup s.distinct.of_map ?_).mpr fun entry => ?_
  · exact List.nodup_cons.mpr ⟨new,(s.release id).distinct.of_map⟩
  rw [List.mem_cons]
  constructor
  · intro member
    by_cases same : entry.1 = id
    · have here : s.find? entry.1 = some entry.2 := find?_of_mem member
      rw [same,found] at here
      exact .inl (Prod.ext same (Option.some.inj here).symm)
    · exact .inr (by simpa [release,same] using member)
  · rintro (rfl | member)
    · exact mem_of_find? found
    · exact (List.mem_filter.mp member).1

theorem modify_perm {s : Storage keys α} {id : Nat} {value : α} (found : s.find? id = some value)
    (f : α → α) : (s.modify id f).entries.Perm ((id,f value) :: (s.release id).entries) := by
  have changed : (s.modify id f).find? id = some (f value) := by rw [find?_modify,if_pos rfl,found]; rfl
  have others : ((s.modify id f).release id).entries = (s.release id).entries := by
    unfold release modify
    dsimp only
    induction s.entries with
    | nil => rfl
    | cons entry rest ih =>
      by_cases same : entry.1 = id
      · simpa [List.filter_cons,same] using ih
      · simpa [List.filter_cons,same] using ih
  rw [← others]
  exact entries_perm changed

theorem modify_modify (s : Storage keys α) (id : Nat) (f g : α → α) :
    (s.modify id f).modify id g = s.modify id (fun value => g (f value)) := by
  have same : (s.entries.map (fun entry => if entry.1 = id then (entry.1,f entry.2) else entry)).map
      (fun entry => if entry.1 = id then (entry.1,g entry.2) else entry) =
        s.entries.map (fun entry => if entry.1 = id then (entry.1,g (f entry.2)) else entry) := by
    rw [List.map_map]
    refine List.map_congr_left fun entry _ => ?_
    by_cases here : entry.1 = id <;> simp [here]
  simp only [modify,same]

end Storage

end MiniPP
