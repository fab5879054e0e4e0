import MiniPP.Lib.Codec

/-! Programs that read a record back, member by member, from what was written of it. -/
namespace MiniPP

universe u

/-- A value to be written, with its kind. -/
structure Member {κ : Type*} (Value : κ → Type u) where
  kind : κ
  value : Value kind

/-- Values of each kind have a codec. -/
structure Format (β : Type u) {κ : Type*} (Value : κ → Type u) where
  codec : (kind : κ) → Codec β (Value kind)

/-- Takes from the front of the data, or fails. -/
abbrev Reader (β α : Type u) := StateT (List β) Option α

namespace Codec

variable {β α γ : Type*}

/-- What is read takes up as much as it would when it is written. -/
def Exact (c : Codec β α) : Prop :=
  ∀ data a rest, c.read data = some (a,rest) → data.length = (c.write a).length + rest.length

theorem exact_bigEndian (k : Nat) : (bigEndian k).Exact := by
  intro data n rest found
  simp only [bigEndian] at found
  split at found
  · cases found
  · obtain ⟨-,rfl⟩ := Prod.mk.inj (Option.some.inj found)
    simp only [bigEndian,length_toBigEndian,List.length_drop]
    omega

theorem exact_counted {size : Codec β Nat} (exact : size.Exact) : (counted size).Exact := by
  intro data list rest found
  simp only [counted,Option.bind_eq_some_iff,Prod.exists] at found
  obtain ⟨n,behind,head,found⟩ := found
  split at found
  · cases found
  · rename_i enough
    obtain ⟨rfl,rfl⟩ := Prod.mk.inj (Option.some.inj found)
    have length : (behind.take n).length = n := by
      rw [List.length_take]
      omega
    have headSize := exact data n behind head
    simp only [counted,length,List.length_append,List.length_drop]
    omega

end Codec

namespace Format

variable {β α γ : Type u} {κ : Type*} {Value : κ → Type u} (f : Format β Value)

def write (m : Member Value) : List β := (f.codec m.kind).write m.value

def serialize (ms : List (Member Value)) : List β := ms.flatMap f.write

def read (kind : κ) : Reader β (Value kind) := (f.codec kind).read

def Fits (ms : List (Member Value)) : Prop := ∀ m ∈ ms, (f.codec m.kind).Fits m.value

@[simp] theorem serialize_nil : f.serialize [] = [] := rfl

@[simp] theorem serialize_cons (m : Member Value) (ms : List (Member Value)) :
    f.serialize (m :: ms) = f.write m ++ f.serialize ms := List.flatMap_cons

@[simp] theorem serialize_append (ms ms' : List (Member Value)) :
    f.serialize (ms ++ ms') = f.serialize ms ++ f.serialize ms' := List.flatMap_append

/-- Records of a bounded size. -/
theorem length_serialize_flatMap {members : α → List (Member Value)} {size : Nat} {list : List α}
    (each : ∀ a ∈ list, (f.serialize (members a)).length ≤ size) :
    (f.serialize (list.flatMap members)).length ≤ size * list.length := by
  induction list with
  | nil => simp
  | cons a list ih =>
    have first : (f.serialize (members a)).length ≤ size := each a List.mem_cons_self
    have others : (f.serialize (list.flatMap members)).length ≤ size * list.length :=
      ih (fun b member => each b (List.mem_cons_of_mem a member))
    rw [List.flatMap_cons,serialize_append,List.length_append,List.length_cons,Nat.mul_succ]
    omega

/-- Reading the member that the data starts with. -/
theorem run_next {kind : κ} {v : Value kind} (fit : (f.codec kind).Fits v) (g : Value kind → Reader β α)
    (ms : List (Member Value)) (rest : List β) :
    (f.read kind >>= g).run (f.serialize (⟨kind,v⟩ :: ms) ++ rest) =
      (g v).run (f.serialize ms ++ rest) := by
  have head : (f.read kind).run (f.write ⟨kind,v⟩ ++ (f.serialize ms ++ rest)) =
      some (v,f.serialize ms ++ rest) := (f.codec kind).read_write v _ fit
  rw [StateT.run_bind,serialize_cons,List.append_assoc,head]
  rfl

/-! ## What is read back -/

/-- From the front of any data that starts with these members, the program gets `a` and leaves
what is behind them. -/
def Delivers (r : Reader β α) (ms : List (Member Value)) (a : α) : Prop :=
  f.Fits ms → ∀ rest, r.run (f.serialize ms ++ rest) = some (a,rest)

namespace Delivers

variable {f}

theorem pure (a : α) : f.Delivers (Pure.pure a) [] a := fun _ _ => rfl

theorem bind {r : Reader β α} {g : α → Reader β γ} {ms ms' : List (Member Value)} {a : α} {c : γ}
    (first : f.Delivers r ms a) (second : f.Delivers (g a) ms' c) : f.Delivers (r >>= g) (ms ++ ms') c := by
  intro fits rest
  have head := first (fun m member => fits m (List.mem_append_left _ member)) (f.serialize ms' ++ rest)
  have tail := second (fun m member => fits m (List.mem_append_right _ member)) rest
  rw [StateT.run_bind,serialize_append,List.append_assoc,head]
  exact tail

/-- Reading a member, and then what follows it. -/
theorem next {kind : κ} {v : Value kind} {g : Value kind → Reader β α} {ms : List (Member Value)} {a : α}
    (later : f.Delivers (g v) ms a) : f.Delivers (f.read kind >>= g) (⟨kind,v⟩ :: ms) a := by
  intro fits rest
  rw [f.run_next (fits ⟨kind,v⟩ List.mem_cons_self)]
  exact later (fun m member => fits m (List.mem_cons_of_mem _ member)) rest

/-- Behind all members nothing is left. -/
theorem run {r : Reader β α} {ms : List (Member Value)} {a : α} (delivers : f.Delivers r ms a)
    (fits : f.Fits ms) : r.run (f.serialize ms) = some (a,[]) := by
  simpa using delivers fits []

end Delivers

/-! ## What is taken -/

/-- Whatever the program gets, it has taken an amount that `S` allows for it. -/
def Takes (r : Reader β α) (S : α → Nat → Prop) : Prop :=
  ∀ data a rest, r.run data = some (a,rest) → ∃ n, data.length = n + rest.length ∧ S a n

namespace Takes

variable {f}

theorem pure {a : α} {S : α → Nat → Prop} (nothing : S a 0) :
    Takes (Pure.pure a : Reader β α) S := by
  intro data a' rest found
  obtain ⟨rfl,rfl⟩ := Prod.mk.inj (Option.some.inj found)
  exact ⟨0,by omega,nothing⟩

theorem failure {S : α → Nat → Prop} : Takes (Alternative.failure : Reader β α) S := by
  intro data a rest found
  cases found

theorem bind {r : Reader β α} {g : α → Reader β γ} {S : α → Nat → Prop} {T : γ → Nat → Prop}
    (first : Takes r S) (second : ∀ a n, S a n → Takes (g a) (fun c n' => T c (n + n'))) :
    Takes (r >>= g) T := by
  intro data c rest found
  rw [StateT.run_bind] at found
  obtain ⟨⟨a,behind⟩,head,tail⟩ := Option.bind_eq_some_iff.mp found
  obtain ⟨n,length,taken⟩ := first data a behind head
  obtain ⟨n',length',taken'⟩ := second a n taken behind c rest tail
  exact ⟨n + n',by omega,taken'⟩

theorem member {kind : κ} (exact : (f.codec kind).Exact) :
    Takes (f.read kind) (fun v n => n = ((f.codec kind).write v).length) := by
  intro data v rest found
  exact ⟨_,exact data v rest found,rfl⟩

theorem next {kind : κ} {g : Value kind → Reader β α} {S : α → Nat → Prop} (exact : (f.codec kind).Exact)
    (later : ∀ v, Takes (g v) (fun a n => S a (((f.codec kind).write v).length + n))) :
    Takes (f.read kind >>= g) S := by
  apply bind (member exact)
  rintro v n rfl
  exact later v

end Takes

/-! ## Lists -/

variable {f}

/-- As many records as there are said to be. -/
def times (r : Reader β α) : Nat → Reader β (List α)
  | 0 => pure []
  | n + 1 => do return (← r) :: (← times r n)

theorem Delivers.times {r : Reader β α} {members : α → List (Member Value)}
    (each : ∀ a, f.Delivers r (members a) a) (list : List α) :
    f.Delivers (Format.times r list.length) (list.flatMap members) list := by
  induction list with
  | nil => exact Delivers.pure []
  | cons a list ih =>
    rw [List.flatMap_cons,← List.append_nil (list.flatMap members)]
    exact (each a).bind (ih.bind (.pure _))

theorem Takes.times {r : Reader β α} {size : α → Nat} (each : Takes r (fun a n => n = size a)) (count : Nat) :
    Takes (Format.times r count) (fun list n => list.length = count ∧ n = (list.map size).sum) := by
  induction count with
  | zero => exact Takes.pure ⟨rfl,rfl⟩
  | succ count ih =>
    apply Takes.bind each
    rintro a n rfl
    apply Takes.bind ih
    rintro list n ⟨length,rfl⟩
    exact Takes.pure ⟨by rw [List.length_cons,length],by rw [List.map_cons,List.sum_cons]; rfl⟩

end Format

end MiniPP
