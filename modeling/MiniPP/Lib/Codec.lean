import Mathlib.Data.List.Basic
import Mathlib.Tactic.Ring

/-! Self-delimiting codecs: what one has written is read back from the front of any data.
Codecs of a record's fields, one after the other, make a codec of the record. -/
namespace MiniPP

/-- `Fits` are the values that the type of the field can hold. -/
structure Codec (β α : Type*) where
  Fits : α → Prop
  write : α → List β
  read : List β → Option (α × List β)
  read_write : ∀ a rest, Fits a → read (write a ++ rest) = some (a,rest)

namespace Codec

variable {β α γ : Type*}

/-- One field after the other. -/
def pair (x : Codec β α) (y : Codec β γ) : Codec β (α × γ) where
  Fits p := x.Fits p.1 ∧ y.Fits p.2
  write p := x.write p.1 ++ y.write p.2
  read data := (x.read data).bind (fun (a,rest) => (y.read rest).map (fun (c,rest) => ((a,c),rest)))
  read_write := by
    intro p rest fits
    rw [List.append_assoc,x.read_write _ _ fits.1,Option.bind_some]
    dsimp only
    rw [y.read_write _ _ fits.2,Option.map_some]

/-- The fields of a record. -/
def record (x : Codec β α) (make : α → γ) (fields : γ → α) (same : ∀ c, make (fields c) = c) :
    Codec β γ where
  Fits c := x.Fits (fields c)
  write c := x.write (fields c)
  read data := (x.read data).map (fun (a,rest) => (make a,rest))
  read_write := by
    intro c rest fits
    rw [x.read_write _ _ fits,Option.map_some]
    dsimp only
    rw [same]

/-! ## Numbers -/

def toBigEndian : Nat → Nat → List UInt8
  | 0, _ => []
  | k + 1, n => (n / 256^k).toUInt8 :: toBigEndian k n

def ofBigEndian (data : List UInt8) : Nat := data.foldl (fun acc b => acc * 256 + b.toNat) 0

@[simp] theorem length_toBigEndian (k n : Nat) : (toBigEndian k n).length = k := by
  induction k with
  | zero => rfl
  | succ k ih => rw [toBigEndian,List.length_cons,ih]

theorem foldl_toBigEndian (k n acc : Nat) :
    (toBigEndian k n).foldl (fun acc b => acc * 256 + b.toNat) acc = acc * 256^k + n % 256^k := by
  induction k generalizing acc with
  | zero => simp [toBigEndian,Nat.mod_one]
  | succ k ih =>
    have digit : (n / 256^k).toUInt8.toNat = n / 256^k % 256 := UInt8.toNat_ofNat'
    rw [toBigEndian,List.foldl_cons,ih,digit,Nat.mod_pow_succ]
    ring

/-- `k` bytes, the highest first. -/
def bigEndian (k : Nat) : Codec UInt8 Nat where
  Fits n := n < 256^k
  write := toBigEndian k
  read data := if data.length < k then none else some (ofBigEndian (data.take k),data.drop k)
  read_write := by
    intro n rest fits
    have size := length_toBigEndian k n
    have long : ¬ (toBigEndian k n ++ rest).length < k := by
      rw [List.length_append,size]
      omega
    have value : ofBigEndian (toBigEndian k n) = n := by
      rw [ofBigEndian,foldl_toBigEndian,Nat.mod_eq_of_lt fits,Nat.zero_mul,Nat.zero_add]
    rw [if_neg long,List.take_left' size,List.drop_left' size,value]

/-- A number of elements, and then as many. -/
def counted (size : Codec β Nat) : Codec β (List β) where
  Fits list := size.Fits list.length
  write list := size.write list.length ++ list
  read data := (size.read data).bind (fun (n,rest) =>
    if rest.length < n then none else some (rest.take n,rest.drop n))
  read_write := by
    intro list rest fits
    have long : ¬ (list ++ rest).length < list.length := by
      rw [List.length_append]
      omega
    rw [List.append_assoc,size.read_write _ _ fits,Option.bind_some]
    dsimp only
    rw [if_neg long,List.take_left,List.drop_left]

end Codec

end MiniPP
