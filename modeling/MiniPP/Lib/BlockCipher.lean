import Mathlib.Data.Fintype.Vector
import Mathlib.Data.List.Basic
import Mathlib.Tactic.Ring

/-! Block ciphers, block after block, and the padding that fills a text up to whole blocks with
bytes that each say how many there are of them. -/
namespace MiniPP

abbrev Block (size : Nat) := { bytes : List UInt8 // bytes.length = size }

instance finiteByte : Finite UInt8 := .of_injective UInt8.toFin (fun _ _ same => UInt8.toFin_inj.mp same)

instance finiteBlock (size : Nat) : Finite (Block size) :=
  have : Fintype UInt8 := .ofFinite UInt8
  inferInstanceAs (Finite (List.Vector UInt8 size))

/-- The assumption is on one order of the two directions. -/
structure BlockCipher (size : Nat) where
  encrypt : Block size → Block size
  decrypt : Block size → Block size
  decrypt_encrypt : ∀ block, decrypt (encrypt block) = block

namespace BlockCipher

variable {size : Nat}

/-- There are only so many blocks, so that encryption reaches all of them. -/
theorem encrypt_decrypt (cipher : BlockCipher size) (block : Block size) :
    cipher.encrypt (cipher.decrypt block) = block := by
  have injective : Function.Injective cipher.encrypt :=
    Function.LeftInverse.injective cipher.decrypt_encrypt
  obtain ⟨plain,rfl⟩ := Finite.injective_iff_surjective.mp injective block
  rw [cipher.decrypt_encrypt]

/-! ## Block after block -/

def onBlock (f : Block size → Block size) (bytes : List UInt8) : List UInt8 :=
  if whole : bytes.length = size then (f ⟨bytes,whole⟩).1 else bytes

def mapBlocks (f : Block size → Block size) : Nat → List UInt8 → List UInt8
  | 0, _ => []
  | n + 1, text => onBlock f (text.take size) ++ mapBlocks f n (text.drop size)

theorem onBlock_block (f : Block size → Block size) (block : Block size) : onBlock f block.1 = (f block).1 :=
  dif_pos block.2

@[simp] theorem length_onBlock (f : Block size → Block size) (bytes : List UInt8) :
    (onBlock f bytes).length = bytes.length := by
  unfold onBlock
  split
  · rename_i whole
    exact (f ⟨bytes,whole⟩).2.trans whole.symm
  · rfl

theorem onBlock_inverse {f g : Block size → Block size} (inverse : ∀ block, g (f block) = block)
    (bytes : List UInt8) : onBlock g (onBlock f bytes) = bytes := by
  by_cases whole : bytes.length = size
  · rw [show onBlock f bytes = (f ⟨bytes,whole⟩).1 from onBlock_block f ⟨bytes,whole⟩,onBlock_block,inverse]
  · rw [show onBlock f bytes = bytes from dif_neg whole]
    exact dif_neg whole

theorem length_mapBlocks (f : Block size → Block size) {n : Nat} {text : List UInt8}
    (long : text.length = n * size) : (mapBlocks f n text).length = n * size := by
  induction n generalizing text with
  | zero => simp [mapBlocks]
  | succ n ih =>
    rw [Nat.succ_mul] at long ⊢
    have rest := ih (show (text.drop size).length = n * size by rw [List.length_drop]; omega)
    rw [mapBlocks,List.length_append,length_onBlock,rest,List.length_take]
    omega

theorem mapBlocks_inverse {f g : Block size → Block size} (inverse : ∀ block, g (f block) = block)
    {n : Nat} {text : List UInt8} (long : text.length = n * size) :
    mapBlocks g n (mapBlocks f n text) = text := by
  induction n generalizing text with
  | zero =>
    rw [Nat.zero_mul] at long
    exact (List.eq_nil_of_length_eq_zero long).symm
  | succ n ih =>
    rw [Nat.succ_mul] at long
    have first : (onBlock f (text.take size)).length = size := by
      rw [length_onBlock,List.length_take]
      omega
    have rest := ih (show (text.drop size).length = n * size by rw [List.length_drop]; omega)
    rw [mapBlocks,mapBlocks,List.take_left' first,List.drop_left' first,rest,onBlock_inverse inverse,
      List.take_append_drop]

/-- The last block by itself. -/
theorem mapBlocks_last (f : Block size → Block size) {n : Nat} {text : List UInt8}
    (long : text.length = (n + 1) * size) :
    mapBlocks f (n + 1) text = mapBlocks f n (text.take (n * size)) ++ onBlock f (text.drop (n * size)) := by
  induction n generalizing text with
  | zero =>
    have all : text.length = size := by simpa using long
    simp [mapBlocks,← all]
  | succ n ih =>
    have more : (n + 1 + 1) * size = (n + 1) * size + size := Nat.succ_mul _ _
    have split : (n + 1) * size = n * size + size := Nat.succ_mul _ _
    have rest := ih (show (text.drop size).length = (n + 1) * size by rw [List.length_drop]; omega)
    have tail : (text.drop size).drop (n * size) = text.drop ((n + 1) * size) := by
      rw [List.drop_drop,split,Nat.add_comm]
    have front : (text.drop size).take (n * size) = (text.take ((n + 1) * size)).drop size := by
      rw [List.drop_take,split,Nat.add_sub_cancel]
    have first : (text.take ((n + 1) * size)).take size = text.take size := by
      rw [List.take_take,split,Nat.min_eq_left (Nat.le_add_left _ _)]
    rw [mapBlocks,rest,tail,front,mapBlocks,first,List.append_assoc]

end BlockCipher

/-! ## Padding -/

namespace Padding

def count (size length : Nat) : Nat := size - length % size

def filler (n : Nat) : List UInt8 := List.replicate n n.toUInt8

def pad (size : Nat) (data : List UInt8) : List UInt8 := data ++ filler (count size data.length)

/-- The text ends in as many bytes as they say. -/
def Padded (size : Nat) (text : List UInt8) : Prop := ∃ n, 1 ≤ n ∧ n ≤ size ∧ filler n <:+ text

variable {size : Nat}

@[simp] theorem length_filler (n : Nat) : (filler n).length = n := List.length_replicate

theorem count_pos (pos : 0 < size) (length : Nat) : 1 ≤ count size length := by
  have below := Nat.mod_lt length pos
  unfold count
  omega

theorem count_le (length : Nat) : count size length ≤ size := Nat.sub_le _ _

theorem length_pad (data : List UInt8) : (pad size data).length = data.length + count size data.length := by
  rw [pad,List.length_append,length_filler]

theorem padded_pad (pos : 0 < size) (data : List UInt8) : Padded size (pad size data) :=
  ⟨count size data.length,count_pos pos _,count_le _,List.suffix_append _ _⟩

/-- How many bytes were filled in can be told from the length that came of it. -/
theorem count_of_dvd {length n : Nat} (whole : size ∣ length + n) (pos : 1 ≤ n) (le : n ≤ size) :
    count size length = n := by
  obtain ⟨k,total⟩ := whole
  unfold count
  cases k with
  | zero => omega
  | succ k =>
    rw [Nat.mul_succ] at total
    have split : length = size - n + size * k := by omega
    rw [split,Nat.add_mul_mod_self_left]
    by_cases full : n = size
    · rw [full,Nat.sub_self,Nat.zero_mod,Nat.sub_zero]
    · rw [Nat.mod_eq_of_lt (by omega)]
      omega

/-- A text of whole blocks is padded just if padding makes it of some data. -/
theorem padded_iff (pos : 0 < size) {text : List UInt8} (whole : size ∣ text.length) :
    Padded size text ↔ ∃ data, text = pad size data := by
  constructor
  · rintro ⟨n,least,most,data,rfl⟩
    rw [List.length_append,length_filler] at whole
    exact ⟨data,by rw [pad,count_of_dvd whole least most]⟩
  · rintro ⟨data,rfl⟩
    exact padded_pad pos data

/-- The padding lies in the last block. -/
theorem padded_append (front : List UInt8) {block : List UInt8} (long : block.length = size) :
    Padded size (front ++ block) ↔ Padded size block := by
  constructor
  · rintro ⟨n,least,most,suffix⟩
    refine ⟨n,least,most,?_⟩
    apply List.suffix_of_suffix_length_le suffix (List.suffix_append _ _)
    rw [length_filler,long]
    exact most
  · rintro ⟨n,least,most,suffix⟩
    exact ⟨n,least,most,suffix.trans (List.suffix_append _ _)⟩

/-- The last byte says how many there are. -/
theorem getLast?_append_filler {n : Nat} (least : 1 ≤ n) (data : List UInt8) :
    (data ++ filler n).getLast? = some n.toUInt8 := by
  obtain ⟨k,rfl⟩ := Nat.exists_eq_add_of_le' least
  rw [List.getLast?_append,filler,List.getLast?_replicate]
  simp

end Padding

end MiniPP
