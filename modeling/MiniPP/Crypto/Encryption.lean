import MiniPP.Lib.BlockCipher
import MiniPP.Xel
import Mathlib.Order.Bounds.Defs

/-! Encryption under an AES key, in the two vectors that it works with. -/
namespace MiniPP.Crypto

open BlockCipher Padding

/-- The block functions of mbedtls, by the bytes of the key that are read. -/
structure Aes where
  encryptEcb : Bytes → Block 16 → Block 16
  decryptEcb : Bytes → Block 16 → Block 16
  inverse : ∀ key, key.length = 16 → ∀ block, decryptEcb key (encryptEcb key block) = block

/-- The part of the key that `mbedtls_aes_setkey_enc` and `mbedtls_aes_setkey_dec` read. -/
def setkey (key : Bytes) (keyBits : Nat) : Bytes := key.take (keyBits / 8)

/-! ## The vectors -/

/-- `none` is an access outside of the vector. -/
def read16 (data : Bytes) (src : Nat) : Option (Block 16) :=
  if whole : ((data.drop src).take 16).length = 16 then some ⟨(data.drop src).take 16,whole⟩ else none

def write (r : Bytes) (dst : Nat) (bytes : Bytes) : Option Bytes :=
  if dst + bytes.length ≤ r.length then some (r.take dst ++ bytes ++ r.drop (dst + bytes.length)) else none

/-- `*Padding++ = byte`, as many times as there are bytes to fill in. -/
def fill (byte : UInt8) : Nat → Bytes → Nat → Option Bytes
  | 0, r, _ => some r
  | n + 1, r, padding => do
    let r ← write r padding [byte]
    fill byte n r (padding + 1)

/-- Both cursors move through the one vector. -/
def encryptBlocks (crypt : Block 16 → Block 16) : Nat → Bytes → Nat → Nat → Option Bytes
  | 0, r, _, _ => some r
  | n + 1, r, src, dst => do
    let block ← read16 r src
    let r ← write r dst (crypt block).1
    encryptBlocks crypt n r (src + 16) (dst + 16)

def decryptBlocks (crypt : Block 16 → Block 16) (data : Bytes) : Nat → Bytes → Nat → Nat → Option Bytes
  | 0, r, _, _ => some r
  | n + 1, r, src, dst => do
    let block ← read16 data src
    let r ← write r dst (crypt block).1
    decryptBlocks crypt data n r (src + 16) (dst + 16)

/-- A key of another size fails the assertion, which also is `none`. -/
def encrypt (aes : Aes) (data aesKey : Bytes) : Option Bytes :=
  if aesKey.length ≠ 128 then none
  else do
    let blocks := (data.length + 16) / 16
    let length := blocks * 16
    let paddingLength := length - data.length
    let r ← write (List.replicate (length * 2) 0) length data
    let r ← fill paddingLength.toUInt8 paddingLength r (length + data.length)
    let r ← encryptBlocks (aes.encryptEcb (setkey aesKey 128)) blocks r length 0
    some (r.take length)

def decrypt (aes : Aes) (data aesKey : Bytes) : Option Bytes :=
  if aesKey.length ≠ 128 then none
  else if data.length = 0 ∨ data.length % 16 ≠ 0 then some []
  else do
    let blocks := data.length / 16
    let r ← decryptBlocks (aes.decryptEcb (setkey aesKey aesKey.length)) data blocks
      (List.replicate data.length 0) 0 0
    let last ← r[data.length - 1]?
    let padding := last.toNat
    if data.length < padding then some [] else some (r.take (data.length - padding))

/-! ## The loops -/

/-- What lies before and behind stays. -/
theorem write_middle (front old bytes rest : Bytes) (same : bytes.length = old.length) :
    write (front ++ (old ++ rest)) front.length bytes = some (front ++ (bytes ++ rest)) := by
  unfold write
  rw [if_pos (by simp [same]),List.take_left,same,← List.drop_drop,List.drop_left,List.drop_left,
    List.append_assoc]

theorem fill_middle (byte : UInt8) {n : Nat} (front old rest : Bytes) (long : old.length = n) :
    fill byte n (front ++ (old ++ rest)) front.length = some (front ++ (List.replicate n byte ++ rest)) := by
  induction n generalizing front old with
  | zero =>
    rw [List.eq_nil_of_length_eq_zero long]
    rfl
  | succ n ih =>
    cases old with
    | nil => cases long
    | cons first old =>
      have turn := write_middle front [first] [byte] (old ++ rest) rfl
      have later := ih (front ++ [byte]) old (Nat.succ.inj long)
      rw [List.length_append,List.length_singleton,List.append_assoc] at later
      rw [fill,show front ++ (first :: old ++ rest) = front ++ ([first] ++ (old ++ rest)) from rfl,turn]
      simpa [List.replicate_succ] using later

theorem read16_block (data : Bytes) (src : Nat) (inside : src + 16 ≤ data.length) :
    ∃ block, read16 data src = some block ∧ block.1 = (data.drop src).take 16 := by
  have whole : ((data.drop src).take 16).length = 16 := by
    rw [List.length_take,List.length_drop]
    omega
  exact ⟨⟨_,whole⟩,dif_pos whole,rfl⟩

/-- A block is written over the zeros behind the cursor. -/
theorem write_block (front zeros rest : Bytes) (block : Block 16) (room : 16 ≤ zeros.length) :
    write (front ++ (zeros ++ rest)) front.length block.1 =
      some (front ++ (block.1 ++ (zeros.drop 16 ++ rest))) := by
  have parts : zeros = zeros.take 16 ++ zeros.drop 16 := (List.take_append_drop 16 zeros).symm
  have fits : block.1.length = (zeros.take 16).length := by
    rw [block.2,List.length_take]
    omega
  have writes := write_middle front _ _ (zeros.drop 16 ++ rest) fits
  rwa [← List.append_assoc (zeros.take 16),← parts] at writes

theorem encryptBlocks_eq (crypt : Block 16 → Block 16) {n : Nat} (k : Nat) (out zeros : Bytes)
    {text : Bytes}
    (room : zeros.length = n * 16) (long : text.length = k + n * 16) :
    encryptBlocks crypt n (out ++ (zeros ++ text)) (out.length + zeros.length + k) out.length =
      some (out ++ (mapBlocks crypt n (text.drop k) ++ text)) := by
  induction n generalizing k out zeros with
  | zero =>
    rw [Nat.zero_mul] at room
    rw [List.eq_nil_of_length_eq_zero room]
    rfl
  | succ n ih =>
    rw [Nat.succ_mul] at room long
    have behind : (out ++ (zeros ++ text)).drop (out.length + zeros.length + k) = text.drop k := by
      rw [← List.append_assoc,← List.drop_drop,← List.length_append,List.drop_left]
    obtain ⟨block,reads,bytes⟩ := read16_block (out ++ (zeros ++ text))
      (out.length + zeros.length + k) (by simp only [List.length_append]; omega)
    rw [behind] at bytes
    have writes := write_block out zeros text (crypt block) (by omega)
    have later := ih (k + 16) (out ++ (crypt block).1) (zeros.drop 16)
      (by rw [List.length_drop]; omega) (by omega)
    have cursor : (out ++ (crypt block).1).length + (zeros.drop 16).length + (k + 16) =
        out.length + zeros.length + k + 16 := by
      rw [List.length_append,(crypt block).2,List.length_drop]
      omega
    rw [cursor,List.length_append,(crypt block).2,List.append_assoc] at later
    rw [encryptBlocks,reads,Option.bind_eq_bind,Option.bind_some,writes,Option.bind_eq_bind,Option.bind_some,
      later,mapBlocks,← bytes,onBlock_block,List.drop_drop]
    simp only [List.append_assoc]

theorem decryptBlocks_eq (crypt : Block 16 → Block 16) {data : Bytes} {n : Nat} (k : Nat)
    (out zeros : Bytes)
    (room : zeros.length = n * 16) (long : data.length = k + n * 16) :
    decryptBlocks crypt data n (out ++ zeros) k out.length = some (out ++ mapBlocks crypt n (data.drop k)) := by
  induction n generalizing k out zeros with
  | zero =>
    rw [Nat.zero_mul] at room
    rw [List.eq_nil_of_length_eq_zero room]
    rfl
  | succ n ih =>
    rw [Nat.succ_mul] at room long
    obtain ⟨block,reads,bytes⟩ := read16_block data k (by omega)
    have writes := write_block out zeros [] (crypt block) (by omega)
    rw [List.append_nil,List.append_nil] at writes
    have later := ih (k + 16) (out ++ (crypt block).1) (zeros.drop 16)
      (by rw [List.length_drop]; omega) (by omega)
    rw [List.length_append,(crypt block).2,List.append_assoc] at later
    rw [decryptBlocks,reads,Option.bind_eq_bind,Option.bind_some,writes,Option.bind_eq_bind,Option.bind_some,
      later,mapBlocks,← bytes,onBlock_block,List.drop_drop,List.append_assoc]

/-! ## What the two functions compute -/

/-- The cipher under the bits that both directions read of a key. -/
def Aes.cipher (aes : Aes) (aesKey : Bytes) (size : aesKey.length = 128) : BlockCipher 16 where
  encrypt := aes.encryptEcb (setkey aesKey 128)
  decrypt := aes.decryptEcb (setkey aesKey 128)
  decrypt_encrypt := aes.inverse _ (by rw [setkey,List.length_take,size]; rfl)

variable {aes : Aes} {aesKey : Bytes}

theorem encrypt_eq (size : aesKey.length = 128) (data : Bytes) :
    encrypt aes data aesKey =
      some (mapBlocks (aes.cipher aesKey size).encrypt ((data.length + 16) / 16) (pad 16 data)) := by
  have whole := Nat.div_add_mod data.length 16
  have below := Nat.mod_lt data.length (show 0 < 16 by decide)
  have blocks : (data.length + 16) / 16 = data.length / 16 + 1 := Nat.add_div_right _ (by decide)
  have count : (data.length + 16) / 16 * 16 - data.length = count 16 data.length := by
    rw [blocks,Padding.count]
    omega
  have room : data.length + Padding.count 16 data.length = (data.length + 16) / 16 * 16 := by
    rw [blocks,Padding.count]
    omega
  unfold encrypt
  rw [if_neg (not_not.mpr size)]
  dsimp only
  rw [count]
  generalize (data.length + 16) / 16 = n at *
  have zeros : List.replicate (n * 16 * 2) (0 : UInt8) =
      List.replicate (n * 16) 0 ++ (List.replicate data.length 0 ++
        List.replicate (Padding.count 16 data.length) 0) := by
    rw [List.replicate_append_replicate,List.replicate_append_replicate,room,Nat.mul_two]
  have copied := write_middle (List.replicate (n * 16) 0) (List.replicate data.length 0) data
    (List.replicate (Padding.count 16 data.length) 0) (List.length_replicate).symm
  rw [← zeros,List.length_replicate] at copied
  have filled := fill_middle (Padding.count 16 data.length).toUInt8 (List.replicate (n * 16) 0 ++ data)
    (List.replicate (Padding.count 16 data.length) 0) [] List.length_replicate
  rw [List.append_nil,List.append_nil,List.length_append,List.length_replicate,List.append_assoc,
    List.append_assoc] at filled
  have long : (pad 16 data).length = 0 + n * 16 := by rw [length_pad,room,Nat.zero_add]
  have crypted := encryptBlocks_eq (aes.encryptEcb (setkey aesKey 128)) 0 [] (List.replicate (n * 16) 0)
    List.length_replicate long
  rw [List.length_replicate,List.length_nil,Nat.zero_add,Nat.add_zero,List.nil_append,List.nil_append,
    List.drop_zero] at crypted
  have front : (mapBlocks (aes.encryptEcb (setkey aesKey 128)) n (pad 16 data)).length = n * 16 :=
    length_mapBlocks _ (by rw [long,Nat.zero_add])
  rw [copied,Option.bind_eq_bind,Option.bind_some,filled,Option.bind_some]
  change (encryptBlocks _ n (List.replicate (n * 16) 0 ++ pad 16 data) (n * 16) 0).bind _ = _
  rw [crypted,Option.bind_some,List.take_left' front]
  rfl

/-- The blocks of a ciphertext, decrypted. -/
def plainText (cipher : BlockCipher 16) (data : Bytes) : Bytes := mapBlocks cipher.decrypt (data.length / 16) data

theorem decrypt_eq (size : aesKey.length = 128) {data : Bytes} (nonempty : data.length ≠ 0) (whole : 16 ∣ data.length) :
    decrypt aes data aesKey = (plainText (aes.cipher aesKey size) data)[data.length - 1]?.map (fun last =>
      if data.length < last.toNat then []
      else (plainText (aes.cipher aesKey size) data).take (data.length - last.toNat)) := by
  have ragged : ¬ (data.length = 0 ∨ data.length % 16 ≠ 0) := by
    rw [not_or,not_not]
    exact ⟨nonempty,Nat.mod_eq_zero_of_dvd whole⟩
  have crypted := decryptBlocks_eq (aes.decryptEcb (setkey aesKey 128)) 0 []
    (List.replicate data.length 0) (n := data.length / 16)
    (by rw [List.length_replicate,Nat.div_mul_cancel whole])
    (show data.length = _ by rw [Nat.zero_add,Nat.div_mul_cancel whole])
  rw [List.nil_append,List.nil_append,List.length_nil,List.drop_zero] at crypted
  unfold decrypt
  rw [if_neg (not_not.mpr size),if_neg ragged,size]
  dsimp only
  rw [crypted,Option.bind_eq_bind,Option.bind_some]
  change ((plainText (aes.cipher aesKey size) data)[data.length - 1]?).bind _ = _
  cases (plainText (aes.cipher aesKey size) data)[data.length - 1]? with
  | none => rfl
  | some last =>
    dsimp only [Option.bind_some,Option.map_some]
    split <;> rfl

end MiniPP.Crypto
