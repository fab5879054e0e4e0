import MiniPP.Crypto.Encryption
import Mathlib.Logic.Equiv.Basic

/-! Decryption against encryption, in both directions. -/
namespace MiniPP.Crypto

open BlockCipher Padding

variable {aes : Aes} {aesKey : Bytes}

/-! ## What comes of a padded text -/

theorem length_plainText (cipher : BlockCipher 16) {c : Bytes} (whole : 16 ∣ c.length) :
    (plainText cipher c).length = c.length := by
  have blocks := Nat.div_mul_cancel whole
  rw [plainText,length_mapBlocks _ blocks.symm,blocks]

/-- A ciphertext of a padded text gives the data that was padded. -/
theorem decrypt_padded (size : aesKey.length = 128) {c data : Bytes} (nonempty : c.length ≠ 0)
    (whole : 16 ∣ c.length) (plain : plainText (aes.cipher aesKey size) c = pad 16 data) :
    decrypt aes c aesKey = some data := by
  have least := count_pos (show 0 < 16 by decide) data.length
  have most : count 16 data.length ≤ 16 := count_le data.length
  have total : c.length = data.length + count 16 data.length := by
    rw [← length_plainText (aes.cipher aesKey size) whole,plain,length_pad]
  have last : (pad 16 data)[c.length - 1]? = some (count 16 data.length).toUInt8 := by
    rw [total,← length_pad,← List.getLast?_eq_getElem?]
    exact getLast?_append_filler least data
  have number : (count 16 data.length).toUInt8.toNat = count 16 data.length := by
    rw [Nat.toUInt8_eq,UInt8.toNat_ofNat']
    omega
  rw [decrypt_eq size nonempty whole,plain,last,Option.map_some,number,if_neg (by omega),total,
    Nat.add_sub_cancel,pad,List.take_left]

/-- What was encrypted is read back, and the padding fills up to the next whole block. -/
theorem encryption_round_trip (aes : Aes) (data : Bytes) (size : aesKey.length = 128) :
    ∃ c, encrypt aes data aesKey = some c ∧ decrypt aes c aesKey = some data ∧
      IsLeast {n | 16 ∣ n ∧ data.length < n} c.length := by
  have padded : (pad 16 data).length = (data.length + 16) / 16 * 16 := by
    rw [length_pad,count]
    omega
  have long := length_mapBlocks (aes.cipher aesKey size).encrypt padded
  refine ⟨_,encrypt_eq size data,?_,?_⟩
  · apply decrypt_padded size
    · rw [long]
      omega
    · exact ⟨(data.length + 16) / 16,by rw [long,Nat.mul_comm]⟩
    · rw [plainText,long,Nat.mul_div_cancel _ (by decide)]
      exact mapBlocks_inverse (aes.cipher aesKey size).decrypt_encrypt padded
  · rw [long]
    constructor
    · rw [Set.mem_ofPred_eq]
      exact ⟨⟨_,Nat.mul_comm _ _⟩,by omega⟩
    · rintro n ⟨⟨k,rfl⟩,more⟩
      omega

/-! ## What is decrypted -/

/-- What the final block of a ciphertext is decrypted to. -/
def finalBlock (aes : Aes) (aesKey c : Bytes) : Bytes :=
  onBlock (aes.decryptEcb (setkey aesKey 128)) (c.drop (c.length - 16))

/-- How much padding the final block says that there is. -/
def claimedPadding (aes : Aes) (aesKey c : Bytes) : Nat := ((finalBlock aes aesKey c).getLastD 0).toNat

def Whole (c : Bytes) : Prop := c.length ≠ 0 ∧ 16 ∣ c.length

/-- Only what encryption makes is decrypted to anything, and a final block without valid padding
is rejected. -/
def OnlyEncrypted (aes : Aes) (c aesKey : Bytes) : Prop :=
  (∀ data, decrypt aes c aesKey = some data → data ≠ [] → encrypt aes data aesKey = some c) ∧
    (¬ (Whole c ∧ Padded 16 (finalBlock aes aesKey c)) → decrypt aes c aesKey = some [])

theorem plainText_last (size : aesKey.length = 128) {c : Bytes} (whole : Whole c) :
    (finalBlock aes aesKey c).length = 16 ∧
      ∃ front, plainText (aes.cipher aesKey size) c = front ++ finalBlock aes aesKey c := by
  obtain ⟨nonempty,n,total⟩ := whole
  obtain ⟨k,rfl⟩ : ∃ k, n = k + 1 := ⟨n - 1,by omega⟩
  have blocks : c.length / 16 = k + 1 := by omega
  have start : c.length - 16 = k * 16 := by omega
  refine ⟨?_,mapBlocks (aes.cipher aesKey size).decrypt k (c.take (k * 16)),?_⟩
  · rw [finalBlock,length_onBlock,List.length_drop]
    omega
  · rw [plainText,blocks,mapBlocks_last _ (by rw [total,Nat.mul_comm]),finalBlock,start]
    rfl

/-- What is returned for whole blocks, by what their final one says. -/
theorem decrypt_whole (size : aesKey.length = 128) {c : Bytes} (whole : Whole c) :
    decrypt aes c aesKey = some (if c.length < claimedPadding aes aesKey c then []
      else (plainText (aes.cipher aesKey size) c).take (c.length - claimedPadding aes aesKey c)) := by
  obtain ⟨long,front,plain⟩ := plainText_last size whole
  have same := length_plainText (aes.cipher aesKey size) whole.2
  obtain ⟨last,isLast⟩ : ∃ last, (finalBlock aes aesKey c).getLast? = some last := by
    rw [← Option.isSome_iff_exists,List.getLast?_isSome]
    intro none
    rw [none] at long
    cases long
  have claimed : claimedPadding aes aesKey c = last.toNat := by
    rw [claimedPadding,List.getLastD_eq_getLast?,isLast]
    rfl
  have here : (plainText (aes.cipher aesKey size) c)[c.length - 1]? = some last := by
    rw [← same,← List.getLast?_eq_getElem?,plain,List.getLast?_append,isLast]
    rfl
  rw [decrypt_eq size whole.1 whole.2,here,claimed]
  rfl

theorem decrypt_ragged (size : aesKey.length = 128) {c : Bytes} (ragged : ¬ Whole c) :
    decrypt aes c aesKey = some [] := by
  have skipped : c.length = 0 ∨ c.length % 16 ≠ 0 := by
    unfold Whole at ragged
    omega
  unfold decrypt
  rw [if_neg (not_not.mpr size),if_pos skipped]

/-- A text that ends in valid padding comes of encryption. -/
theorem encrypt_of_padded (size : aesKey.length = 128) {c : Bytes} (whole : Whole c)
    (padded : Padded 16 (finalBlock aes aesKey c)) :
    ∃ data, decrypt aes c aesKey = some data ∧ encrypt aes data aesKey = some c := by
  obtain ⟨long,front,plain⟩ := plainText_last size whole
  have same := length_plainText (aes.cipher aesKey size) whole.2
  have text : Padded 16 (plainText (aes.cipher aesKey size) c) := by
    rw [plain]
    exact (padded_append front long).mpr padded
  obtain ⟨data,filled⟩ := (padded_iff (by decide) (by rw [same]; exact whole.2)).mp text
  have blocks : (data.length + 16) / 16 = c.length / 16 := by
    rw [← same,filled,length_pad,count]
    omega
  refine ⟨data,decrypt_padded size whole.1 whole.2 filled,?_⟩
  rw [encrypt_eq size data,← filled,blocks,plainText]
  congr 1
  exact mapBlocks_inverse (aes.cipher aesKey size).encrypt_decrypt (Nat.div_mul_cancel whole.2).symm

/-- Just the ciphertexts of broken or no blocks, those with valid padding, and those whose final
byte says that they are padding altogether, are dealt with as they should be. -/
theorem only_encrypted_iff (aes : Aes) (c : Bytes) (size : aesKey.length = 128) :
    OnlyEncrypted aes c aesKey ↔
      ¬ Whole c ∨ Padded 16 (finalBlock aes aesKey c) ∨ c.length ≤ claimedPadding aes aesKey c := by
  by_cases whole : Whole c
  · have result : decrypt aes c aesKey = _ := decrypt_whole size whole
    by_cases padded : Padded 16 (finalBlock aes aesKey c)
    · obtain ⟨data,decrypted,encrypted⟩ := encrypt_of_padded size whole padded
      refine ⟨fun _ => .inr (.inl padded),fun _ => ⟨?_,fun other => absurd ⟨whole,padded⟩ other⟩⟩
      intro other again _
      obtain rfl := Option.some.inj (decrypted.symm.trans again)
      exact encrypted
    · constructor
      · rintro ⟨-,rejects⟩
        right
        right
        have empty := rejects (fun both => padded both.2)
        rw [result] at empty
        split at empty
        · omega
        · have none := congrArg List.length (Option.some.inj empty)
          rw [List.length_take,length_plainText _ whole.2,List.length_nil] at none
          omega
      · intro holds
        have covered : c.length ≤ claimedPadding aes aesKey c :=
          (holds.resolve_left (not_not.mpr whole)).resolve_left padded
        have rejected : decrypt aes c aesKey = some [] := by
          rw [result,Nat.sub_eq_zero_of_le covered,List.take_zero,ite_self]
        refine ⟨?_,fun _ => rejected⟩
        intro data decrypted nonempty
        exact absurd (Option.some.inj (decrypted.symm.trans rejected)) nonempty
  · have rejected : decrypt aes c aesKey = some [] := decrypt_ragged size whole
    refine ⟨fun _ => .inl whole,fun _ => ⟨?_,fun _ => rejected⟩⟩
    intro data decrypted nonempty
    exact absurd (Option.some.inj (decrypted.symm.trans rejected)) nonempty

/-! ## One block -/

/-- AES as far as one block under one key goes. -/
def Aes.known (key : Bytes) (plain cipher : Block 16) : Aes where
  encryptEcb key' block := if key' = key then Equiv.swap plain cipher block else block
  decryptEcb key' block := if key' = key then Equiv.swap plain cipher block else block
  inverse key' _ block := by
    split
    · exact Equiv.swap_apply_self plain cipher block
    · rfl

/-- The first bytes are those that are read. -/
def someKey : Bytes := [0,1,2,3,4,5,6,7,8,9,10,11,12,13,14,15] ++ List.replicate 112 0

def hello : Aes :=
  .known (setkey someKey 128) ⟨pad 16 [104,101,108,108,111],by decide⟩
    ⟨[93,135,73,226,175,117,49,178,191,102,97,233,229,218,240,18],by decide⟩

theorem encryption_round_trip_hello :
    ∃ c, encrypt hello [104,101,108,108,111] someKey = some c ∧
      decrypt hello c someKey = some [104,101,108,108,111] ∧ IsLeast {n | 16 ∣ n ∧ 5 < n} c.length :=
  encryption_round_trip hello [104,101,108,108,111] rfl

def zeros : Aes :=
  .known (setkey someKey 128) ⟨List.replicate 16 0,by decide⟩
    ⟨[198,161,59,55,135,143,91,130,111,79,129,98,161,200,216,121],by decide⟩

def zerosCipher : Bytes := [198,161,59,55,135,143,91,130,111,79,129,98,161,200,216,121]

/-- A block of zeros claims no padding and is returned as it is. -/
theorem unpadded_block_accepted :
    decrypt zeros zerosCipher someKey = some (List.replicate 16 0) ∧ ¬ OnlyEncrypted zeros zerosCipher someKey := by
  have accepted : decrypt zeros zerosCipher someKey = some (List.replicate 16 0) := by decide +kernel
  refine ⟨accepted,fun only => ?_⟩
  have again := only.1 _ accepted (by decide)
  have long := congrArg (Option.map List.length) again
  revert long
  decide +kernel

theorem only_encrypted_iff_hello :
    OnlyEncrypted hello [93,135,73,226,175,117,49,178,191,102,97,233,229,218,240,18] someKey := by
  apply (only_encrypted_iff hello _ rfl).mpr
  right
  left
  exact ⟨11,by decide,by decide,by decide +kernel⟩

end MiniPP.Crypto
