import MiniPP.ConfigCenter.Challenge
import MiniPP.Relay.Registrations

/-! The region of a device on its way through a key: the config center writes it into the check key of
its answer, and a relay reads it from the data key that the device registers with. -/
namespace MiniPP.Region

open ConfigCenter Relay

/-- What the two programs rely on: their library splits a text at its only colon, reads hex digits
back, two for a byte and none of them a colon, and reads a number back that it wrote. -/
structure ReadsBack (x : ChallengeLibrary) (y : Xel) : Prop where
  split : ∀ front back, colon ∉ front → colon ∉ back → y.split (front ++ colon :: back) [colon] = [front,back]
  whole : ∀ text, colon ∉ text → (y.split text [colon]).length < 2
  noColon : ∀ data, colon ∉ x.strToHex data
  twice : ∀ data, (x.strToHex data).length = 2 * data.length
  hexToStr : ∀ data, y.hexToStr (x.strToHex data) = data
  width : ∀ n, (x.w4 n).length = 4
  r4 : ∀ n rest, n < 2^32 → y.r4 (x.w4 n ++ rest) = n

/-- The region, as a relay has it. -/
def located (region : GeoIp.GeoInfo) : Relay.GeoInfo := ⟨region.countryId,region.stateId,region.cityId⟩

/-- The ids are values of their types. -/
def Typed (region : GeoIp.GeoInfo) : Prop :=
  region.countryId < 2^32 ∧ region.stateId < 2^32 ∧ region.cityId < 2^32

variable {x : ChallengeLibrary} {cfg : Relay.Config}

def regionBytes (x : ChallengeLibrary) (region : GeoIp.GeoInfo) : Bytes :=
  x.w4 region.countryId ++ x.w4 region.stateId ++ x.w4 region.cityId

theorem checkKey_eq (region : GeoIp.GeoInfo) :
    x.checkKey region = ascii "TLMPP-FOR-TEST" ++ colon :: x.strToHex (regionBytes x region) := by
  have sign : ascii "TLMPP-FOR-TEST:" = ascii "TLMPP-FOR-TEST" ++ [colon] := by decide
  rw [ChallengeLibrary.checkKey,sign,List.append_assoc]
  rfl

theorem geoSegment_checkKey (reads : ReadsBack x cfg.xel) (region : GeoIp.GeoInfo) :
    DeviceRelayService.geoSegment cfg (x.checkKey region) = some (x.strToHex (regionBytes x region)) := by
  have long : (x.strToHex (regionBytes x region)).length = 24 := by
    rw [reads.twice,regionBytes,List.length_append,List.length_append,reads.width,reads.width,reads.width]
  rw [DeviceRelayService.geoSegment,checkKey_eq,reads.split _ _ (by decide) (reads.noColon _)]
  exact if_pos long

/-- A relay reads from a check key the region that the config center wrote into it. -/
theorem keyLocation_checkKey (reads : ReadsBack x cfg.xel) {region : GeoIp.GeoInfo} (typed : Typed region) :
    keyLocation cfg (x.checkKey region) = some (located region) := by
  obtain ⟨country,state,city⟩ := typed
  have second : (regionBytes x region).drop 4 = x.w4 region.stateId ++ x.w4 region.cityId := by
    rw [regionBytes,List.append_assoc,List.drop_left' (reads.width _)]
  have third : (regionBytes x region).drop 8 = x.w4 region.cityId := by
    have twice : (regionBytes x region).drop 8 = ((regionBytes x region).drop 4).drop 4 := by
      rw [List.drop_drop]
    rw [twice,second,List.drop_left' (reads.width _)]
  have countryRead : cfg.xel.r4 (regionBytes x region) = region.countryId := by
    rw [regionBytes,List.append_assoc]
    exact reads.r4 _ _ country
  have cityRead : cfg.xel.r4 (x.w4 region.cityId) = region.cityId := by
    simpa using reads.r4 region.cityId [] city
  rw [keyLocation,geoSegment_checkKey reads,Option.map_some,reads.hexToStr,DeviceRelayService.geoInfo,
    second,third,countryRead,cityRead,reads.r4 _ _ state]
  rfl

/-- No device registers under the blank key of an answer without a relay server. -/
theorem keyLocation_blank (reads : ReadsBack x cfg.xel) : keyLocation cfg [] = none := by
  have short := reads.whole [] (by simp)
  rw [keyLocation,DeviceRelayService.geoSegment]
  split
  · next two =>
    rw [two] at short
    exact absurd short (by simp)
  · rfl

/-! ## A reading of the library, for concrete runs -/

theorem splitBytes_whole {separator : UInt8} {text : Bytes} (plain : separator ∉ text) (piece : Bytes) :
    splitBytes [separator] piece text = [piece ++ text] := by
  induction text generalizing piece with
  | nil => simp [splitBytes]
  | cons b text ih =>
    obtain ⟨other,plain⟩ : separator ≠ b ∧ separator ∉ text := by simpa using plain
    rw [splitBytes,if_neg (by simpa using other.symm),ih plain]
    simp

theorem splitBytes_append {separator : UInt8} {front : Bytes} (plain : separator ∉ front) (piece back : Bytes) :
    splitBytes [separator] piece (front ++ separator :: back) =
      (piece ++ front) :: splitBytes [separator] [] back := by
  induction front generalizing piece with
  | nil => simp [splitBytes]
  | cons b front ih =>
    obtain ⟨other,plain⟩ : separator ≠ b ∧ separator ∉ front := by simpa using plain
    rw [List.cons_append,splitBytes,if_neg (by simpa using other.symm),ih plain]
    simp

theorem hexDigit_read {n : UInt8} (small : n < 16) :
    hexValue (Backend.hexDigit n) = n.toNat ∧ Backend.hexDigit n ≠ colon := by
  have all : ∀ k < 16, hexValue (Backend.hexDigit (UInt8.ofNat k)) = k ∧
      Backend.hexDigit (UInt8.ofNat k) ≠ colon := by decide
  have here := all n.toNat (UInt8.lt_iff_toNat_lt.mp small)
  rwa [UInt8.ofNat_toNat] at here

theorem halves (b : UInt8) : b / 16 < 16 ∧ b % 16 < 16 := by
  constructor
  · rw [UInt8.lt_iff_toNat_lt,UInt8.toNat_div]
    have := b.toNat_lt
    simp
    omega
  · rw [UInt8.lt_iff_toNat_lt,UInt8.toNat_mod]
    simp
    omega

theorem hexBytes_hexLower (data : Bytes) : hexBytes (Backend.hexLower data) = data := by
  induction data with
  | nil => rfl
  | cons b data ih =>
    have whole : (hexValue (Backend.hexDigit (b / 16)) * 16 + hexValue (Backend.hexDigit (b % 16))).toUInt8 = b := by
      rw [(hexDigit_read (halves b).1).1,(hexDigit_read (halves b).2).1,UInt8.toNat_div,UInt8.toNat_mod]
      change (b.toNat / 16 * 16 + b.toNat % 16).toUInt8 = b
      rw [Nat.div_add_mod']
      simp
    have step : Backend.hexLower (b :: data) =
        Backend.hexDigit (b / 16) :: Backend.hexDigit (b % 16) :: Backend.hexLower data := rfl
    rw [step,hexBytes,whole,ih]

theorem readsBack_reference : ReadsBack .reference .reference where
  split front back plain plain' := by
    change splitBytes [colon] [] (front ++ colon :: back) = [front,back]
    rw [splitBytes_append plain,splitBytes_whole plain']
    simp
  whole text plain := by
    change (splitBytes [colon] [] text).length < 2
    rw [splitBytes_whole plain]
    simp
  noColon data := by
    intro member
    obtain ⟨b,-,inside⟩ := List.mem_flatMap.mp member
    rcases (by simpa using inside : colon = _ ∨ colon = _) with high | low
    · exact (hexDigit_read (halves b).1).2 high.symm
    · exact (hexDigit_read (halves b).2).2 low.symm
  twice data := by
    change (Backend.hexLower data).length = _
    induction data with
    | nil => rfl
    | cons b data ih =>
      have step : Backend.hexLower (b :: data) =
          Backend.hexDigit (b / 16) :: Backend.hexDigit (b % 16) :: Backend.hexLower data := rfl
      rw [step,List.length_cons,List.length_cons,ih,List.length_cons]
      omega
  hexToStr := hexBytes_hexLower
  width := Codec.length_toBigEndian 4
  r4 n rest small := by
    change ((Codec.toBigEndian 4 n ++ rest).take 4).foldl (fun acc b => acc * 256 + b.toNat) 0 = n
    rw [List.take_left' (Codec.length_toBigEndian 4 n),Codec.foldl_toBigEndian,Nat.zero_mul,Nat.zero_add]
    exact Nat.mod_eq_of_lt small

end MiniPP.Region
