import Mathlib.Algebra.Group.Nat.Defs
import Mathlib.Data.List.Basic

/-! What the servers take from the library they are linked against: byte strings, the
C string functions, and network addresses. The library's own parsers and decoders are
not part of the repository; they are the fields of `Xel`. -/
namespace MiniPP

abbrev Bytes := List UInt8

def ascii (text : String) : Bytes := text.toList.map (fun c => c.toNat.toUInt8)

/-- The bytes of a literal, which is a list of characters. -/
theorem ascii_ofList (text : List Char) :
    ascii (String.ofList text) = text.map (fun c => c.toNat.toUInt8) := by
  rw [ascii,String.toList_ofList]

def cr : UInt8 := 13
def lf : UInt8 := 10
def colon : UInt8 := 58
def space : UInt8 := 32
def slash : UInt8 := 47

/-- The difference of two 64-bit unsigned integers. -/
def sub64 (a b : Nat) : Nat := if b ≤ a then a - b else 2^64 + a - b

theorem sub64_of_le {a b : Nat} (h : b ≤ a) : sub64 a b = a - b := by simp [sub64,h]

def toLower (b : UInt8) : UInt8 := if 65 ≤ b ∧ b ≤ 90 then b + 32 else b

/-- `0 == strncasecmp(text, data, strlen(text))`. -/
def startsWithCI (text data : Bytes) : Bool :=
  data.length ≥ text.length && (data.take text.length).map toLower == text.map toLower

def isSpace (b : UInt8) : Bool := b == 32 || (9 ≤ b && b ≤ 13)

def isDigit (b : UInt8) : Bool := 48 ≤ b && b ≤ 57

/-- The value of the leading decimal digits. -/
def digits (acc : Nat) : Bytes → Nat
  | [] => acc
  | b :: rest => if isDigit b then digits (acc * 10 + (b.toNat - 48)) rest else acc

/-- `atoi` stored into a `uint16_t`: blanks, a sign, digits. The conversion is `strtol`,
which stops at the bounds of a 64-bit integer, cut to an `int`. -/
def atoiPort (data : Bytes) : Nat :=
  let body := data.dropWhile isSpace
  let max := 2^63 - 1
  match body with
  | 45 :: rest => (2^64 - min (digits 0 rest) (max + 1)) % 2^16
  | 43 :: rest => min (digits 0 rest) max % 2^16
  | _ => min (digits 0 body) max % 2^16

/-- `atoll`, as the unsigned size it is stored into. -/
def atollSize (data : Bytes) : Nat :=
  let body := data.dropWhile isSpace
  let max := 2^63 - 1
  match body with
  | 45 :: rest => (2^64 - min (digits 0 rest) (max + 1)) % 2^64
  | 43 :: rest => min (digits 0 rest) max
  | _ => min (digits 0 body) max

inductive AddressType where
  | unspecified | ipv4 | ipv6
  deriving DecidableEq, Repr

/-- `bytes` is `SA4` or `SA6`, as `type` says. -/
structure NetAddress where
  type : AddressType
  bytes : Bytes
  port : Nat
  deriving DecidableEq, Repr

def NetAddress.unspecified : NetAddress := ⟨.unspecified,[],0⟩

/-- `isSet` is the conversion of an address to `bool`, and `r4` what a stream reader's
`R4` makes of the bytes before it. -/
structure Xel where
  parseAddress : Bytes → NetAddress
  isSet : NetAddress → Bool
  base64Decode : Bytes → Bytes
  hexToStr : Bytes → Bytes
  split : Bytes → Bytes → List Bytes
  r4 : Bytes → Nat

/-! ## A reading of the library, for concrete runs -/

def base64Value (b : UInt8) : Option Nat :=
  if 65 ≤ b ∧ b ≤ 90 then some (b.toNat - 65)
  else if 97 ≤ b ∧ b ≤ 122 then some (b.toNat - 71)
  else if isDigit b then some (b.toNat + 4)
  else if b = 43 then some 62
  else if b = 47 then some 63
  else none

/-- Collects six bits a character until the padding, giving out a byte when it has eight. -/
def base64Bits (held bits : Nat) : Bytes → Bytes
  | [] => []
  | b :: rest =>
    match base64Value b with
    | none => []
    | some v =>
      let held := held * 64 + v
      if 8 ≤ bits + 6 then
        (held / 2^(bits - 2)).toUInt8 :: base64Bits (held % 2^(bits - 2)) (bits - 2) rest
      else base64Bits held (bits + 6) rest

def hexValue (b : UInt8) : Nat :=
  if isDigit b then b.toNat - 48 else (toLower b).toNat - 87

def hexBytes : Bytes → Bytes
  | high :: low :: rest => (hexValue high * 16 + hexValue low).toUInt8 :: hexBytes rest
  | _ => []

/-- The pieces between the occurrences of a one-byte separator. -/
def splitBytes (separator : Bytes) (piece : Bytes) : Bytes → List Bytes
  | [] => [piece]
  | b :: rest =>
    if [b] = separator then piece :: splitBytes separator [] rest
    else splitBytes separator (piece ++ [b]) rest

/-- Names that are no address literal parse to no address, which is all a run below needs. -/
def Xel.reference : Xel where
  parseAddress _ := .unspecified
  isSet a := a.type != .unspecified
  base64Decode := base64Bits 0 0
  hexToStr := hexBytes
  split data separator := splitBytes separator [] data
  r4 data := (data.take 4).foldl (fun acc b => acc * 256 + b.toNat) 0

example : Xel.reference.base64Decode (ascii "dTpw") = ascii "u:p" := by decide

end MiniPP
