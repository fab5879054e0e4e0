import MiniPP.Message.Members

/-! The challenge that a connection to the backend starts with, and its answer. -/
namespace MiniPP.Backend

open Message

/-- What is used of the library here. -/
structure Library where
  messages : MessageFormat
  md5 : Bytes → Bytes
  strToHexLower : Bytes → Bytes

def cmdBackendChallengeResp : Nat := 0x4102

/-- `xBackendChallenge`. -/
structure BackendChallenge where
  appKey : Bytes
  timestampMS : Nat
  challengeValue : Bytes
  deriving DecidableEq, Repr

namespace BackendChallenge

def serializeMembers (m : BackendChallenge) : List Field :=
  [.string m.appKey,.u64 m.timestampMS,.string m.challengeValue]

/-- The two digests are taken of bytes, and written out at the end. -/
def sign (x : Library) (source : Bytes) : Bytes := x.strToHexLower (x.md5 (x.md5 source))

def generateChallengeString (x : Library) (m : BackendChallenge) (appSecret : Bytes) : Bytes :=
  sign x (m.appKey ++ ascii (toString m.timestampMS) ++ ascii "@45Qws85!4" ++ appSecret)

/-- What is sent for a key and a secret at a time. -/
def make (x : Library) (appKey appSecret : Bytes) (timestampMS : Nat) : BackendChallenge :=
  let challenge : BackendChallenge := ⟨appKey,timestampMS,[]⟩
  { challenge with challengeValue := challenge.generateChallengeString x appSecret }

end BackendChallenge

/-- `xBackendChallengeResp`. -/
structure BackendChallengeResp where
  errorCode : Nat
  deriving DecidableEq, Repr

namespace BackendChallengeResp

def serializeMembers (m : BackendChallengeResp) : List Field := [.u32 m.errorCode]

def deserializeMembers (x : MessageFormat) : Reads BackendChallengeResp := do
  return { errorCode := ← x.read .u32 }

def deserialize (x : MessageFormat) (payload : Bytes) : Option BackendChallengeResp :=
  match (deserializeMembers x).run payload with
  | none => none
  | some (m,rest) => if x.wire.leftover rest then some m else none

end BackendChallengeResp

/-! ## A reading of the library, for concrete runs -/

def hexDigit (n : UInt8) : UInt8 := if n < 10 then 48 + n else 87 + n

def hexLower (data : Bytes) : Bytes := data.flatMap (fun b => [hexDigit (b / 16),hexDigit (b % 16)])

namespace Md5

def constants : List UInt32 :=
  [
    0xd76aa478,0xe8c7b756,0x242070db,0xc1bdceee,0xf57c0faf,0x4787c62a,0xa8304613,0xfd469501,
    0x698098d8,0x8b44f7af,0xffff5bb1,0x895cd7be,0x6b901122,0xfd987193,0xa679438e,0x49b40821,
    0xf61e2562,0xc040b340,0x265e5a51,0xe9b6c7aa,0xd62f105d,0x02441453,0xd8a1e681,0xe7d3fbc8,
    0x21e1cde6,0xc33707d6,0xf4d50d87,0x455a14ed,0xa9e3e905,0xfcefa3f8,0x676f02d9,0x8d2a4c8a,
    0xfffa3942,0x8771f681,0x6d9d6122,0xfde5380c,0xa4beea44,0x4bdecfa9,0xf6bb4b60,0xbebfbc70,
    0x289b7ec6,0xeaa127fa,0xd4ef3085,0x04881d05,0xd9d4d039,0xe6db99e5,0x1fa27cf8,0xc4ac5665,
    0xf4292244,0x432aff97,0xab9423a7,0xfc93a039,0x655b59c3,0x8f0ccc92,0xffeff47d,0x85845dd1,
    0x6fa87e4f,0xfe2ce6e0,0xa3014314,0x4e0811a1,0xf7537e82,0xbd3af235,0x2ad7d2bb,0xeb86d391
  ]

def shifts : List UInt32 := [7,12,17,22,5,9,14,20,4,11,16,23,6,10,15,21]

def rotateLeft (n bits : UInt32) : UInt32 := (n <<< bits) ||| (n >>> (32 - bits))

structure Digest where
  a : UInt32 := 0x67452301
  b : UInt32 := 0xefcdab89
  c : UInt32 := 0x98badcfe
  d : UInt32 := 0x10325476

def littleEndian (n : UInt32) : Bytes :=
  [n.toUInt8,(n >>> 8).toUInt8,(n >>> 16).toUInt8,(n >>> 24).toUInt8]

def words : Bytes → List UInt32
  | a :: b :: c :: d :: rest =>
    (a.toUInt32 ||| (b.toUInt32 <<< 8) ||| (c.toUInt32 <<< 16) ||| (d.toUInt32 <<< 24)) :: words rest
  | _ => []

/-- A one bit, zeros, and the length in bits. -/
def padded (data : Bytes) : Bytes :=
  let length := data.length * 8 % 2^64
  data ++ 0x80 :: List.replicate ((119 - data.length % 64) % 64) 0 ++
    littleEndian length.toUInt32 ++ littleEndian (length / 2^32).toUInt32

def turn (block : List UInt32) (s : Digest) (i : Nat) : Digest :=
  let (mixed,word) := match i / 16 with
    | 0 => ((s.b &&& s.c) ||| (~~~s.b &&& s.d),i)
    | 1 => ((s.d &&& s.b) ||| (~~~s.d &&& s.c),(5 * i + 1) % 16)
    | 2 => (s.b ^^^ s.c ^^^ s.d,(3 * i + 5) % 16)
    | _ => (s.c ^^^ (s.b ||| ~~~s.d),7 * i % 16)
  let sum := s.a + mixed + constants.getD i 0 + block.getD word 0
  ⟨s.d,s.b + rotateLeft sum (shifts.getD (i / 16 * 4 + i % 4) 0),s.b,s.c⟩

def compress (s : Digest) (block : List UInt32) : Digest :=
  let t := (List.range 64).foldl (turn block) s
  ⟨s.a + t.a,s.b + t.b,s.c + t.c,s.d + t.d⟩

def blocks : Nat → List UInt32 → List (List UInt32)
  | 0, _ => []
  | n + 1, list => list.take 16 :: blocks n (list.drop 16)

def sum (data : Bytes) : Bytes :=
  let words := words (padded data)
  let s := (blocks (words.length / 16) words).foldl compress {}
  littleEndian s.a ++ littleEndian s.b ++ littleEndian s.c ++ littleEndian s.d

end Md5

def Library.reference : Library where
  messages := .reference
  md5 := Md5.sum
  strToHexLower := hexLower

end MiniPP.Backend
