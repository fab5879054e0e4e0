import MiniPP.Lib.Reader
import MiniPP.Wire

/-! The members of a message: what `W` and `R` of `xBinaryMessage` are called with. -/
namespace MiniPP.Message

/-- The types that have a `W` and an `R` of their own. -/
inductive Primitive where
  | u16 | u32 | u64 | bool | view | string | address
  deriving DecidableEq, Repr

abbrev Primitive.Value : Primitive → Type
  | .u16 | .u32 | .u64 => Nat
  | .bool => Bool
  | .view | .string => Bytes
  | .address => NetAddress

/-- The size of `SA4` or `SA6`. -/
def addressSize : AddressType → Nat
  | .unspecified => 0
  | .ipv4 => 4
  | .ipv6 => 16

/-- The values of the types: an integer has its width, and an address as many bytes as its
type says. -/
def Primitive.InRange : (k : Primitive) → k.Value → Prop
  | .u16, n => n < 2^16
  | .u32, n => n < 2^32
  | .u64, n => n < 2^64
  | .bool, _ | .view, _ | .string, _ => True
  | .address, a => a.bytes.length = addressSize a.type ∧ a.port < 2^16

abbrev Field := Member Primitive.Value

abbrev Reads := Reader UInt8

/-- Every primitive is self-delimiting; what can stand in a packet can be read back. -/
structure MessageFormat extends Format UInt8 Primitive.Value where
  wire : Wire
  codec_u32 : codec .u32 = wire.u32
  codec_u64 : codec .u64 = wire.u64
  codec_view : codec .view = wire.view
  fits : ∀ k v, k.InRange v → ((codec k).write v).length ≤ wire.maxPacketSize → (codec k).Fits v

/-- What is read takes up as much as what is written. An address takes no more bytes than its
type, its 16 bytes and its port need. -/
structure SizedFormat extends MessageFormat where
  exact : ∀ k, (codec k).Exact
  u16_size : ∀ n, ((codec .u16).write n).length = 2
  address_size : ∀ a, Primitive.InRange .address a → ((codec .address).write a).length ≤ 24

end MiniPP.Message

namespace MiniPP.Member

open Message

abbrev u16 (n : Nat) : Field := ⟨.u16,n⟩
abbrev u32 (n : Nat) : Field := ⟨.u32,n⟩
abbrev u64 (n : Nat) : Field := ⟨.u64,n⟩
abbrev bool (b : Bool) : Field := ⟨.bool,b⟩
abbrev view (data : Bytes) : Field := ⟨.view,data⟩
abbrev string (data : Bytes) : Field := ⟨.string,data⟩
abbrev address (a : NetAddress) : Field := ⟨.address,a⟩

end MiniPP.Member

namespace MiniPP.Message

namespace MessageFormat

variable (x : MessageFormat)

/-- The members of a message in a packet, if there is room for them. -/
def packet (ms : List Field) : Option Bytes :=
  if x.wire.packetHeaderSize + (x.serialize ms).length ≤ x.wire.maxPacketSize then some (x.serialize ms)
  else none

theorem packet_eq_some {ms : List Field} {data : Bytes} :
    x.packet ms = some data ↔
      data = x.serialize ms ∧ x.wire.packetHeaderSize + data.length ≤ x.wire.maxPacketSize := by
  unfold packet
  split
  · rename_i room
    constructor
    · intro same
      obtain rfl := Option.some.inj same
      exact ⟨rfl,room⟩
    · rintro ⟨rfl,-⟩
      rfl
  · rename_i full
    constructor
    · intro same
      cases same
    · rintro ⟨rfl,room⟩
      exact absurd room full

theorem length_u32 (n : Nat) : ((x.codec .u32).write n).length = 4 := by
  rw [x.codec_u32]
  exact x.wire.u32_size n

theorem length_u64 (n : Nat) : ((x.codec .u64).write n).length = 8 := by
  rw [x.codec_u64]
  exact x.wire.u64_size n

def InRange (ms : List Field) : Prop := ∀ m ∈ ms, m.kind.InRange m.value

/-- Members of their types that are sent in a packet can be read back. -/
theorem fits_packet {ms : List Field} (inRange : InRange ms) {data : Bytes}
    (sent : x.packet ms = some data) : x.Fits ms := by
  obtain ⟨rfl,room⟩ := x.packet_eq_some.mp sent
  intro m member
  have within : (x.write m).length ≤ (x.serialize ms).length := by
    rw [Format.serialize,List.flatMap_def]
    exact (List.sublist_flatten_of_mem (List.mem_map_of_mem member)).length_le
  have bound : (x.write m).length ≤ x.wire.maxPacketSize := by omega
  exact x.fits m.kind m.value (inRange m member) bound

/-- What a program reads back from a packet. -/
theorem delivered {α : Type} {r : Reads α} {ms : List Field} {a : α}
    (delivers : x.Delivers r ms a) (inRange : InRange ms) {data : Bytes}
    (sent : x.packet ms = some data) : r.run data = some (a,[]) := by
  have fits := x.fits_packet inRange sent
  obtain ⟨rfl,-⟩ := x.packet_eq_some.mp sent
  exact delivers.run fits

end MessageFormat

/-! ## A reading of the library, for concrete runs -/

/-- Zero or one in a byte; everything but zero is read as one. -/
def flag : Codec UInt8 Bool where
  Fits _ := True
  write b := [if b then 1 else 0]
  read data := match data with
    | [] => none
    | b :: rest => some (b != 0,rest)
  read_write b rest _ := by cases b <;> rfl

theorem exact_flag : flag.Exact := by
  intro data b rest found
  cases data with
  | nil => cases found
  | cons _ data =>
    obtain ⟨-,rfl⟩ := Prod.mk.inj (Option.some.inj found)
    simp [flag,Nat.add_comm]

def addressTag : AddressType → UInt8
  | .unspecified => 0
  | .ipv4 => 1
  | .ipv6 => 2

def tagged : UInt8 → Option AddressType
  | 0 => some .unspecified
  | 1 => some .ipv4
  | 2 => some .ipv6
  | _ => none

theorem tagged_addressTag (type : AddressType) : tagged (addressTag type) = some type := by
  cases type <;> rfl

/-- The type, the bytes, and the port. -/
def taggedAddress : Codec UInt8 NetAddress where
  Fits a := a.bytes.length = addressSize a.type ∧ a.port < 2^16
  write a := addressTag a.type :: (a.bytes ++ Codec.toBigEndian 2 a.port)
  read data := match data with
    | [] => none
    | tag :: rest => (tagged tag).bind (fun type =>
        if rest.length < addressSize type then none
        else ((Codec.bigEndian 2).read (rest.drop (addressSize type))).map (fun (port,behind) =>
          (⟨type,rest.take (addressSize type),port⟩,behind)))
  read_write := by
    rintro ⟨type,bytes,port⟩ rest ⟨size,bound⟩
    dsimp only at size bound
    have long : ¬ (bytes ++ (Codec.toBigEndian 2 port ++ rest)).length < addressSize type := by
      rw [List.length_append]
      omega
    have portRead := (Codec.bigEndian 2).read_write port rest bound
    simp only [List.cons_append,List.append_assoc,tagged_addressTag,Option.bind_some]
    rw [if_neg long,List.take_left' size,List.drop_left' size]
    simp only [Codec.bigEndian] at portRead
    simp only [Codec.bigEndian,portRead,Option.map_some]

theorem exact_taggedAddress : taggedAddress.Exact := by
  intro data a rest found
  cases data with
  | nil => cases found
  | cons tag data =>
    simp only [taggedAddress,Option.bind_eq_some_iff] at found
    obtain ⟨type,-,found⟩ := found
    split at found
    · cases found
    · rename_i enough
      obtain ⟨⟨port,behind⟩,portRead,same⟩ := Option.map_eq_some_iff.mp found
      obtain ⟨rfl,rfl⟩ := Prod.mk.inj same
      have portSize := Codec.exact_bigEndian 2 _ port behind portRead
      have written : ((Codec.bigEndian 2).write port).length = 2 := Codec.length_toBigEndian 2 port
      rw [written,List.length_drop] at portSize
      simp only [taggedAddress,List.length_cons,List.length_append,Codec.length_toBigEndian,
        List.length_take]
      omega

def MessageFormat.reference : MessageFormat where
  wire := .reference
  codec
    | .u16 => .bigEndian 2
    | .u32 => .bigEndian 4
    | .u64 => .bigEndian 8
    | .bool => flag
    | .view | .string => .counted (.bigEndian 4)
    | .address => taggedAddress
  codec_u32 := rfl
  codec_u64 := rfl
  codec_view := rfl
  fits k v inRange small := by
    cases k with
    | u16 | u32 | u64 => exact inRange
    | bool => trivial
    | view | string =>
      have size : (Codec.toBigEndian 4 v.length ++ v).length ≤ 8192 := small
      have short : v.length < 256^4 := by
        rw [List.length_append] at size
        omega
      exact short
    | address => exact inRange

def SizedFormat.reference : SizedFormat where
  toMessageFormat := .reference
  exact k := by
    cases k with
    | u16 | u32 | u64 => exact Codec.exact_bigEndian _
    | bool => exact exact_flag
    | view | string => exact Codec.exact_counted (Codec.exact_bigEndian 4)
    | address => exact exact_taggedAddress
  u16_size := Codec.length_toBigEndian 2
  address_size a inRange := by
    have size : a.bytes.length ≤ 16 := by
      rw [inRange.1]
      cases a.type <;> decide
    have written : (taggedAddress.write a).length = a.bytes.length + 3 := by
      simp only [taggedAddress,List.length_cons,List.length_append,Codec.length_toBigEndian]
    calc (taggedAddress.write a).length = a.bytes.length + 3 := written
      _ ≤ 24 := by omega

end MiniPP.Message
