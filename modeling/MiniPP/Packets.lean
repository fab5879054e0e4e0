import MiniPP.Lib.Framing
import MiniPP.Message.Relay

/-! Packets as they are received, before the program that receives them looks inside. -/
namespace MiniPP

open Message

/-- What is used of an `xPacketHeader`. The size of the packet counts the header. -/
structure PacketHeader where
  packetSize : Nat
  commandId : Nat
  requestId : Nat
  isKeepAlive : Bool
  isRequestKeepAlive : Bool
  deriving DecidableEq, Repr

/-- `parse` is `xPacketHeader::Parse`, on data that has a header's size. It looks no further
than the header, and there is room for the header in every packet. -/
structure PacketFormat where
  headerSize : Nat
  parse : Bytes → Option PacketHeader
  header_some : 0 < headerSize
  header_le : ∀ data header, parse data = some header → headerSize ≤ header.packetSize
  parse_append : ∀ data rest, headerSize ≤ data.length → parse (data ++ rest) = parse data

/-- The packets of a stream. -/
def PacketFormat.framing (f : PacketFormat) : Framing.Format UInt8 PacketHeader where
  headerSize := f.headerSize
  parse := f.parse
  size := PacketHeader.packetSize
  header_some := f.header_some
  header_le := f.header_le
  parse_append := f.parse_append

/-- A header that is one byte, the size of the packet. -/
def PacketFormat.oneByte : PacketFormat where
  headerSize := 1
  parse data := (data.head?.filter (fun size => size ≠ 0)).map (fun size => ⟨size.toNat,0,0,false,false⟩)
  header_some := Nat.one_pos
  header_le data header parsed := by
    obtain ⟨size,some_,rfl⟩ := Option.map_eq_some_iff.mp parsed
    have positive : size ≠ 0 := by simpa using (Option.filter_eq_some_iff.mp some_).2
    apply Nat.pos_of_ne_zero
    intro zero
    exact positive (UInt8.toNat_inj.mp zero)
  parse_append data rest long := by
    cases data with
    | nil => exact absurd long (by simp)
    | cons size data => rfl

/-- `Deserialize`: the members are read, and nothing is left over. -/
def Message.MessageFormat.decode {α : Type} (x : MessageFormat) (reads : Reads α) (payload : Bytes) : Option α :=
  match reads.run payload with
  | none => none
  | some (m,rest) => if x.wire.leftover rest then some m else none

/-! ## Packets that are written -/

/-- `writeHeader` writes the header of a packet of this size, with a command and a request. It is
read back as long as these are values of their types. -/
structure PacketLibrary extends SizedFormat where
  format : PacketFormat
  writeHeader : Nat → Nat → Nat → Bytes
  same_size : format.headerSize = wire.packetHeaderSize
  header_size : ∀ packetSize commandId requestId,
    (writeHeader packetSize commandId requestId).length = format.headerSize
  parse_header : ∀ packetSize commandId requestId, format.headerSize ≤ packetSize →
    packetSize ≤ wire.maxPacketSize → commandId < 2^32 → requestId < 2^64 →
    ∃ header, format.parse (writeHeader packetSize commandId requestId) = some header ∧
      header.packetSize = packetSize ∧ header.commandId = commandId ∧ header.requestId = requestId

namespace PacketLibrary

/-- `WriteMessage`: no bytes if the message does not fit in a packet. -/
def writeMessage (x : PacketLibrary) (commandId requestId : Nat) (ms : List Field) : Bytes :=
  match x.packet ms with
  | none => []
  | some payload => x.writeHeader (x.format.headerSize + payload.length) commandId requestId ++ payload

/-- The data is one packet, and nothing else. -/
def OnePacket (x : PacketLibrary) (commandId requestId : Nat) (payload data : Bytes) : Prop :=
  ∃ header, Framing.front x.format.framing data = .packet header payload ∧
    header.packetSize = data.length ∧ header.commandId = commandId ∧ header.requestId = requestId

theorem onePacket_writeMessage (x : PacketLibrary) {commandId requestId : Nat} {ms : List Field}
    {payload : Bytes} (packed : x.packet ms = some payload) (command : commandId < 2^32)
    (request : requestId < 2^64) :
    x.OnePacket commandId requestId payload (x.writeMessage commandId requestId ms) := by
  have room : x.format.headerSize + payload.length ≤ x.wire.maxPacketSize := by
    rw [x.same_size]
    exact (x.packet_eq_some.mp packed).2
  obtain ⟨header,parsed,size,sameCommand,sameRequest⟩ :=
    x.parse_header _ commandId requestId (Nat.le_add_right _ payload.length) room command request
  have headerLength := x.header_size (x.format.headerSize + payload.length) commandId requestId
  have written : x.writeMessage commandId requestId ms =
      x.writeHeader (x.format.headerSize + payload.length) commandId requestId ++ payload := by
    simp [writeMessage,packed]
  have length : (x.writeMessage commandId requestId ms).length = header.packetSize := by
    rw [written,List.length_append,headerLength,size]
  have whole : x.format.parse (x.writeMessage commandId requestId ms) = some header := by
    rw [written,x.format.parse_append _ payload headerLength.ge,parsed]
  refine ⟨header,?_,length.symm,sameCommand,sameRequest⟩
  have long : ¬ (x.writeMessage commandId requestId ms).length < x.format.framing.headerSize := by
    rw [length,size]
    exact Nat.not_lt.mpr (Nat.le_add_right _ _)
  have enough : ¬ (x.writeMessage commandId requestId ms).length < x.format.framing.size header :=
    Nat.not_lt.mpr length.ge
  have behind : ((x.writeMessage commandId requestId ms).take (x.format.framing.size header)).drop
      x.format.framing.headerSize = payload := by
    have all : (x.writeMessage commandId requestId ms).take (x.format.framing.size header) =
        x.writeMessage commandId requestId ms := List.take_of_length_le length.le
    rw [all,written]
    exact List.drop_left' headerLength
  have parse : x.format.framing.parse (x.writeMessage commandId requestId ms) = some header := whole
  rw [Framing.front,if_neg long,parse]
  dsimp only
  rw [if_neg enough,behind]

/-- A message that was written is read back, with its command and its request. -/
theorem message_read (x : PacketLibrary) {α : Type} {reads : Reads α} {ms : List Field} {m : α}
    {commandId requestId : Nat} (delivers : x.Delivers reads ms m) (inRange : MessageFormat.InRange ms)
    (command : commandId < 2^32) (request : requestId < 2^64)
    (written : x.writeMessage commandId requestId ms ≠ []) :
    ∃ header payload,
      Framing.front x.format.framing (x.writeMessage commandId requestId ms) = .packet header payload ∧
      header.commandId = commandId ∧ header.requestId = requestId ∧
      x.toMessageFormat.decode reads payload = some m := by
  cases packed : x.packet ms with
  | none => exact absurd (by simp [writeMessage,packed]) written
  | some payload =>
    obtain ⟨header,next,-,sameCommand,sameRequest⟩ := x.onePacket_writeMessage packed command request
    have decoded : reads.run payload = some (m,[]) := x.delivered delivers inRange packed
    refine ⟨header,payload,next,sameCommand,sameRequest,?_⟩
    simp [MessageFormat.decode,decoded,x.wire.leftover_none]

/-- No data is no packet. -/
theorem not_onePacket_nil (x : PacketLibrary) (commandId requestId : Nat) (payload : Bytes) :
    ¬ x.OnePacket commandId requestId payload [] := by
  rintro ⟨header,next,-⟩
  rw [Framing.front_nil] at next
  cases next

def referenceHeaderSize : Nat := 16

/-- The size, the command and the request. -/
def referenceHeader : Codec UInt8 (Nat × Nat × Nat) :=
  (Codec.bigEndian 4).pair ((Codec.bigEndian 4).pair (Codec.bigEndian 8))

theorem length_referenceHeader (fields : Nat × Nat × Nat) :
    (referenceHeader.write fields).length = referenceHeaderSize := by
  simp [referenceHeader,referenceHeaderSize,Codec.pair,Codec.bigEndian]

def referenceFormat : PacketFormat where
  headerSize := referenceHeaderSize
  parse data :=
    match referenceHeader.read (data.take referenceHeaderSize) with
    | none => none
    | some ((packetSize,commandId,requestId),_) =>
      if packetSize < referenceHeaderSize then none else some ⟨packetSize,commandId,requestId,false,false⟩
  header_some := by decide
  header_le data header parsed := by
    split at parsed
    · cases parsed
    · split at parsed
      · cases parsed
      · rename_i enough
        obtain rfl := Option.some.inj parsed
        exact Nat.not_lt.mp enough
  parse_append data rest long := by rw [List.take_append_of_le_length long]

def reference : PacketLibrary where
  toSizedFormat := .reference
  format := referenceFormat
  writeHeader packetSize commandId requestId := referenceHeader.write (packetSize,commandId,requestId)
  same_size := rfl
  header_size packetSize commandId requestId := length_referenceHeader _
  parse_header packetSize commandId requestId enough room command request := by
    have room : packetSize ≤ 8192 := room
    have fits : referenceHeader.Fits (packetSize,commandId,requestId) :=
      ⟨show packetSize < 256^4 by omega,show commandId < 256^4 by omega,show requestId < 256^8 by omega⟩
    have read := referenceHeader.read_write _ [] fits
    rw [List.append_nil] at read
    refine ⟨⟨packetSize,commandId,requestId,false,false⟩,?_,rfl,rfl,rfl⟩
    simp only [referenceFormat,List.take_of_length_le (length_referenceHeader _).le,read]
    exact if_neg (Nat.not_lt.mpr enough)

end PacketLibrary

/-! ## Commands -/

def cmdProxyChallenge : Nat := 0x6001
def cmdProxyCreateConnection : Nat := 0x6003
def cmdProxyDestroyConnection : Nat := 0x6004
def cmdProxyNotifyConnectionState : Nat := 0x6005
def cmdProxyPostData : Nat := 0x6006

def cmdDeviceInitCtrlStream : Nat := 0x8001
def cmdDeviceInitDataStream : Nat := 0x8003
def cmdDeviceNotifyConnectionState : Nat := 0x8007
def cmdDevicePostData : Nat := 0x8008
def cmdDeviceDnsQueryResp : Nat := 0x8021

end MiniPP
