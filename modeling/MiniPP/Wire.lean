import MiniPP.Lib.Codec
import MiniPP.Protocol

/-! Packets as the library writes and reads them. Its codecs of numbers and strings and its
sizes are not part of the repository; they are the fields of `Wire`. A message is written
member by member. -/
namespace MiniPP

/-- `view` is the codec of a string, with `viewHeadSize` bytes before the text. `leftover` tells
whether `Deserialize` takes a payload with this behind the members. The repository asserts of
the sizes that `payload_room` holds. -/
structure Wire where
  packetHeaderSize : Nat
  maxPacketSize : Nat
  viewHeadSize : Nat
  u32 : Codec UInt8 Nat
  u64 : Codec UInt8 Nat
  view : Codec UInt8 Bytes
  leftover : Bytes → Bool
  u32_size : ∀ n, (u32.write n).length = 4
  u64_size : ∀ n, (u64.write n).length = 8
  view_size : ∀ data, (view.write data).length = viewHeadSize + data.length
  header_some : 0 < packetHeaderSize
  leftover_none : leftover [] = true
  payload_room : PR.maxPayloadSize + 32 ≤ maxPacketSize - packetHeaderSize

namespace Wire

variable (x : Wire)

/-- `xPR_PushData`. -/
def pushData : Codec UInt8 PR.PushData :=
  (x.u64.pair (x.u64.pair x.view)).record
    (fun (proxySide,relaySide,payload) => ⟨proxySide,relaySide,payload⟩)
    (fun m => (m.proxySideConnectionId,m.relaySideConnectionId,m.payload)) (fun _ => rfl)

/-- `xTR_PostData`. -/
def postData : Codec UInt8 TR.PostData :=
  (x.u32.pair (x.u64.pair x.view)).record
    (fun (deviceSide,relaySide,payload) => ⟨deviceSide,relaySide,payload⟩)
    (fun m => (m.deviceSideConnectionId,m.relaySideConnectionId,m.payload)) (fun _ => rfl)

theorem size_pushData (m : PR.PushData) :
    (x.pushData.write m).length = 16 + x.viewHeadSize + m.payload.length := by
  simp only [pushData,Codec.record,Codec.pair,List.length_append,u64_size,view_size]
  omega

/-- Four bytes less than the same payload takes on the way to the proxy. -/
theorem size_postData (m : TR.PostData) :
    (x.postData.write m).length = 12 + x.viewHeadSize + m.payload.length := by
  simp only [postData,Codec.record,Codec.pair,List.length_append,u32_size,u64_size,view_size]
  omega

def deserialize {α : Type} (message : Codec UInt8 α) (payload : Bytes) : Option α :=
  match message.read payload with
  | none => none
  | some (m,rest) => if x.leftover rest then some m else none

theorem deserialize_write {α : Type} (message : Codec UInt8 α) {m : α} (fits : message.Fits m) :
    x.deserialize message (message.write m) = some m := by
  have read := message.read_write m [] fits
  rw [List.append_nil] at read
  simp [deserialize,read,x.leftover_none]

/-- `WriteMessage` into a buffer of `MaxPacketSize` bytes: the size of the packet, and 0 if
there is no room for it. -/
def writeMessage {α : Type} (message : Codec UInt8 α) (m : α) : Nat :=
  let size := x.packetHeaderSize + (message.write m).length
  if size ≤ x.maxPacketSize then size else 0

theorem writeMessage_eq_zero {α : Type} (message : Codec UInt8 α) (m : α) :
    x.writeMessage message m = 0 ↔ x.maxPacketSize < x.packetHeaderSize + (message.write m).length := by
  have some_ := x.header_some
  unfold writeMessage
  dsimp only
  split <;> omega

end Wire

/-! ## A reading of the library, for concrete runs -/

def Wire.reference : Wire where
  packetHeaderSize := 16
  maxPacketSize := 8192
  viewHeadSize := 4
  u32 := .bigEndian 4
  u64 := .bigEndian 8
  view := .counted (.bigEndian 4)
  leftover rest := rest.isEmpty
  u32_size := Codec.length_toBigEndian 4
  u64_size := Codec.length_toBigEndian 8
  view_size data := by simp [Codec.counted,Codec.bigEndian]
  header_some := by decide
  leftover_none := rfl
  payload_room := by decide

example : Wire.reference.postData.write ⟨5,1,[104]⟩ = [0,0,0,5,0,0,0,0,0,0,0,1,0,0,0,1,104] := by decide

end MiniPP
