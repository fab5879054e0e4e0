import MiniPP.Lib.Storage
import MiniPP.Packets

/-! The links of a proxy-access server to the relays. A link is known by its pointer. -/
namespace MiniPP.Proxy

open Framing

/-- A link is on one of the lists, or on neither. -/
structure RelayConnectionManager where
  ticker : Nat := 0
  idleList : List Nat := []
  killList : List Nat := []
  lastKeepAliveResponseTimestampMS : Nat → Nat := fun _ => 0

/-- A packet that is dispatched. -/
inductive RelayDispatch where
  | keepAlive (rcp : Nat)
  | packet (rcp commandId requestId : Nat) (payload : Bytes)
  deriving DecidableEq, Repr

/-- An override of `OnPacket`, with a state of its own beside the manager's. -/
structure PacketHandler (ω : Type) where
  onPacket : RelayConnectionManager × ω → Nat → Nat → Nat → Bytes → (RelayConnectionManager × ω) × Bool

/-- `OnPacket` as it is when nothing overrides it: the packet is logged. -/
def PacketHandler.base (ω : Type) : PacketHandler ω := ⟨fun s _ _ _ _ => (s,true)⟩

namespace RelayConnectionManager

def keepAlive (m : RelayConnectionManager) (rcp : Nat) : RelayConnectionManager where
  ticker := m.ticker
  idleList := toTail m.idleList rcp
  killList := without m.killList rcp
  lastKeepAliveResponseTimestampMS := Function.update m.lastKeepAliveResponseTimestampMS rcp m.ticker

variable {ω : Type}

/-- The body of the loop of `OnData`, for a packet that is complete. -/
def dispatch (h : PacketHandler ω) (rcp : Nat) (s : RelayConnectionManager × ω) (header : PacketHeader)
    (payload : Bytes) : Reaction (RelayConnectionManager × ω) RelayDispatch :=
  if header.isKeepAlive then ⟨(s.1.keepAlive rcp,s.2),[.keepAlive rcp],true⟩
  else
    let handled := h.onPacket s rcp header.commandId header.requestId payload
    ⟨handled.1,[.packet rcp header.commandId header.requestId payload],handled.2⟩

def onDataLoop (h : PacketHandler ω) (f : PacketFormat) (rcp : Nat) :
    Nat → RelayConnectionManager × ω → Bytes → Call (RelayConnectionManager × ω) RelayDispatch
  | 0, s, _ => ⟨s,[],some 0⟩
  | fuel + 1, s, data =>
    if data.length < f.headerSize then ⟨s,[],some 0⟩
    else
      match f.parse data with
      | none => ⟨s,[],none⟩
      | some header =>
        if data.length < header.packetSize then ⟨s,[],some 0⟩
        else
          let reaction := dispatch h rcp s header ((data.take header.packetSize).drop f.headerSize)
          if reaction.accepted then
            let later := onDataLoop h f rcp fuel reaction.state (data.drop header.packetSize)
            ⟨later.state,reaction.out ++ later.out,later.taken.map (header.packetSize + ·)⟩
          else ⟨reaction.state,reaction.out,none⟩

theorem onDataLoop_chunks (h : PacketHandler ω) (f : PacketFormat) (rcp : Nat) :
    ChunkInvariant f.framing (dispatch h rcp) (onDataLoop h f rcp) := by
  apply chunkInvariant_of_turns
  · intro s data
    rfl
  · intro fuel s data
    simp only [onDataLoop,PacketFormat.framing]
    cases f.parse data with
    | none => rfl
    | some header => rfl

/-- Two packets, cut inside their payloads. -/
example : (Framing.feed (fun s data => onDataLoop (.base Unit) .oneByte 1 data.length s data) ({},()) []
    [[2],[7,3],[8],[9]]).out = [.packet 1 0 0 [7],.packet 1 0 0 [8,9]] := by decide

end RelayConnectionManager

end MiniPP.Proxy
