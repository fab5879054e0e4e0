import MiniPP.Backend.Connection
import MiniPP.Proxy.RelayConnections
import MiniPP.Relay.Receiving

/-! The receive loop stands three times in the program: for the peers of a relay, for the links
of a proxy-access server, and for the connection to the backend. -/
namespace MiniPP

open Framing

namespace Backend

namespace BackendConnection

/-- How often an override was asked for its answer, at most. -/
def received (actions : List BackendAction) : Nat :=
  actions.countP (fun | .received .. => true | _ => false)

/-- The body of the loop of `OnData`, for a packet that is complete: it does not ask whether the packet
requests a keep-alive. What the overrides will answer stands beside the connection. -/
def dispatch (x : Library) (s : BackendConnection × List Override) (header : PacketHeader)
    (payload : Bytes) : Reaction (BackendConnection × List Override) BackendAction :=
  if header.isKeepAlive then ⟨({ s.1 with lastKeepAliveTimestampMS := s.1.ticker },s.2),[],true⟩
  else
    let handled := s.1.onPacket x header.commandId header.requestId payload (s.2.headD {})
    ⟨(handled.connection,s.2.tail),handled.actions,handled.accepted⟩

/-- The loop of `OnData`, with the answers that it did not use. -/
def onDataCall (x : Library) (f : PacketFormat) (fuel : Nat) (s : BackendConnection × List Override) (data : Bytes) :
    Call (BackendConnection × List Override) BackendAction :=
  let looped := onDataLoop x f fuel s.1 data s.2
  ⟨(looped.connection,s.2.drop (received looped.actions)),looped.actions,looped.size⟩

theorem received_append (actions later : List BackendAction) :
    received (actions ++ later) = received actions + received later := List.countP_append

theorem received_posts (posts : List Bytes) (c : BackendConnection) :
    received (posts.flatMap c.postData) = 0 := by
  apply List.countP_eq_zero.mpr
  intro a posted
  obtain ⟨data,-,member⟩ := List.mem_flatMap.mp posted
  unfold postData at member
  split at member
  · obtain rfl := List.mem_singleton.mp member
    simp
  · cases member

/-- One packet, one answer. -/
theorem received_onPacket (x : Library) (c : BackendConnection) (commandId requestId : Nat) (payload : Bytes)
    (o : Override) : received (c.onPacket x commandId requestId payload o).actions = 1 := by
  have posts := received_posts o.posts
  unfold received at posts
  simp only [onPacket,received,List.countP_cons]
  split
  · simp [overridden,posts]
  · split
    · simp
    · unfold onCmdBackendChallengeResp
      split
      · simp
      · split
        · simp
        · simp [overridden,posts]

theorem onDataCall_packet (x : Library) (f : PacketFormat) (fuel : Nat) (s : BackendConnection × List Override)
    {data payload : Bytes} {header : PacketHeader}
    (next : front f.framing data = .packet header payload) :
    onDataCall x f (fuel + 1) s data =
      let reaction := dispatch x s header payload
      if reaction.accepted then
        let later := onDataCall x f fuel reaction.state (data.drop header.packetSize)
        ⟨later.state,reaction.out ++ later.out,later.taken.map (header.packetSize + ·)⟩
      else ⟨reaction.state,reaction.out,none⟩ := by
  unfold onDataCall dispatch
  simp only [onDataLoop,next]
  by_cases keeps : header.isKeepAlive
  · simp only [keeps,if_true,List.nil_append]
  · have one := received_onPacket x s.1 header.commandId header.requestId payload (s.2.headD {})
    simp only [keeps,if_false,Bool.false_eq_true]
    split
    · rw [received_append,one,← List.drop_drop,List.drop_one]
    · rw [one,List.drop_one]

theorem onDataCall_chunks (x : Library) (f : PacketFormat) :
    ChunkInvariant f.framing (dispatch x) (onDataCall x f) := by
  apply chunkInvariant_of_front
  · intro s data
    rfl
  · intro fuel s data
    cases next : front f.framing data with
    | invalid | incomplete => simp [onDataCall,onDataLoop,next,received]
    | packet header payload => exact onDataCall_packet x f fuel s next

end BackendConnection

end Backend

/-- Of each of the three loops, on any stream in any chunks: the packets that are dispatched, and
what they do, are those of the stream as a whole, up to the first bad header or handler that
refuses; a call that does not fail takes whole packets; and the loop ends. -/
theorem receive_loops_chunk_invariant (f : PacketFormat) :
    (∀ (cfg : Relay.Config) (x : Message.MessageFormat) (keys : Relay.Keys) (peer : Relay.Peer),
      ChunkInvariant f.framing (fun s : Relay.DeviceRelayService keys => s.dispatch cfg x peer)
        (Relay.DeviceRelayService.onDataLoop cfg x f peer)) ∧
    (∀ (ω : Type) (h : Proxy.PacketHandler ω) (rcp : Nat),
      ChunkInvariant f.framing (Proxy.RelayConnectionManager.dispatch h rcp)
        (Proxy.RelayConnectionManager.onDataLoop h f rcp)) ∧
    ∀ x : Backend.Library, ChunkInvariant f.framing (Backend.BackendConnection.dispatch x)
      (Backend.BackendConnection.onDataCall x f) :=
  ⟨fun cfg x _ peer => Relay.DeviceRelayService.onDataLoop_chunks cfg x f peer,
    fun _ h rcp => Proxy.RelayConnectionManager.onDataLoop_chunks h f rcp,
    fun x => Backend.BackendConnection.onDataCall_chunks x f⟩

end MiniPP
