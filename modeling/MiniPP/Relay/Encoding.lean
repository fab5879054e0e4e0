import MiniPP.Relay.Contexts
import MiniPP.Wire

/-! Data on its way back from a device, as packets. The relay decodes the packet of the device
and encodes one for the proxy-access server, whose header is longer. -/
namespace MiniPP.Relay

variable {keys : Keys} {x : Wire}

/-- `xRD_ConnectionBase::PostMessage` on a connection of a proxy-access server: nothing is
posted, and `false` returned, when the message cannot be written. -/
def postPushData (x : Wire) (p : Nat) (m : PR.PushData) : List RelayAction × Bool :=
  if x.writeMessage x.pushData m = 0 then ([],false) else ([.toProxy p (.postData m)],true)

/-- The payload of a device, under the ids of the context. -/
def returned (cr : RelayConnectionContext) (m : TR.PostData) : PR.PushData where
  proxySideConnectionId := cr.proxySideConnectionId
  relaySideConnectionId := cr.relaySideConnectionId
  payload := m.payload

/-- `OnTerminalPostData` on the payload of a packet. What `PostMessage` returns is not used. -/
def DeviceRelayService.onTerminalPostDataPacket (x : Wire) (s : DeviceRelayService keys)
    (payload : Bytes) : Handled keys :=
  match x.deserialize x.postData payload with
  | none => ⟨s,[],false⟩
  | some m =>
    match s.relayConnectionManager.getConnectionById m.relaySideConnectionId with
    | none => ⟨s,[],true⟩
    | some cr =>
      if cr.relaySideConnectionId ≠ m.relaySideConnectionId then ⟨s,[],true⟩
      else
        match s.proxyConnectionManager.getConnectionById cr.proxyConnectionId with
        | none => ⟨s,[],true⟩
        | some _ => ⟨s,(postPushData x cr.proxyConnectionId (returned cr m)).1,true⟩

/-- Only a message that cannot be written is not posted. -/
def Written (x : Wire) : RelayAction → Bool
  | .toProxy _ (.postData m) => x.writeMessage x.pushData m != 0
  | _ => true

theorem postPushData_written (p : Nat) (m : PR.PushData) :
    (postPushData x p m).1 = [RelayAction.toProxy p (.postData m)].filter (Written x) := by
  unfold postPushData
  by_cases unwritten : x.writeMessage x.pushData m = 0
  · simp [Written,unwritten]
  · have kept : Written x (.toProxy p (.postData m)) = true := by simpa [Written] using unwritten
    rw [if_neg unwritten,List.filter_cons_of_pos kept,List.filter_nil]

/-- The handler of packets is the handler of decoded messages, but for what cannot be written. -/
theorem packet_refines (s : DeviceRelayService keys) (payload : Bytes) :
    s.onTerminalPostDataPacket x payload =
      let handled := s.onTerminalPostData (x.deserialize x.postData payload)
      ⟨handled.relay,handled.actions.filter (Written x),handled.accepted⟩ := by
  unfold DeviceRelayService.onTerminalPostDataPacket DeviceRelayService.onTerminalPostData
  cases x.deserialize x.postData payload with
  | none => rfl
  | some m =>
    dsimp only
    cases s.relayConnectionManager.getConnectionById m.relaySideConnectionId with
    | none => rfl
    | some cr =>
      dsimp only
      by_cases own : cr.relaySideConnectionId = m.relaySideConnectionId
      · rw [if_neg (not_not.mpr own),if_neg (not_not.mpr own)]
        cases s.proxyConnectionManager.getConnectionById cr.proxyConnectionId with
        | none => rfl
        | some conn =>
          dsimp only
          rw [postPushData_written]
          rfl
      · rw [if_pos own,if_pos own]
        rfl

/-- A payload of this size fits in a packet to a proxy-access server. -/
def Fits (x : Wire) (size : Nat) : Prop :=
  x.packetHeaderSize + 16 + x.viewHeadSize + size ≤ x.maxPacketSize

theorem postPushData_fits (p : Nat) (m : PR.PushData) :
    (postPushData x p m).1 = [.toProxy p (.postData m)] ↔ Fits x m.payload.length := by
  have size := x.size_pushData m
  have unwritten := x.writeMessage_eq_zero x.pushData m
  rw [size] at unwritten
  unfold postPushData Fits
  by_cases zero : x.writeMessage x.pushData m = 0
  · rw [if_pos zero]
    have large := unwritten.mp zero
    exact iff_of_false (by simp) (by omega)
  · rw [if_neg zero]
    have small := mt unwritten.mpr zero
    exact iff_of_true rfl (by omega)

/-- The packet is decoded, and names a context whose proxy-access server is connected. -/
structure Accepted (x : Wire) (s : DeviceRelayService keys) (payload : Bytes) (m : TR.PostData)
    (cr : RelayConnectionContext) : Prop where
  decoded : x.deserialize x.postData payload = some m
  context : s.context? m.relaySideConnectionId = some cr
  proxy : s.proxy? cr.proxyConnectionId ≠ none

/-- An accepted packet is answered with one packet to the proxy-access server of its context,
with the same payload. -/
def Lossless (x : Wire) (s : DeviceRelayService keys) (payload : Bytes) : Prop :=
  ∀ m cr, Accepted x s payload m cr → (s.onTerminalPostDataPacket x payload).actions =
    [.toProxy cr.proxyConnectionId (.postData (returned cr m))]

theorem accepted_handled {s : DeviceRelayService keys} (self : SelfNamed s) {payload : Bytes}
    {m : TR.PostData} {cr : RelayConnectionContext} (accepted : Accepted x s payload m cr) :
    s.onTerminalPostDataPacket x payload =
      ⟨s,(postPushData x cr.proxyConnectionId (returned cr m)).1,true⟩ := by
  obtain ⟨decoded,context,proxy⟩ := accepted
  obtain ⟨conn,known⟩ := Option.ne_none_iff_exists'.mp proxy
  have found : s.relayConnectionManager.getConnectionById m.relaySideConnectionId = some cr := context
  have open_ : s.proxyConnectionManager.getConnectionById cr.proxyConnectionId = some conn := known
  have own : cr.relaySideConnectionId = m.relaySideConnectionId := self _ cr context
  simp [DeviceRelayService.onTerminalPostDataPacket,decoded,found,own,open_]

/-- The relay returns `true` for every accepted packet, and loses none just when their payloads
fit behind the longer header; a packet that is all message does so when it has four bytes to
spare. -/
theorem download_lossless {cfg : Config} {s : DeviceRelayService keys} {log : List RelayAction}
    (reach : (relayMachine cfg keys).Reach Machine.anything s log) (payload : Bytes) :
    (Lossless x s payload ↔ ∀ m cr, Accepted x s payload m cr → Fits x m.payload.length) ∧
    ∀ m cr, Accepted x s payload m cr →
      (s.onTerminalPostDataPacket x payload).accepted = true ∧
      (payload = x.postData.write m →
        (Fits x m.payload.length ↔ x.packetHeaderSize + payload.length + 4 ≤ x.maxPacketSize)) := by
  have self := self_named reach
  refine ⟨?_,?_⟩
  · refine forall_congr' fun m => forall_congr' fun cr => forall_congr' fun accepted => ?_
    rw [accepted_handled self accepted]
    exact postPushData_fits cr.proxyConnectionId (returned cr m)
  · intro m cr accepted
    refine ⟨by rw [accepted_handled self accepted],fun whole => ?_⟩
    have size := x.size_postData m
    rw [← whole] at size
    unfold Fits
    omega

/-- The sizes leave room for the payloads that the protocol is made for. -/
theorem fits_maxPayloadSize (head : x.viewHeadSize ≤ 16) {size : Nat} (bounded : size ≤ PR.maxPayloadSize) :
    Fits x size := by
  have room := x.payload_room
  unfold Fits
  simp only [PR.maxPayloadSize] at room bounded
  omega

/-! ## Packets near the limit -/

/-- A device pushes this payload for context 1. -/
def pushed (payload : Bytes) : Bytes :=
  Wire.reference.postData.write
    { deviceSideConnectionId := 5, relaySideConnectionId := 1, payload := payload }

theorem deserialize_pushed {payload : Bytes} (bounded : payload.length < 256^4) :
    Wire.reference.deserialize Wire.reference.postData (pushed payload) =
      some { deviceSideConnectionId := 5, relaySideConnectionId := 1, payload := payload } :=
  Wire.reference.deserialize_write _ ⟨show 5 < 256^4 by decide,show 1 < 256^8 by decide,bounded⟩

theorem pushed_accepted (payload : Bytes) (bounded : payload.length < 256^4) :
    ∃ cr, Accepted Wire.reference (after (registration ++ opening)).1 (pushed payload)
      { deviceSideConnectionId := 5, relaySideConnectionId := 1, payload := payload } cr := by
  obtain ⟨cr,context⟩ := Option.isSome_iff_exists.mp
    (by decide : ((after (registration ++ opening)).1.context? 1).isSome = true)
  have proxy : ((after (registration ++ opening)).1.context? 1).map (·.proxyConnectionId) = some 1 := by
    decide
  rw [context] at proxy
  obtain proxy : cr.proxyConnectionId = 1 := by simpa using proxy
  exact ⟨cr,deserialize_pushed bounded,context,by rw [proxy]; decide⟩

theorem download_lossless_small : Lossless Wire.reference (after (registration ++ opening)).1 (pushed [104]) := by
  apply ((download_lossless (after_reach (registration ++ opening)) (pushed [104])).1).mpr
  intro m cr accepted
  obtain rfl := Option.some.inj ((deserialize_pushed (by decide)).symm.trans accepted.decoded)
  exact fits_maxPayloadSize (by decide) (by decide)

/-- A packet of the greatest size is accepted, and its payload is lost. -/
theorem download_loses_full_packet :
    ¬ ∀ s log payload, (relayMachine referenceConfig .sequential).Reach Machine.anything s log →
      Wire.reference.packetHeaderSize + payload.length ≤ Wire.reference.maxPacketSize →
        Lossless Wire.reference s payload := by
  intro always
  obtain ⟨data,size⟩ : ∃ data : Bytes, data.length = 8160 :=
    ⟨List.replicate 8160 0,List.length_replicate⟩
  have whole : (pushed data).length = 8176 := by
    rw [pushed,Wire.size_postData,size]
    rfl
  have fits : Wire.reference.packetHeaderSize + (pushed data).length ≤ Wire.reference.maxPacketSize := by
    rw [whole]
    decide
  obtain ⟨cr,accepted⟩ := pushed_accepted data (by rw [size]; decide)
  have lossless := always _ _ _ (after_reach (registration ++ opening)) fits _ cr accepted
  rw [accepted_handled (self_named (after_reach (registration ++ opening))) accepted] at lossless
  have room := (postPushData_fits _ _).mp lossless
  unfold Fits at room
  rw [returned,size] at room
  exact absurd room (by decide)

end MiniPP.Relay
