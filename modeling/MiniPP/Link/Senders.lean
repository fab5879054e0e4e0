import MiniPP.Link.Composition
import MiniPP.Relay.Isolation

/-! Which relay server a packet is from. The clients of all relay servers hand their packets
to the same handlers, which look a connection up by the id in the packet alone: what a
packet does to a client's connection, and when that connection is another relay's. -/
namespace MiniPP.Link

variable {keys : KeySource} {cfg : Proxy.Config}

/-- A packet reaches the client of relay server `relay`. The handlers are not told which. -/
def receive (cfg : Proxy.Config) (s : Proxy.Server keys) (_relay : Nat) (pendingWrites : Bool)
    (payloadSize : Nat) (m : PR.Message) : Proxy.Server keys × List Proxy.ServerAction :=
  match onServerPacket pendingWrites payloadSize m with
  | some e => s.step cfg e
  | none => (s,[])

/-- The handler changes the connection, or has an effect in its name. -/
def ActsOn (s : Proxy.Server keys) (out : Proxy.Server keys × List Proxy.ServerAction) (c : Nat) : Prop :=
  out.1.connectionPool.find? c ≠ s.connectionPool.find? c ∨ ∃ x, .client c x ∈ out.2

def readyIds (s : Proxy.Server keys) : List Nat :=
  (s.connectionPool.entries.filter (fun entry => entry.2.phase.Ready)).map Prod.fst

/-- The server with a record of the connections that have been established. -/
def recordingServer (cfg : Proxy.Config) (keys : KeySource) :
    Machine (Proxy.Server keys × List Nat) Proxy.ServerEvent Proxy.ServerAction :=
  (Proxy.serverMachine cfg keys).withGhost [] (fun s e established =>
    established ++ readyIds (s.step cfg e).1)

/-- The connection was opened over this relay, and once established under this id. -/
def OpenedAs (established : List Nat) (relay relaySide c : Nat) (conn : Proxy.ClientConnection) : Prop :=
  conn.relayConnectionId = relay ∧ (c ∈ established → relaySide = conn.relaySideConnectionId)

/-- A packet of a relay server acts only on connections that were opened as it says. -/
def SenderRespected (cfg : Proxy.Config) (s : Proxy.Server keys × List Nat) (relay : Nat)
    (pendingWrites : Bool) (payloadSize : Nat) (m : PR.Message) : Prop :=
  ∀ c conn, s.1.connectionPool.find? c = some conn →
    ActsOn s.1 (receive cfg s.1 relay pendingWrites payloadSize m) c →
      ∃ relaySide, Relay.requestIds m = some (c,relaySide) ∧ OpenedAs s.2 relay relaySide c conn

/-- The phase has no use for the packet: a state that comes neither while the connection is
being opened nor, as the end of a SOCKS5 connection, while it is ready. -/
def Ignored (conn : Proxy.ClientConnection) : PR.Message → Prop
  | .notifyConnectionState n => conn.phase.stage ≠ .opening ∧
      ¬ (conn.phase = .s5ConnectionReady ∧ n.newState = stateClosed)
  | _ => False

theorem ready_recorded {s : Proxy.Server keys × List Nat} {log : List Proxy.ServerAction}
    (reach : (recordingServer cfg keys).Reach Machine.anything s log) {c : Nat}
    {conn : Proxy.ClientConnection} (found : s.1.connectionPool.find? c = some conn)
    (ready : conn.phase.Ready) : c ∈ s.2 := by
  cases reach with
  | start start =>
    obtain ⟨⟨_,_,_,empty⟩,-⟩ := start
    simp [empty,Proxy.Server.init] at found
  | @step s log e before =>
    refine List.mem_append_right _ (List.mem_map.mpr ⟨(c,conn),List.mem_filter.mpr ⟨?_,by simpa⟩,rfl⟩)
    exact Storage.mem_of_find? found

/-! ## What a packet does -/

/-- A delivery acts on its connection if the callback does anything. -/
theorem actsOn_deliver {s : Proxy.Server keys} {c : Nat} {conn : Proxy.ClientConnection}
    (found : s.connectionPool.find? c = some conn) (e : Proxy.ConnEvent) :
    ActsOn s (s.deliver cfg c e) c ↔
      (Proxy.handle cfg conn e).conn ≠ conn ∨ (Proxy.handle cfg conn e).effects ≠ [] := by
  have effects : (∃ x, .client c x ∈ (s.deliver cfg c e).2) ↔
      (Proxy.handle cfg conn e).effects ≠ [] := by
    simp only [← Proxy.mem_history,Proxy.history_deliver_own found e]
    cases (Proxy.handle cfg conn e).effects with
    | nil => simp
    | cons x rest => exact iff_of_true ⟨x,by simp⟩ (by simp)
  unfold ActsOn
  rw [effects,Proxy.deliver_found cfg found e,found]
  simp

theorem not_actsOn_others {s : Proxy.Server keys} {c c' : Nat} (other : c' ≠ c) (e : Proxy.ConnEvent) :
    ¬ ActsOn s (s.deliver cfg c e) c' := by
  rintro (changed | ⟨x,did⟩)
  · cases found : s.connectionPool.find? c with
    | none => simp [Proxy.Server.deliver,found] at changed
    | some conn =>
      rw [Proxy.deliver_pool cfg s c e found,Storage.find?_modify,if_neg other] at changed
      exact changed rfl
  · exact other (Proxy.deliver_cause did).1

/-- In the phases that have no use for a state the callback does nothing, in the others it
does something. -/
theorem handle_relayState (conn : Proxy.ClientConnection) (n : PR.ConnectionStateNotify)
    (pendingWrites : Bool) :
    let act := Proxy.handle cfg conn (.relayState n pendingWrites)
    act.conn ≠ conn ∨ act.effects ≠ [] ↔ ¬ Ignored conn (.notifyConnectionState n) := by
  have moved {c' : Proxy.ClientConnection} {phase : Proxy.Phase} (before : conn.phase = phase)
      (after : c'.phase ≠ phase) : c' ≠ conn := fun same => after (same ▸ before)
  simp only [Proxy.handle,Proxy.onRelaySideConnectionStateChange,Ignored]
  split
  · rename_i phase
    refine iff_of_true (.inr ?_) (by simp [phase,Proxy.Phase.stage])
    split <;> simp
  · rename_i phase
    by_cases closed : n.newState = stateClosed
    · exact iff_of_true (.inr (by simp [closed])) (by simp [phase,closed])
    · exact iff_of_false (by simp [closed]) (by simp [phase,Proxy.Phase.stage,closed])
  · rename_i phase
    refine iff_of_true (.inr ?_) (by simp [phase,Proxy.Phase.stage])
    split <;> simp
  · rename_i phase
    refine iff_of_true ?_ (by simp [phase,Proxy.Phase.stage])
    split
    · refine .inl (moved phase ?_)
      have kept := (Proxy.uploadData_spec cfg { conn with
        readingSuspended := false
        relaySideConnectionId := n.relaySideConnectionId
        phase := .httpNormalReady } conn.http.rebuiltHttpHeader).2.1
      exact fun same => absurd (kept.symm.trans same) (by simp)
    · exact .inr (by simp)
  · refine iff_of_false (by simp) (not_not.mpr ?_)
    cases phase : conn.phase <;> simp_all [Proxy.Phase.stage]

theorem handle_relayDestroy (conn : Proxy.ClientConnection) (pendingWrites : Bool) :
    (Proxy.handle cfg conn (.relayDestroy pendingWrites)).effects ≠ [] := by
  simp only [Proxy.handle,Proxy.onDestroyConnection]
  split <;> simp

theorem handle_relayPush (conn : Proxy.ClientConnection) (payload : Bytes) (payloadSize : Nat) :
    (Proxy.handle cfg conn (.relayPush payload payloadSize)).effects ≠ [] := by
  simp [Proxy.handle,Proxy.onRelaySidePushData]

/-- A packet acts on the connection it names, unless the phase ignores it. -/
theorem actsOn_receive {s : Proxy.Server keys} (running : s.aborted = false) {c : Nat}
    {conn : Proxy.ClientConnection} (found : s.connectionPool.find? c = some conn) (relay : Nat)
    (pendingWrites : Bool) (payloadSize : Nat) (m : PR.Message) :
    ActsOn s (receive cfg s relay pendingWrites payloadSize m) c ↔
      (∃ relaySide, Relay.requestIds m = some (c,relaySide)) ∧ ¬ Ignored conn m := by
  -- The packet is delivered to the connection it names.
  have named {client : Nat} {e : Proxy.ServerEvent} {received : Proxy.ConnEvent}
      (step : s.step cfg e = s.deliver cfg client received)
      (acts : ((Proxy.handle cfg conn received).conn ≠ conn ∨
        (Proxy.handle cfg conn received).effects ≠ []) ↔ ¬ Ignored conn m) :
      ActsOn s (s.step cfg e) c ↔ client = c ∧ ¬ Ignored conn m := by
    rw [step]
    by_cases same : client = c
    · subst same
      rw [actsOn_deliver found,acts]
      simp
    · exact iff_of_false (not_actsOn_others (Ne.symm same) received) (by simp [same])
  cases m with
  | notifyConnectionState n =>
    have delivered : s.step cfg (.relayState n pendingWrites) =
        s.deliver cfg n.proxySideConnectionId (.relayState n pendingWrites) := by
      simp [Proxy.Server.step,running]
    simpa [receive,onServerPacket,Relay.requestIds] using
      named delivered (handle_relayState conn n pendingWrites)
  | destroyConnection m =>
    have delivered : s.step cfg (.relayDestroy m pendingWrites) =
        s.deliver cfg m.proxySideConnectionId (.relayDestroy pendingWrites) := by
      simp [Proxy.Server.step,running]
    simpa [receive,onServerPacket,Relay.requestIds] using
      named delivered (iff_of_true (.inr (handle_relayDestroy conn pendingWrites)) (by simp [Ignored]))
  | postData m =>
    have delivered : s.step cfg (.relayPush m payloadSize) =
        s.deliver cfg m.proxySideConnectionId (.relayPush m.payload payloadSize) := by
      simp [Proxy.Server.step,running]
    simpa [receive,onServerPacket,Relay.requestIds] using
      named delivered (iff_of_true (.inr (handle_relayPush conn m.payload payloadSize)) (by simp [Ignored]))
  | challenge | challengeResp | createConnection =>
    exact iff_of_false (by simp [ActsOn,receive,onServerPacket]) (by simp [Relay.requestIds])

/-- The handlers compare neither the sender nor the id on its side: a relay is kept off the
connections of the others just when its packet names none of them, or is of no use there. -/
theorem sender_respected (s : Proxy.Server keys × List Nat) (relay : Nat) (pendingWrites : Bool)
    (payloadSize : Nat) (m : PR.Message) :
    SenderRespected cfg s relay pendingWrites payloadSize m ↔ s.1.aborted = true ∨
      ∀ c relaySide conn, Relay.requestIds m = some (c,relaySide) →
        s.1.connectionPool.find? c = some conn →
          OpenedAs s.2 relay relaySide c conn ∨ Ignored conn m := by
  cases aborted : s.1.aborted with
  | true =>
    refine iff_of_true (fun c conn _ acts => absurd acts ?_) (.inl rfl)
    unfold receive
    split <;> simp [ActsOn,Proxy.Server.step,aborted]
  | false =>
    have acts {c : Nat} {conn : Proxy.ClientConnection} (found : s.1.connectionPool.find? c = some conn) :
        ActsOn s.1 (receive cfg s.1 relay pendingWrites payloadSize m) c ↔
          (∃ relaySide, Relay.requestIds m = some (c,relaySide)) ∧ ¬ Ignored conn m :=
      actsOn_receive aborted found relay pendingWrites payloadSize m
    simp only [Bool.false_eq_true,false_or]
    constructor
    · intro respected c relaySide conn ids found
      rw [or_iff_not_imp_right]
      intro used
      obtain ⟨named,ids',opened⟩ := respected c conn found ((acts found).mpr ⟨⟨relaySide,ids⟩,used⟩)
      obtain ⟨-,rfl⟩ := Prod.mk.inj (Option.some.inj (ids.symm.trans ids'))
      exact opened
    · intro condition c conn found acted
      obtain ⟨⟨relaySide,ids⟩,used⟩ := (acts found).mp acted
      exact ⟨relaySide,ids,(condition c relaySide conn ids found).resolve_right used⟩

/-! ## A second relay -/

def twoRelays : Proxy.Config := { Proxy.referenceConfig with relayServers := [9,10] }

/-- A client of relay 9, established there. -/
def clientOfFirst : (Proxy.Server .sequential × List Nat) × List Proxy.ServerAction :=
  (recordingServer twoRelays .sequential).run (.init .sequential 1000000 8 8,[])
    (Proxy.socksSession false)

/-- Relay 10 ends the connection of a client of relay 9, under an id that is not even its. -/
theorem relay_destroys_foreign :
    ¬ ∀ s log relay pendingWrites payloadSize m,
      (recordingServer twoRelays .sequential).Reach Machine.anything s log →
        SenderRespected twoRelays s relay pendingWrites payloadSize m := by
  intro always
  have start : (recordingServer twoRelays .sequential).start (.init .sequential 1000000 8 8,[]) :=
    ⟨⟨_,_,_,rfl⟩,rfl⟩
  have reach := Machine.reach_run start (Proxy.socksSession false)
  obtain ⟨conn,found⟩ := Option.isSome_iff_exists.mp
    (by decide : (clientOfFirst.1.1.connectionPool.find? 1).isSome = true)
  obtain ⟨relaySide,-,opened,-⟩ := always _ _ 10 false 0 (.destroyConnection ⟨1,77⟩) reach 1 conn found
    (.inr ⟨.kill,by decide⟩)
  have opener : (clientOfFirst.1.1.connectionPool.find? 1).map (·.relayConnectionId) = some 9 := by decide
  rw [found] at opener
  simp [opened] at opener

end MiniPP.Link
