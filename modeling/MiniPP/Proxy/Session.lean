import MiniPP.Lib.Machine
import MiniPP.Proxy.Branches

/-! One client connection as an automaton. Its phases fall into seven stages that are
common to the three protocols, and each callback is one move between stages; what has
been asked of the other services is then a function of the stage. -/
namespace MiniPP.Proxy

inductive Stage where
  | greeting
  | authenticating
  | selecting
  | requesting
  | opening
  | ready
  | closed
  deriving DecidableEq, Repr

def Phase.stage : Phase → Stage
  | .unknown | .s5WaitForAuthInfo | .httpChallenge | .httpRawChallenge | .httpNormalChallenge =>
    .greeting
  | .s5WaitForAccountExchange | .httpRawWaitForAccountExchange
  | .httpNormalWaitForAccountExchange => .authenticating
  | .s5WaitForDeviceSelection | .httpRawWaitForDeviceSelection
  | .httpNormalWaitForDeviceSelection => .selecting
  | .s5WaitForConnectionRequest => .requesting
  | .s5WaitForConnectionEstablish | .httpRawWaitForConnectionEstablish
  | .httpNormalWaitForConnectionEstablish => .opening
  | .s5ConnectionReady | .httpRawReady | .httpNormalReady => .ready
  | .s5WaitForConnectionClosed | .httpRawClosed | .httpNormalClosed | .lingerKill | .error =>
    .closed

theorem Phase.ready_iff (p : Phase) : p.Ready ↔ p.stage = .ready := by
  cases p <;> simp [Phase.Ready,Phase.stage]

/-- Effects that ask nothing of the auth cache or the device selector, and nothing of a
relay but to note transferred sizes. -/
def Effect.Quiet : Effect → Prop
  | .requestAuth _ | .postDeviceRequest _ => False
  | .postMessage _ (.notifyConnectionState _) => True
  | .postMessage _ _ => False
  | _ => True

/-- A payload pushed in the name of `c`, under its relay-side id. -/
def Effect.PushFor (c : ClientConnection) (x : Effect) : Prop :=
  ∃ server payload, x = .postMessage server (.postData
    { proxySideConnectionId := c.connectionId
      relaySideConnectionId := c.relaySideConnectionId
      payload := payload })

/-- What a move leaves alone, and the direction of the phase. -/
structure Frame (c c' : ClientConnection) : Prop where
  connectionId : c'.connectionId = c.connectionId
  phase : c.phase.value ≤ c'.phase.value

/-- The moves of the automaton. -/
inductive Move (c : ClientConnection) : ConnEvent → ClientConnection → List Effect → Prop where
  | quiet {e : ConnEvent} {c' : ClientConnection} {out : List Effect} (frame : Frame c c')
      (relaySide : c'.relaySideConnectionId = c.relaySideConnectionId)
      (stage : c'.phase.stage = c.phase.stage ∨ c'.phase.stage = .closed)
      (silent : ∀ x ∈ out, x.Quiet)
      (waiting : c'.phase.stage = .opening →
        ∀ n pending, e = .relayState n pending → n.newState ≠ stateEstablished) :
      Move c e c' out
  | requested {data : Bytes} {c' : ClientConnection} (key : Bytes) (frame : Frame c c')
      (source : c.phase.stage = .greeting) (target : c'.phase.stage = .authenticating) :
      Move c (.data data) c' [.requestAuth key]
  | verified {c' : ClientConnection} (verdict : AuthResult) (request : DeviceRequest)
      (frame : Frame c c') (source : c.phase.stage = .authenticating)
      (target : c'.phase.stage = .selecting) (own : request.clientConnectionId = c.connectionId) :
      Move c (.authResult (some verdict)) c'
        [.removeAccountTimeout,.keepAlive,.postDeviceRequest request]
  | selected {c' : ClientConnection} {out : List Effect} (result : AcquireDeviceResp)
      (frame : Frame c c') (source : c.phase.stage = .selecting)
      (target : c'.phase.stage = .requesting) (silent : ∀ x ∈ out, x.Quiet) :
      Move c (.deviceSelected result) c' out
  | opened {e : ConnEvent} {c' : ClientConnection} (server : Nat) (m : PR.CreateConnection)
      (frame : Frame c c') (own : m.proxySideConnectionId = c.connectionId)
      (source : (c.phase.stage = .requesting ∧ ∃ data, e = .data data) ∨
        (c.phase.stage = .selecting ∧ ∃ result, e = .deviceSelected result))
      (target : c'.phase.stage = .opening) :
      Move c e c' [.postMessage server (.createConnection m)]
  | established {c' : ClientConnection} {out : List Effect} (n : PR.ConnectionStateNotify)
      (pending : Bool) (frame : Frame c c') (source : c.phase.stage = .opening)
      (target : c'.phase.stage = .ready) (state : n.newState = stateEstablished)
      (relaySide : c'.relaySideConnectionId = n.relaySideConnectionId)
      (pushes : ∀ x ∈ out, x.Quiet ∨ x.PushFor c') :
      Move c (.relayState n pending) c' out
  | uploaded {data : Bytes} {c' : ClientConnection} {out : List Effect} (frame : Frame c c')
      (source : c.phase.stage = .ready) (target : c'.phase.stage = .ready)
      (relaySide : c'.relaySideConnectionId = c.relaySideConnectionId)
      (pushes : ∀ x ∈ out, x.Quiet ∨ x.PushFor c') :
      Move c (.data data) c' out

/-! ## Every callback is a move -/

theorem Frame.refl (c : ClientConnection) : Frame c c := ⟨rfl,Nat.le_refl _⟩

theorem Frame.advance {c c' : ClientConnection} (p q : Phase) (later : p.value ≤ q.value)
    (connectionId : c'.connectionId = c.connectionId) (source : c.phase = p)
    (target : c'.phase = q) : Frame c c' :=
  ⟨connectionId,by rw [source,target]; exact later⟩

/-- A callback that keeps the phase and asks for nothing. -/
theorem Move.stay {c c' : ClientConnection} {e : ConnEvent} {out : List Effect}
    (connectionId : c'.connectionId = c.connectionId) (phase : c'.phase = c.phase)
    (relaySide : c'.relaySideConnectionId = c.relaySideConnectionId)
    (silent : ∀ x ∈ out, x.Quiet)
    (waiting : c.phase.stage = .opening →
      ∀ n pending, e = .relayState n pending → n.newState ≠ stateEstablished) :
    Move c e c' out :=
  .quiet ⟨connectionId,Nat.le_of_eq (by rw [phase])⟩ relaySide (.inl (by rw [phase])) silent
    (phase ▸ waiting)

theorem tryUpdate_spec (cfg : Config) (c : ClientConnection) (up down : Nat) :
    let act := tryUpdateDataTransferSize cfg c up down
    act.conn.connectionId = c.connectionId ∧ act.conn.phase = c.phase ∧
      act.conn.relaySideConnectionId = c.relaySideConnectionId ∧ ∀ x ∈ act.effects, x.Quiet := by
  have branch := update_branch cfg c up down
  generalize tryUpdateDataTransferSize cfg c up down = act at branch
  cases branch <;> simp [Effect.Quiet]

theorem uploadData_spec (cfg : Config) (c : ClientConnection) (data : Bytes) :
    let reading := onUploadData cfg c data
    reading.conn.connectionId = c.connectionId ∧ reading.conn.phase = c.phase ∧
      reading.conn.relaySideConnectionId = c.relaySideConnectionId ∧
      ∀ x ∈ reading.effects, x.Quiet ∨ x.PushFor reading.conn := by
  obtain ⟨connectionId,phase,relaySide,silent⟩ := tryUpdate_spec cfg c data.length 0
  have same : (onUploadData cfg c data).conn.connectionId = c.connectionId ∧
      (onUploadData cfg c data).conn.phase = c.phase ∧
      (onUploadData cfg c data).conn.relaySideConnectionId = c.relaySideConnectionId := by
    rcases uploadData_conn cfg c data with conn | conn
    · simp [conn]
    · rw [conn]
      exact ⟨connectionId,phase,relaySide⟩
  refine ⟨same.1,same.2.1,same.2.2,?_⟩
  intro x member
  rcases uploadData_effect member with ⟨payload,rfl⟩ | report | rfl
  · exact .inr ⟨_,payload,by rw [same.1,same.2.2]⟩
  · exact .inl (silent x report)
  · exact .inl trivial

theorem move_challenge (c : ClientConnection) (data : Bytes) (phase : c.phase = .unknown) :
    Move c (.data data) (onChallenge c data).conn (onChallenge c data).effects := by
  have advance (c' : ClientConnection) (out : List Effect) (connectionId : c'.connectionId = c.connectionId)
      (relaySide : c'.relaySideConnectionId = c.relaySideConnectionId)
      (stage : c'.phase.stage = .greeting) (silent : ∀ x ∈ out, x.Quiet) :
      Move c (.data data) c' out := by
    refine .quiet ⟨connectionId,?_⟩ relaySide (.inl ?_) silent ?_
    · rw [phase]; exact Nat.zero_le _
    · rw [stage,phase]; rfl
    · rw [stage]; simp
  have same : c.phase.stage = .greeting := by rw [phase]; rfl
  have branch := challenge_branch c data
  generalize onChallenge c data = reading at branch ⊢
  cases branch with
  | waits => exact advance _ _ rfl rfl same (by simp)
  | killed => exact advance _ _ rfl rfl same (by simp [Effect.Quiet])
  | matched => exact advance _ _ rfl rfl rfl (by simp [Effect.Quiet])
  | unmatched => exact advance _ _ rfl rfl rfl (by simp [Effect.Quiet])
  | connect => exact advance _ _ rfl rfl rfl (by simp)
  | forward => exact advance _ _ rfl rfl rfl (by simp)

theorem move_s5ClientAuth (c : ClientConnection) (data : Bytes)
    (phase : c.phase = .s5WaitForAuthInfo) :
    Move c (.data data) (onS5ClientAuth c data).conn (onS5ClientAuth c data).effects := by
  have branch := clientAuth_branch c data
  generalize onS5ClientAuth c data = reading at branch ⊢
  cases branch with
  | waits => exact .stay rfl rfl rfl (by simp) (by simp)
  | requested key =>
    refine .requested key (.advance .s5WaitForAuthInfo .s5WaitForAccountExchange (by decide) rfl phase rfl) ?_ rfl
    rw [phase]
    rfl
  | other => exact .stay rfl rfl rfl (by simp) (by simp)

/-- Opening a remote connection, from the stages that do it. -/
theorem move_openRemote (cfg : Config) (c d : ClientConnection) (e : ConnEvent)
    (address : NetAddress) (hostname : Bytes) (connectionId : d.connectionId = c.connectionId)
    (samePhase : d.phase = c.phase) (relaySide : d.relaySideConnectionId = c.relaySideConnectionId)
    (source : (c.phase = .s5WaitForConnectionRequest ∧ ∃ data, e = .data data) ∨
      ((c.phase = .httpRawWaitForDeviceSelection ∨ c.phase = .httpNormalWaitForDeviceSelection) ∧
        ∃ result, e = .deviceSelected result)) :
    let act := onOpenRemoteConnection cfg d address hostname
    Move c e act.conn act.effects := by
  unfold onOpenRemoteConnection
  dsimp only
  split
  · refine .opened d.relayConnectionId _ ?_ connectionId ?_ ?_
    · rcases source with ⟨phase,-⟩ | ⟨phase | phase,-⟩
      · exact .advance _ .s5WaitForConnectionEstablish (by decide) connectionId phase
          (by simp only [samePhase,phase])
      · exact .advance _ .httpRawWaitForConnectionEstablish (by decide) connectionId phase
          (by simp only [samePhase,phase])
      · exact .advance _ .httpNormalWaitForConnectionEstablish (by decide) connectionId phase
          (by simp only [samePhase,phase])
    · rcases source with ⟨phase,data,rfl⟩ | ⟨phase | phase,result,rfl⟩
      · exact .inl ⟨by rw [phase]; rfl,data,rfl⟩
      · exact .inr ⟨by rw [phase]; rfl,result,rfl⟩
      · exact .inr ⟨by rw [phase]; rfl,result,rfl⟩
    · rw [samePhase]
      rcases source with ⟨phase,-⟩ | ⟨phase | phase,-⟩ <;> rw [phase] <;> rfl
  · refine .stay connectionId samePhase relaySide (by simp) ?_
    rcases source with ⟨phase,-⟩ | ⟨phase | phase,-⟩ <;> rw [phase] <;> simp [Phase.stage]

theorem move_s5ConnectionRequest (cfg : Config) (c : ClientConnection) (data : Bytes)
    (phase : c.phase = .s5WaitForConnectionRequest) :
    Move c (.data data) (onS5ConnectionRequest cfg c data).conn
      (onS5ConnectionRequest cfg c data).effects := by
  have stay (out : List Effect) (silent : ∀ x ∈ out, x.Quiet) : Move c (.data data) c out :=
    .stay rfl rfl rfl silent (by simp)
  have branch := connectionRequest_branch cfg c data
  generalize onS5ConnectionRequest cfg c data = reading at branch ⊢
  cases branch with
  | waits => exact stay _ (by simp)
  | killed => exact stay _ (by simp [Effect.Quiet])
  | declined => exact stay _ (by simp [Effect.Quiet])
  | opens => exact move_openRemote cfg c c _ _ _ rfl rfl rfl (.inl ⟨phase,data,rfl⟩)

theorem move_httpRawChallenge (cfg : Config) (c : ClientConnection) (data : Bytes)
    (phase : c.phase = .httpRawChallenge) :
    Move c (.data data) (onHttpRawChallenge cfg c data).conn
      (onHttpRawChallenge cfg c data).effects := by
  have stay (out : List Effect) (silent : ∀ x ∈ out, x.Quiet) : Move c (.data data) c out :=
    .stay rfl rfl rfl silent (by simp)
  have branch := rawChallenge_branch cfg c data
  generalize onHttpRawChallenge cfg c data = reading at branch ⊢
  cases branch with
  | reads => exact stay _ (by simp)
  | killed => exact stay _ (by simp [Effect.Quiet])
  | refused => exact stay _ (by simp [Effect.Quiet])
  | requested key =>
    refine .requested key (.advance .httpRawChallenge .httpRawWaitForAccountExchange (by decide) rfl phase rfl) ?_ rfl
    rw [phase]
    rfl

theorem move_httpNormalChallenge (cfg : Config) (c : ClientConnection) (data : Bytes)
    (phase : c.phase = .httpNormalChallenge) :
    Move c (.data data) (onHttpNormalChallenge cfg c data).conn
      (onHttpNormalChallenge cfg c data).effects := by
  have stay (http : Http) (out : List Effect) (silent : ∀ x ∈ out, x.Quiet) :
      Move c (.data data) { c with http } out := .stay rfl rfl rfl silent (by simp)
  have branch := normalChallenge_branch cfg c data
  generalize onHttpNormalChallenge cfg c data = reading at branch ⊢
  cases branch with
  | reads => exact stay _ _ (by simp)
  | killed => exact stay _ _ (by simp [Effect.Quiet])
  | outOfBounds => exact stay _ _ (by simp [Effect.Quiet])
  | refused => exact stay _ _ (by simp [Effect.Quiet])
  | requested http host key =>
    refine .requested key (.advance .httpNormalChallenge .httpNormalWaitForAccountExchange
      (by decide) rfl phase rfl) ?_ rfl
    rw [phase]
    rfl

theorem move_uploadData (cfg : Config) (c : ClientConnection) (data : Bytes)
    (ready : c.phase.Ready) :
    Move c (.data data) (onUploadData cfg c data).conn (onUploadData cfg c data).effects := by
  obtain ⟨connectionId,phase,relaySide,pushes⟩ := uploadData_spec cfg c data
  have stage := c.phase.ready_iff.mp ready
  exact .uploaded ⟨connectionId,Nat.le_of_eq (by rw [phase])⟩ stage (by rw [phase,stage])
    relaySide pushes

theorem move_data (cfg : Config) (c : ClientConnection) (data : Bytes) :
    Move c (.data data) (onData cfg c data).conn (onData cfg c data).effects := by
  unfold onData
  split
  · exact move_challenge c data ‹_›
  · exact move_s5ClientAuth c data ‹_›
  · exact move_s5ConnectionRequest cfg c data ‹_›
  · exact move_uploadData cfg c data (.inl ‹_›)
  · exact move_httpRawChallenge cfg c data ‹_›
  · exact move_uploadData cfg c data (.inr (.inl ‹_›))
  · exact move_httpNormalChallenge cfg c data ‹_›
  · exact move_uploadData cfg c data (.inr (.inr ‹_›))
  · exact .stay rfl rfl rfl (by simp [Effect.Quiet]) (by simp)

theorem move_authFinished (failure : Bytes) (close : Effect) (next : Phase) (c : ClientConnection)
    (result : Option AuthResult) (quiet : close.Quiet)
    (source : c.phase.stage = .authenticating) (target : next.stage = .selecting)
    (later : c.phase.value ≤ next.value) :
    Move c (.authResult result) (onAuthFinished failure close next c result).conn
      (onAuthFinished failure close next c result).effects := by
  cases result with
  | none =>
    refine .stay rfl rfl rfl ?_ (by simp [source])
    intro x member
    rcases (by simpa [onAuthFinished] using member : x = .postData failure ∨ x = close) with rfl | rfl
    · trivial
    · exact quiet
  | some verdict => exact .verified verdict _ ⟨rfl,later⟩ source target rfl

theorem move_authResult (c : ClientConnection) (result : Option AuthResult) :
    Move c (.authResult result) (onAuthResult c result).conn (onAuthResult c result).effects := by
  unfold onAuthResult
  split
  · rename_i phase
    exact move_authFinished _ _ _ c result trivial (by rw [phase]; rfl) rfl (by rw [phase]; decide)
  · rename_i phase
    exact move_authFinished _ _ _ c result trivial (by rw [phase]; rfl) rfl (by rw [phase]; decide)
  · rename_i phase
    exact move_authFinished _ _ _ c result trivial (by rw [phase]; rfl) rfl (by rw [phase]; decide)
  · exact .stay rfl rfl rfl (by simp [Effect.Quiet]) (by simp)

theorem move_deviceSelected (cfg : Config) (c : ClientConnection) (result : AcquireDeviceResp) :
    Move c (.deviceSelected result) (onDeviceSelected cfg c result).conn
      (onDeviceSelected cfg c result).effects := by
  unfold onDeviceSelected
  split
  · rename_i phase
    split
    · exact .stay rfl rfl rfl (by simp [Effect.Quiet]) (by simp)
    · refine .selected result (.advance .s5WaitForDeviceSelection .s5WaitForConnectionRequest
        (by decide) rfl phase rfl) ?_ rfl (by simp [Effect.Quiet])
      rw [phase]; rfl
  · exact move_openRemote cfg c _ _ _ _ rfl rfl rfl (.inr ⟨.inl ‹_›,result,rfl⟩)
  · exact move_openRemote cfg c _ _ _ _ rfl rfl rfl (.inr ⟨.inr ‹_›,result,rfl⟩)
  · exact .stay rfl rfl rfl (by simp [Effect.Quiet]) (by simp)

theorem quiet_killWhenWritten (pendingWrites : Bool) : (killWhenWritten pendingWrites).Quiet := by
  cases pendingWrites <;> trivial

/-- Closing, from a phase that comes before the closed phase of its protocol. -/
theorem Move.close {c c' : ClientConnection} {e : ConnEvent} {out : List Effect} (p q : Phase)
    (connectionId : c'.connectionId = c.connectionId)
    (relaySide : c'.relaySideConnectionId = c.relaySideConnectionId)
    (later : p.value ≤ q.value) (source : c.phase = p) (target : c'.phase = q)
    (stage : q.stage = .closed) (silent : ∀ x ∈ out, x.Quiet) : Move c e c' out :=
  .quiet (.advance p q later connectionId source target) relaySide (.inr (target ▸ stage)) silent
    (by simp [target,stage])

theorem move_relayState (cfg : Config) (c : ClientConnection) (n : PR.ConnectionStateNotify)
    (pendingWrites : Bool) :
    Move c (.relayState n pendingWrites)
      (onRelaySideConnectionStateChange cfg c n pendingWrites).conn
      (onRelaySideConnectionStateChange cfg c n pendingWrites).effects := by
  have failed (other : n.newState ≠ stateEstablished) :
      Move c (.relayState n pendingWrites) c [.runtimeAssertFailed] := by
    refine .stay rfl rfl rfl (by simp [Effect.Quiet]) ?_
    intro _ n' pending same
    cases same
    exact other
  unfold onRelaySideConnectionStateChange
  split
  · rename_i phase
    split
    · refine .established n pendingWrites (.advance _ .s5ConnectionReady (by decide) rfl phase rfl)
        ?_ rfl ‹_› rfl (by simp [Effect.Quiet])
      rw [phase]; rfl
    · exact failed ‹_›
  · rename_i phase
    split
    · exact .close _ .s5WaitForConnectionClosed rfl rfl (by decide) phase rfl rfl
        (by simp [quiet_killWhenWritten])
    · exact .stay rfl rfl rfl (by simp) (by simp [phase,Phase.stage])
  · rename_i phase
    split
    · refine .established n pendingWrites (.advance _ .httpRawReady (by decide) rfl phase rfl)
        ?_ rfl ‹_› rfl (by simp [Effect.Quiet])
      rw [phase]; rfl
    · exact failed ‹_›
  · rename_i phase
    split
    · dsimp only
      let ready : ClientConnection := { c with
        readingSuspended := false
        relaySideConnectionId := n.relaySideConnectionId
        phase := .httpNormalReady }
      obtain ⟨connectionId,kept,relaySide,pushes⟩ :=
        uploadData_spec cfg ready ready.http.rebuiltHttpHeader
      refine .established n pendingWrites 
        (.advance _ .httpNormalReady (by decide) connectionId phase kept) ?_ ?_ ‹_› relaySide pushes
      · rw [phase]; rfl
      · exact (congrArg Phase.stage kept).trans rfl
    · exact failed ‹_›
  · rename_i raw normal s5 _
    refine .stay rfl rfl rfl (by simp) ?_
    intro opening
    cases phase : c.phase <;> simp_all [Phase.stage]

theorem move_relayDestroy (cfg : Config) (c : ClientConnection) (pendingWrites : Bool) :
    Move c (.relayDestroy pendingWrites) (onDestroyConnection cfg c pendingWrites).conn
      (onDestroyConnection cfg c pendingWrites).effects := by
  have quiet := quiet_killWhenWritten pendingWrites
  unfold onDestroyConnection
  split
  · exact .close .s5WaitForConnectionEstablish .s5WaitForConnectionClosed rfl rfl (by decide) ‹_› rfl
      rfl (by simp [Effect.Quiet])
  · exact .close .s5ConnectionReady .s5WaitForConnectionClosed rfl rfl (by decide) ‹_› rfl rfl
      (by simp [quiet])
  · exact .close .httpRawWaitForConnectionEstablish .httpRawClosed rfl rfl (by decide) ‹_› rfl rfl
      (by simp [Effect.Quiet])
  · exact .close .httpRawReady .httpRawClosed rfl rfl (by decide) ‹_› rfl rfl (by simp [quiet])
  · exact .close .httpNormalReady .httpNormalClosed rfl rfl (by decide) ‹_› rfl rfl (by simp [quiet])
  · exact .close .httpNormalWaitForConnectionEstablish .httpNormalClosed rfl rfl (by decide) ‹_› rfl
      rfl (by simp [Effect.Quiet])
  · exact .stay rfl rfl rfl (by simp [Effect.Quiet]) (by simp)

theorem move_relayPush (cfg : Config) (c : ClientConnection) (payload : Bytes) (size : Nat) :
    Move c (.relayPush payload size) (onRelaySidePushData cfg c payload size).conn
      (onRelaySidePushData cfg c payload size).effects := by
  obtain ⟨connectionId,phase,relaySide,silent⟩ := tryUpdate_spec cfg c 0 size
  refine .stay connectionId phase relaySide ?_ (by simp)
  intro x member
  rcases List.mem_append.mp member with first | later
  · rcases (by simpa using first : x = .keepAlive ∨ x = .postData payload) with rfl | rfl <;> trivial
  · exact silent x later

theorem move_peerClose (c : ClientConnection) :
    Move c .peerClose (onPeerClose c).conn (onPeerClose c).effects := by
  unfold onPeerClose
  split
  · rename_i phase
    exact .close _ .s5WaitForConnectionClosed rfl rfl (by decide) phase rfl rfl (by simp [Effect.Quiet])
  · exact .stay rfl rfl rfl (by simp [Effect.Quiet]) (by simp)

/-- Whatever reaches a connection, in whatever phase, its callback makes one move. -/
theorem handle_move (cfg : Config) (c : ClientConnection) (e : ConnEvent) :
    Move c e (handle cfg c e).conn (handle cfg c e).effects := by
  cases e with
  | data data => exact move_data cfg c data
  | peerClose => exact move_peerClose c
  | authResult result => exact move_authResult c result
  | deviceSelected result => exact move_deviceSelected cfg c result
  | relayState n pendingWrites => exact move_relayState cfg c n pendingWrites
  | relayDestroy pendingWrites => exact move_relayDestroy cfg c pendingWrites
  | relayPush payload size => exact move_relayPush cfg c payload size

end MiniPP.Proxy
