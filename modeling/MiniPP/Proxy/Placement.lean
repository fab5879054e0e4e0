import MiniPP.Proxy.Guarantees

/-! Where the connection of a client is opened. The region that its account is given is what the
server asks a device for, and a relay is asked for a connection on the device that came in answer. -/
namespace MiniPP.Proxy

variable {cfg : Config}

/-- The device of a connection, as it was selected. -/
def ClientConnection.device (c : ClientConnection) : AcquireDeviceResp :=
  ⟨c.relayConnectionId,c.relaySideDeviceId⟩

/-- The device that a relay server is asked for. -/
def asksFor (server : Nat) (m : PR.CreateConnection) : AcquireDeviceResp := ⟨server,m.relaySideDeviceId⟩

@[simp] theorem device_useDevice (c : ClientConnection) (result : AcquireDeviceResp) :
    (useDevice c result).device = result := rfl

/-! ## One callback -/

theorem openRemote_device (cfg : Config) (c : ClientConnection) (address : NetAddress) (hostname : Bytes) :
    (onOpenRemoteConnection cfg c address hostname).conn.device = c.device ∧
      ∀ server m, .postMessage server (.createConnection m) ∈
        (onOpenRemoteConnection cfg c address hostname).effects → asksFor server m = c.device := by
  unfold onOpenRemoteConnection
  split
  · refine ⟨rfl,?_⟩
    intro server m member
    obtain ⟨rfl,rfl⟩ : server = c.relayConnectionId ∧ m = _ := by simpa using member
    rfl
  · exact ⟨rfl,by simp⟩

theorem update_device (cfg : Config) (c : ClientConnection) (up down : Nat) :
    (tryUpdateDataTransferSize cfg c up down).conn.device = c.device := by
  have branch := update_branch cfg c up down
  generalize tryUpdateDataTransferSize cfg c up down = act at branch ⊢
  cases branch <;> rfl

theorem uploadData_device (cfg : Config) (c : ClientConnection) (data : Bytes) :
    (onUploadData cfg c data).conn.device = c.device := by
  rcases uploadData_conn cfg c data with conn | conn
  · rw [conn]
  · rw [conn]
    exact update_device cfg c data.length 0

theorem data_device (cfg : Config) (c : ClientConnection) (data : Bytes) :
    (onData cfg c data).conn.device = c.device := by
  unfold onData
  split
  · have branch := challenge_branch c data
    generalize onChallenge c data = reading at branch ⊢
    cases branch <;> rfl
  · have branch := clientAuth_branch c data
    generalize onS5ClientAuth c data = reading at branch ⊢
    cases branch <;> rfl
  · have branch := connectionRequest_branch cfg c data
    generalize onS5ConnectionRequest cfg c data = reading at branch ⊢
    cases branch with
    | opens address domain => exact (openRemote_device cfg c address domain).1
    | _ => rfl
  · exact uploadData_device cfg c data
  · have branch := rawChallenge_branch cfg c data
    generalize onHttpRawChallenge cfg c data = reading at branch ⊢
    cases branch <;> rfl
  · exact uploadData_device cfg c data
  · have branch := normalChallenge_branch cfg c data
    generalize onHttpNormalChallenge cfg c data = reading at branch ⊢
    cases branch <;> rfl
  · exact uploadData_device cfg c data
  · rfl

/-- The device changes only when one is selected. -/
theorem device_kept (cfg : Config) (c : ClientConnection) {e : ConnEvent}
    (other : ∀ result, e ≠ .deviceSelected result) : (handle cfg c e).conn.device = c.device := by
  cases e with
  | data bytes => exact data_device cfg c bytes
  | peerClose =>
    simp only [handle,onPeerClose]
    split <;> rfl
  | authResult result =>
    simp only [handle,onAuthResult]
    split
    all_goals cases result <;> rfl
  | deviceSelected result => exact absurd rfl (other result)
  | relayState n pendingWrites =>
    simp only [handle,onRelaySideConnectionStateChange]
    repeat' split
    all_goals first | rfl | exact uploadData_device cfg _ _
  | relayDestroy pendingWrites =>
    simp only [handle,onDestroyConnection]
    split <;> rfl
  | relayPush payload size => exact update_device cfg c 0 size

/-- A device that is selected is taken, or changes nothing. -/
theorem device_selected (cfg : Config) (c : ClientConnection) (result : AcquireDeviceResp) :
    (handle cfg c (.deviceSelected result)).conn.device = result ∨
      (handle cfg c (.deviceSelected result)).conn = c := by
  simp only [handle,onDeviceSelected]
  split
  · split
    · exact .inr rfl
    · exact .inl rfl
  · exact .inl (openRemote_device cfg (useDevice c result) _ _).1
  · exact .inl (openRemote_device cfg (useDevice c result) _ _).1
  · exact .inr rfl

/-- A connection is opened on the device of the client. -/
theorem create_device {c : ClientConnection} {e : ConnEvent} {server : Nat} {m : PR.CreateConnection}
    (posted : .postMessage server (.createConnection m) ∈ (handle cfg c e).effects) :
    asksFor server m = (handle cfg c e).conn.device := by
  have opens {d : ClientConnection} {address : NetAddress} {hostname : Bytes}
      (inside : .postMessage server (.createConnection m) ∈
        (onOpenRemoteConnection cfg d address hostname).effects) :
      asksFor server m = (onOpenRemoteConnection cfg d address hostname).conn.device := by
    obtain ⟨kept,opened⟩ := openRemote_device cfg d address hostname
    exact (opened server m inside).trans kept.symm
  obtain ⟨-,-,-,⟨stage,data,rfl⟩ | ⟨stage,result,rfl⟩⟩ := (handle_move cfg c e).create posted
  · have phase : c.phase = .s5WaitForConnectionRequest := by
      cases phase : c.phase <;> rw [phase] at stage <;> first | rfl | cases stage
    have branch := connectionRequest_branch cfg c data
    simp only [handle,onData,phase] at posted ⊢
    generalize onS5ConnectionRequest cfg c data = reading at branch posted ⊢
    cases branch with
    | opens address domain => exact opens posted
    | _ => simp at posted
  · have phase : c.phase = .s5WaitForDeviceSelection ∨ c.phase = .httpRawWaitForDeviceSelection ∨
        c.phase = .httpNormalWaitForDeviceSelection := by
      cases phase : c.phase <;> simp [phase,Phase.stage] at stage ⊢
    rcases phase with phase | phase | phase
    · simp only [handle,onDeviceSelected,phase] at posted
      split at posted <;> simp at posted
    · simp only [handle,onDeviceSelected,phase] at posted ⊢
      exact opens posted
    · simp only [handle,onDeviceSelected,phase] at posted ⊢
      exact opens posted

/-- A device is requested in the region of the verdict. -/
theorem request_region {c : ClientConnection} {e : ConnEvent} {r : DeviceRequest}
    (posted : .postDeviceRequest r ∈ (handle cfg c e).effects) :
    ∃ v, e = .authResult (some v) ∧ r.countryId = v.countryId ∧ r.stateId = v.stateId ∧
      r.cityId = v.cityId := by
  have verdict : ∃ v, e = .authResult (some v) := by
    have move := handle_move cfg c e
    have loud {c' : ClientConnection} (pushes : ∀ x ∈ (handle cfg c e).effects, x.Quiet ∨ x.PushFor c') :
        False := by
      rcases pushes _ posted with quiet | ⟨_,_,same⟩
      · exact quiet
      · cases same
    generalize (handle cfg c e).effects = out at move posted loud
    cases move with
    | quiet frame relaySide stage silent waiting => exact (silent _ posted).elim
    | requested => simp at posted
    | verified v request => exact ⟨v,rfl⟩
    | selected result frame source target silent => exact (silent _ posted).elim
    | opened => simp at posted
    | established n pending frame source target state relaySide pushes => exact (loud pushes).elim
    | uploaded frame source target relaySide pushes => exact (loud pushes).elim
  obtain ⟨v,rfl⟩ := verdict
  refine ⟨v,rfl,?_⟩
  simp only [handle,onAuthResult] at posted
  split at posted
  · obtain rfl : r = _ := by simpa [onS5ClientAuthFinished,onAuthFinished] using posted
    exact ⟨rfl,rfl,rfl⟩
  · obtain rfl : r = _ := by simpa [onHttpRawAuthFinished,onAuthFinished] using posted
    exact ⟨rfl,rfl,rfl⟩
  · obtain rfl : r = _ := by simpa [onHttpNormalAuthFinished,onAuthFinished] using posted
    exact ⟨rfl,rfl,rfl⟩
  · simp at posted

/-! ## Histories -/

/-- The client that may ask for its connection has the device that it was given. -/
def Given (c : ClientConnection) (h : List Entry) : Prop :=
  c.phase.stage = .requesting → .received (.deviceSelected c.device) ∈ h

/-- What a request was made of came before it. -/
def Supplied (before : List Entry) : Entry → Prop
  | .did (.postMessage server (.createConnection m)) =>
    .received (.deviceSelected (asksFor server m)) ∈ before
  | .did (.postDeviceRequest r) => ∃ v, .received (.authResult (some v)) ∈ before ∧
    r.countryId = v.countryId ∧ r.stateId = v.stateId ∧ r.cityId = v.cityId
  | _ => True

theorem given_step {c : ClientConnection} {h : List Entry} (given : Given c h) (e : ConnEvent) :
    Given (handle cfg c e).conn (h ++ entries e (handle cfg c e).effects) := by
  intro requesting
  by_cases selects : ∃ result, e = .deviceSelected result
  · obtain ⟨result,rfl⟩ := selects
    rcases device_selected cfg c result with taken | same
    · rw [taken]
      simp
    · rw [same] at requesting ⊢
      exact List.mem_append_left _ (given requesting)
  · have other : ∀ result, e ≠ .deviceSelected result := fun result same => selects ⟨result,same⟩
    have before : c.phase.stage = .requesting := by
      have move := handle_move cfg c e
      generalize (handle cfg c e).conn = c' at move requesting
      generalize (handle cfg c e).effects = out at move
      cases move with
      | quiet frame relaySide stage silent waiting =>
        rcases stage with same | closed
        · exact same.symm.trans requesting
        · rw [closed] at requesting
          cases requesting
      | selected result => exact absurd rfl (other result)
      | requested key frame source target | verified verdict request frame source target own
      | opened server m frame own source target
      | established n pending frame source target state relaySide pushes
      | uploaded frame source target relaySide pushes =>
        rw [target] at requesting
        cases requesting
    rw [device_kept cfg c other]
    exact List.mem_append_left _ (given before)

theorem supplied_step {c : ClientConnection} {h : List Entry} (given : Given c h) (e : ConnEvent) :
    Log.Always (fun before => Supplied (h ++ before)) (entries e (handle cfg c e).effects) := by
  intro before x after split
  have member : x ∈ entries e (handle cfg c e).effects := by simp [split]
  -- An effect comes after the event that it answers.
  have answered (did : ∃ effect, x = .did effect) : .received e ∈ before := by
    cases before with
    | nil =>
      obtain ⟨effect,rfl⟩ := did
      cases split
    | cons first rest =>
      obtain ⟨rfl,-⟩ := List.cons.inj split
      exact List.mem_cons_self
  cases x with
  | received e' => trivial
  | did effect =>
    have did : effect ∈ (handle cfg c e).effects := by simpa using member
    cases effect with
    | postMessage server m =>
      cases m with
      | createConnection m =>
        simp only [Supplied]
        rw [create_device did]
        obtain ⟨-,-,opening,⟨stage,data,rfl⟩ | ⟨stage,result,rfl⟩⟩ := (handle_move cfg c e).create did
        · rw [device_kept cfg c (by simp)]
          exact List.mem_append_left _ (given stage)
        · rcases device_selected cfg c result with taken | same
          · rw [taken]
            exact List.mem_append_right _ (answered ⟨_,rfl⟩)
          · rw [same,stage] at opening
            cases opening
      | _ => trivial
    | postDeviceRequest r =>
      obtain ⟨v,rfl,region⟩ := request_region did
      exact ⟨v,List.mem_append_right _ (answered ⟨_,rfl⟩),region⟩
    | _ => trivial

theorem supplied_reach {c : ClientConnection} {h : List Entry}
    (reach : (connectionMachine cfg).Reach Machine.anything c h) : Log.Always Supplied h := by
  have kept : Given c h ∧ Log.Always Supplied h := by
    refine reach.invariant (I := fun c h => Given c h ∧ Log.Always Supplied h) ?_ ?_
    · rintro c ⟨id,ip,rfl⟩
      exact ⟨fun requesting => (by cases requesting),Log.always_nil _⟩
    · rintro c h e _ _ ⟨given,always⟩
      exact ⟨given_step given e,Log.always_append.mpr ⟨always,supplied_step given e⟩⟩
  exact kept.2

/-! ## The server -/

variable {keys : KeySource} {s : Server keys} {log : List ServerAction}

theorem mem_history_received {c : Nat} {e : ConnEvent} : .received e ∈ history c log ↔ .deliver c e ∈ log := by
  unfold history
  rw [List.mem_filterMap]
  constructor
  · rintro ⟨a,member,entry⟩
    cases a with
    | deliver c' e' =>
      simp only [ServerAction.entry] at entry
      split at entry
      · rename_i same
        simp only [Option.some.injEq,Entry.received.injEq] at entry
        rw [← same,← entry]
        exact member
      · cases entry
    | client c' x =>
      simp only [ServerAction.entry] at entry
      split at entry <;> simp at entry
    | _ => simp [ServerAction.entry] at entry
  · intro member
    exact ⟨_,member,by simp [ServerAction.entry]⟩

theorem delivered_cause {c c' : Nat} {e e' : ConnEvent} (member : .deliver c e' ∈ (s.deliver cfg c' e).2) :
    c = c' ∧ e' = e := by
  have received := mem_history_received.mpr member
  rcases history_deliver_out cfg s c c' e with none | ⟨rfl,conn,-,out⟩
  · rw [none] at received
    cases received
  · rw [out] at received
    exact ⟨rfl,by simpa using received⟩

theorem deliverResults_delivers {actions : List AuthAction} {c : Nat} {e : ConnEvent}
    (member : .deliver c e ∈ (s.deliverResults cfg actions).2) : ∃ result, e = .authResult result := by
  induction actions generalizing s with
  | nil => cases member
  | cons a rest ih =>
    cases a with
    | result rid source verdict =>
      rcases List.mem_append.mp member with first | later
      · exact ⟨verdict,(delivered_cause first).2⟩
      · exact ih later
    | _ => exact ih member

theorem cleanupAll_delivers {c : Nat} {e : ConnEvent} (s : Server keys) (list : List Nat) :
    .deliver c e ∉ (s.cleanupAll list).2 := by
  induction list generalizing s with
  | nil => exact List.not_mem_nil
  | cons c' rest ih => simpa [Server.cleanupAll] using ih (s.cleanupConnection c')

/-- A connection is told of its device when the selector's packet comes. -/
theorem selected_cause {e : ServerEvent} {c : Nat} {resp : AcquireDeviceResp}
    (member : .deliver c (.deviceSelected resp) ∈ (s.step cfg e).2) : e = .devicePacket c resp := by
  cases target : e.target with
  | some pair =>
    obtain ⟨c',delivered⟩ := pair
    rcases step_target s target with step | step
    · rw [step] at member
      obtain ⟨rfl,rfl⟩ := delivered_cause member
      cases e <;> simp [ServerEvent.target] at target
      obtain ⟨rfl,rfl⟩ := target
      rfl
    · rw [step] at member
      cases member
  | none =>
    exfalso
    by_cases aborted : s.aborted
    · simp [Server.step,aborted] at member
    · cases e with
      | newConnection remoteIp =>
        simp only [Server.step,aborted,Server.onNewConnection] at member
        cases acquired : s.connectionPool.acquire (fun id => { connectionId := id, remoteIp }) <;>
          simp [acquired] at member
      | authPacket node resp => simp [Server.step,aborted] at member
      | authTick nowMS =>
        simp only [Server.step,aborted,Server.authTick] at member
        rcases List.mem_append.mp member with cache | delivered
        · simp at cache
        · obtain ⟨result,same⟩ := deliverResults_delivers delivered
          cases same
      | clientTick nowMS =>
        simp only [Server.step,aborted,Server.onTick] at member
        rcases List.mem_append.mp member with member | member
        · rcases List.mem_append.mp member with member | member
          all_goals exact absurd member (cleanupAll_delivers _ _)
        · exact absurd member (cleanupAll_delivers _ _)
      | _ => simp [ServerEvent.target] at target

theorem request_own {c : Nat} {r : DeviceRequest} (valid : ServerInvariant cfg s log)
    (posted : .client c (.postDeviceRequest r) ∈ log) : r.clientConnectionId = c := by
  obtain ⟨conn,reach,own⟩ := valid.past c
  have mine := (history_invariant reach).own _ (mem_history.mpr posted)
  exact Eq.trans mine own

/-- A relay is asked for a connection on the device that the client was told of. -/
theorem create_supplied {before after : List ServerAction} {c server : Nat} {m : PR.CreateConnection}
    (valid : ServerInvariant cfg s log)
    (split : log = before ++ .client c (.postMessage server (.createConnection m)) :: after) :
    .deliver c (.deviceSelected (asksFor server m)) ∈ before := by
  obtain ⟨conn,reach,-⟩ := valid.past c
  have position : history c log =
      history c before ++ .did (.postMessage server (.createConnection m)) :: history c after := by simp [split]
  exact mem_history_received.mp (supplied_reach reach _ _ _ position)

/-- A device is requested in the region of a verdict that was given to the client. -/
theorem request_supplied {before after : List ServerAction} {c : Nat} {r : DeviceRequest}
    (valid : ServerInvariant cfg s log)
    (split : log = before ++ .client c (.postDeviceRequest r) :: after) :
    ∃ v, .deliver c (.authResult (some v)) ∈ before ∧ r.countryId = v.countryId ∧ r.stateId = v.stateId ∧
      r.cityId = v.cityId := by
  obtain ⟨conn,reach,-⟩ := valid.past c
  have position : history c log = history c before ++ .did (.postDeviceRequest r) :: history c after := by
    simp [split]
  obtain ⟨v,received,region⟩ := supplied_reach reach _ _ _ position
  exact ⟨v,mem_history_received.mp received,region⟩

end MiniPP.Proxy
