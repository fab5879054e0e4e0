import MiniPP.Proxy.Closing

/-! What becomes of a client that waits for a device. Its authentication took it off the only
list that times out, so a device request that ends without a connection being opened has to
kill it. -/
namespace MiniPP.Proxy

variable {keys : KeySource} {cfg : Config}

/-- What `OnS5ConnectionRequest` makes of the bytes it is given: it waits for more, kills the
client, or tries to open the connection. -/
inductive RequestVerdict where
  | waits
  | refuses
  | opens (address : NetAddress) (domain : Bytes)
  deriving DecidableEq, Repr

def requestVerdict (data : Bytes) : RequestVerdict :=
  if data.length < 10 then .waits
  else if data.length ≥ 6 + 256 then .refuses
  else if data.getD 0 0 ≠ 0x05 ∨ data.getD 2 0 ≠ 0x00 then .refuses
  else
    match s5Target data with
    | .incomplete => .waits
    | .invalid => .refuses
    | .target address domain _ =>
      if data.getD 1 0 ≠ 0x01 ∧ data.getD 3 0 ≠ 0x03 ∧ data.getD 3 0 ≠ 0x04 then .refuses
      else .opens address domain

theorem connectionRequest_verdict (cfg : Config) (c : ClientConnection) (data : Bytes) :
    let reading := onS5ConnectionRequest cfg c data
    match requestVerdict data with
    | .waits => reading.effects = []
    | .refuses => .kill ∈ reading.effects ∨ .lingerKill ∈ reading.effects
    | .opens address domain => reading.effects = (onOpenRemoteConnection cfg c address domain).effects := by
  unfold onS5ConnectionRequest requestVerdict
  by_cases short : data.length < 10
  · simp only [if_pos short]
  · by_cases long : data.length ≥ 6 + 256
    · simp only [if_neg short,if_pos long,List.mem_singleton,true_or]
    · by_cases version : data.getD 0 0 ≠ 0x05 ∨ data.getD 2 0 ≠ 0x00
      · simp only [if_neg short,if_neg long,if_pos version,List.mem_singleton,true_or]
      · simp only [if_neg short,if_neg long,if_neg version]
        cases s5Target data with
        | incomplete => rfl
        | invalid => simp
        | target address domain offset =>
          dsimp only
          by_cases operation : data.getD 1 0 ≠ 0x01 ∧ data.getD 3 0 ≠ 0x03 ∧ data.getD 3 0 ≠ 0x04
          · simp only [if_pos operation,List.mem_cons,true_or,or_true]
          · simp only [if_neg operation]

/-- The effects of opening a connection: a relay server that is not known is no reason to
do anything. -/
theorem openRemote_effects (cfg : Config) (c : ClientConnection) (address : NetAddress) (hostname : Bytes) :
    (c.relayConnectionId ∈ cfg.relayServers ∧ ∃ m : PR.CreateConnection,
      (onOpenRemoteConnection cfg c address hostname).effects =
        [.postMessage c.relayConnectionId (.createConnection m)]) ∨
    (c.relayConnectionId ∉ cfg.relayServers ∧
      (onOpenRemoteConnection cfg c address hostname).effects = []) := by
  have branch := open_branch cfg c address hostname
  generalize onOpenRemoteConnection cfg c address hostname = act at branch ⊢
  cases branch with
  | opened phase m known => exact .inl ⟨known,m,rfl⟩
  | gone unknown => exact .inr ⟨unknown,rfl⟩

/-- A relay that is connected is asked for the connection, or the client is about to be ended. -/
def Decided (cfg : Config) (out : Server keys × List ServerAction) (c : Nat) : Prop :=
  (∃ server m, .client c (.postMessage server (.createConnection m)) ∈ out.2 ∧
    server ∈ cfg.relayServers) ∨ out.1.Doomed c

theorem decided_deliver {s : Server keys} {c : Nat} {conn : ClientConnection}
    (found : s.connectionPool.find? c = some conn) (e : ConnEvent) :
    Decided cfg (s.deliver cfg c e) c ↔ s.Doomed c ∨
      (∃ server m, .postMessage server (.createConnection m) ∈ (handle cfg conn e).effects ∧
        server ∈ cfg.relayServers) ∨
      .kill ∈ (handle cfg conn e).effects ∨ .lingerKill ∈ (handle cfg conn e).effects := by
  have did (x : Effect) : .client c x ∈ (s.deliver cfg c e).2 ↔ x ∈ (handle cfg conn e).effects := by
    rw [← mem_history,history_deliver_own found e]
    simp
  simp only [Decided,did,Server.deliver_doomed cfg found,true_and]
  exact or_left_comm

/-- The client has got the answer to its device request, or to its request for a connection,
without which no connection is opened for it: HTTP opens one with the device, SOCKS5 when
the client asks for it. -/
def Settles (cfg : Config) (s : Server keys) (_ : List ServerAction) (e : ServerEvent) : Prop :=
  ∀ c conn, s.aborted = false → s.connectionPool.find? c = some conn →
    (∀ result, e = .devicePacket c result → conn.phase.stage = .selecting →
      Decided cfg (s.step cfg e) c ∨ ∃ conn', (s.step cfg e).1.connectionPool.find? c = some conn' ∧
        conn'.phase = .s5WaitForConnectionRequest) ∧
    (∀ data, e = .data c data → conn.phase = .s5WaitForConnectionRequest →
      conn.readingSuspended = false → Decided cfg (s.step cfg e) c)

/-- The relay server is known that an HTTP client is given; the request of a SOCKS5 client is
complete, and refused or for a relay server that is known; or the client is to end anyway. -/
def Selectable (cfg : Config) (s : Server keys) (_ : List ServerAction) (e : ServerEvent) : Prop :=
  ∀ c conn, s.aborted = false → s.connectionPool.find? c = some conn → s.Doomed c ∨
    (∀ result, e = .devicePacket c result →
      conn.phase = .httpRawWaitForDeviceSelection ∨ conn.phase = .httpNormalWaitForDeviceSelection →
      result.deviceRelayServerRuntimeId ∈ cfg.relayServers) ∧
    (∀ data, e = .data c data → conn.phase = .s5WaitForConnectionRequest →
      conn.readingSuspended = false → requestVerdict data ≠ .waits ∧
        (requestVerdict data = .refuses ∨ conn.relayConnectionId ∈ cfg.relayServers))

theorem decided_deviceSelected {s : Server keys} {c : Nat} {conn : ClientConnection}
    (found : s.connectionPool.find? c = some conn) (result : AcquireDeviceResp)
    (waiting : conn.phase.stage = .selecting) :
    (Decided cfg (s.deliver cfg c (.deviceSelected result)) c ∨
      ∃ conn', (s.deliver cfg c (.deviceSelected result)).1.connectionPool.find? c = some conn' ∧
        conn'.phase = .s5WaitForConnectionRequest) ↔
    s.Doomed c ∨ (conn.phase = .httpRawWaitForDeviceSelection ∨
      conn.phase = .httpNormalWaitForDeviceSelection →
        result.deviceRelayServerRuntimeId ∈ cfg.relayServers) := by
  rw [decided_deliver found,deliver_found cfg found]
  -- The two HTTP phases open the connection at once.
  have opening (http : conn.phase = .httpRawWaitForDeviceSelection ∨
      conn.phase = .httpNormalWaitForDeviceSelection) :
      handle cfg conn (.deviceSelected result) = onOpenRemoteConnection cfg (useDevice conn result)
        (targetAddress cfg conn.http) conn.http.targetHost := by
    rcases http with phase | phase <;> simp [handle,onDeviceSelected,phase]
  by_cases http : conn.phase = .httpRawWaitForDeviceSelection ∨
    conn.phase = .httpNormalWaitForDeviceSelection
  · have elsewhere : ¬ ∃ conn', some (handle cfg conn (.deviceSelected result)).conn = some conn' ∧
        conn'.phase = .s5WaitForConnectionRequest := by
      rintro ⟨_,same,phase⟩
      obtain rfl := Option.some.inj same
      have later := (handle_move cfg conn (.deviceSelected result)).frame.phase
      rw [phase] at later
      rcases http with before | before <;> exact absurd (before ▸ later) (by decide)
    rw [or_iff_left elsewhere,opening http]
    rcases openRemote_effects cfg (useDevice conn result) (targetAddress cfg conn.http)
      conn.http.targetHost with ⟨known,m,effects⟩ | ⟨unknown,effects⟩
    · have known : result.deviceRelayServerRuntimeId ∈ cfg.relayServers := known
      refine iff_of_true (.inr (.inl ⟨_,m,?_,known⟩)) (.inr fun _ => known)
      rw [effects]
      exact List.mem_singleton_self _
    · have unknown : result.deviceRelayServerRuntimeId ∉ cfg.relayServers := unknown
      simp [effects,unknown,http]
  · have phase : conn.phase = .s5WaitForDeviceSelection := by
      cases phase : conn.phase <;> simp_all [Phase.stage]
    refine iff_of_true ?_ (.inr (fun is => absurd is http))
    by_cases none : result.deviceRelaySideId = 0
    · exact .inl (.inr (.inr (.inl (by simp [handle,onDeviceSelected,phase,none]))))
    · exact .inr ⟨_,rfl,by simp [handle,onDeviceSelected,phase,none]⟩

theorem decided_connectionRequest {s : Server keys} {c : Nat} {conn : ClientConnection}
    (found : s.connectionPool.find? c = some conn) (data : Bytes)
    (phase : conn.phase = .s5WaitForConnectionRequest) :
    Decided cfg (s.deliver cfg c (.data data)) c ↔ s.Doomed c ∨ (requestVerdict data ≠ .waits ∧
      (requestVerdict data = .refuses ∨ conn.relayConnectionId ∈ cfg.relayServers)) := by
  have handled : (handle cfg conn (.data data)).effects = (onS5ConnectionRequest cfg conn data).effects := by
    simp [handle,onData,phase]
  rw [decided_deliver found,handled]
  have verdict := connectionRequest_verdict cfg conn data
  dsimp only at verdict
  cases request : requestVerdict data with
  | waits =>
    simp only [request] at verdict
    simp [verdict]
  | refuses =>
    simp only [request] at verdict
    simp [verdict]
  | opens address domain =>
    simp only [request] at verdict
    rw [verdict]
    rcases openRemote_effects cfg conn address domain with ⟨known,m,effects⟩ | ⟨unknown,effects⟩
    · simp [effects,known]
    · simp [effects,unknown]

/-- In a run every answer leaves its client with a request to a relay, or on a kill list, just
when the relay servers it names are known and no SOCKS5 request comes in pieces. -/
theorem selection_settles {s : Server keys} (start : (serverMachine cfg keys).start s)
    (es : List ServerEvent) :
    (serverMachine cfg keys).Allowed (Settles cfg) s [] es ↔
      (serverMachine cfg keys).Allowed (Selectable cfg) s [] es := by
  refine Machine.allowed_iff (fun s _ e _ => ?_) (.start start) es
  refine forall_congr' fun c => forall_congr' fun conn => forall_congr' fun running =>
    forall_congr' fun found => ?_
  have selected (result : AcquireDeviceResp) : s.step cfg (.devicePacket c result) =
      s.deliver cfg c (.deviceSelected result) := by simp [Server.step,running]
  have requested (data : Bytes) (reading : conn.readingSuspended = false) :
      s.step cfg (.data c data) = s.deliver cfg c (.data data) := by
    simp [Server.step,running,found,reading]
  constructor
  · rintro ⟨device,request⟩
    by_cases doomed : s.Doomed c
    · exact .inl doomed
    · refine .inr ⟨?_,?_⟩
      · rintro result rfl http
        have waiting : conn.phase.stage = .selecting := by rcases http with phase | phase <;> rw [phase] <;> rfl
        have decided := device result rfl waiting
        rw [selected] at decided
        exact ((decided_deviceSelected found result waiting).mp decided).resolve_left doomed http
      · rintro data rfl phase reading
        have decided := request data rfl phase reading
        rw [requested data reading] at decided
        exact ((decided_connectionRequest found data phase).mp decided).resolve_left doomed
  · intro condition
    constructor
    · rintro result rfl waiting
      rw [selected,decided_deviceSelected found result waiting]
      exact condition.imp_right (fun selectable => selectable.1 result rfl)
    · rintro data rfl phase reading
      rw [requested data reading,decided_connectionRequest found data phase]
      exact condition.imp_right (fun selectable => selectable.2 data rfl phase reading)

/-- The state after the first events of a client that opens a tunnel. -/
def connecting (count : Nat) : Server .sequential :=
  ((serverMachine referenceConfig .sequential).run (.init .sequential 1000000 8 8)
    (connectSession.take count)).1

/-- The tunnel is opened over a relay that is known. -/
theorem selection_settles_connect : (serverMachine referenceConfig .sequential).Allowed
    (Settles referenceConfig) (.init .sequential 1000000 8 8) [] connectSession := by
  refine (selection_settles ⟨_,_,_,rfl⟩ _).mpr ⟨?_,?_,?_,?_,?_,?_,?_,trivial⟩
  all_goals
    intro c conn running found
    refine .inr ⟨?_,?_⟩
  all_goals
    rintro _ is
    cases is
  · have phase : ((connecting 1).connectionPool.find? 1).map (·.phase) = some .unknown := by decide
    have here : (connecting 1).connectionPool.find? 1 = some conn := found
    rw [here] at phase
    simp [Option.some.inj phase]
  · have phase : ((connecting 2).connectionPool.find? 1).map (·.phase) = some .httpRawChallenge := by decide
    have here : (connecting 2).connectionPool.find? 1 = some conn := found
    rw [here] at phase
    simp [Option.some.inj phase]
  · exact fun _ => by decide

/-- There is no device for the client, and it waits for ever. -/
theorem selection_strands_client :
    ¬ ∀ s es, (serverMachine referenceConfig .sequential).start s →
      (serverMachine referenceConfig .sequential).Allowed (Settles referenceConfig) s [] es := by
  intro always
  let reply : AcquireDeviceResp := { deviceRelayServerRuntimeId := 0, deviceRelaySideId := 0 }
  have settles := always (.init .sequential 1000000 8 8)
    (connectSession.take 5 ++ [.devicePacket 1 reply]) ⟨_,_,_,rfl⟩
  obtain ⟨last,-⟩ := ((Machine.allowed_append _ _).mp settles).2
  have phase : ((connecting 5).connectionPool.find? 1).map (·.phase) =
      some .httpRawWaitForDeviceSelection := by decide
  obtain ⟨conn,found,waiting⟩ := Option.map_eq_some_iff.mp phase
  have out : ((connecting 5).step referenceConfig (.devicePacket 1 reply)).2 =
      [.deliver 1 (.deviceSelected reply)] := by decide
  rcases (last 1 conn (by decide) found).1 reply rfl (by rw [waiting]; rfl) with
    (⟨server,m,asked,-⟩ | killed | lingering) | ⟨conn',found',phase'⟩
  · have asked : .client 1 (.postMessage server (.createConnection m)) ∈
        ((connecting 5).step referenceConfig (.devicePacket 1 reply)).2 := asked
    rw [out] at asked
    simp at asked
  · exact absurd killed (by decide)
  · exact absurd lingering (by decide)
  · have stays : (((connecting 5).step referenceConfig (.devicePacket 1 reply)).1.connectionPool.find? 1).map
        (·.phase) = some .httpRawWaitForDeviceSelection := by decide
    have here : ((connecting 5).step referenceConfig (.devicePacket 1 reply)).1.connectionPool.find? 1 =
        some conn' := found'
    rw [here] at stays
    simp [phase'] at stays

end MiniPP.Proxy
