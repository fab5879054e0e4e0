import MiniPP.Proxy.Guarantees
import MiniPP.Proxy.Lists

/-! The end of a client's connection as its relay reports it: a destruction puts the client
on a kill list whatever it is doing, a closed state only in SOCKS5. -/
namespace MiniPP.Proxy

variable {keys : KeySource} {cfg : Config}

theorem killWhenWritten_kills (pendingWrites : Bool) (effects : List Effect) :
    .kill ∈ killWhenWritten pendingWrites :: effects ∨
      .lingerKill ∈ killWhenWritten pendingWrites :: effects := by
  cases pendingWrites <;> simp [killWhenWritten]

/-- `OnDestroyConnection` ends the connection in every phase. -/
theorem destroy_dooms {s : Server keys} (running : s.aborted = false) (m : PR.DestroyConnection)
    (pendingWrites : Bool) (live : s.connectionPool.find? m.proxySideConnectionId ≠ none) :
    (s.step cfg (.relayDestroy m pendingWrites)).1.Doomed m.proxySideConnectionId := by
  obtain ⟨conn,found⟩ := Option.ne_none_iff_exists'.mp live
  have step : s.step cfg (.relayDestroy m pendingWrites) =
      s.deliver cfg m.proxySideConnectionId (.relayDestroy pendingWrites) := by
    simp [Server.step,running]
  rw [step,Server.deliver_doomed cfg found]
  refine .inr ⟨rfl,?_⟩
  simp only [handle,onDestroyConnection]
  split
  case h_1 | h_3 | h_6 => exact .inr (by simp)
  case h_2 | h_4 | h_5 => exact killWhenWritten_kills pendingWrites []
  case h_7 => exact .inl (by simp)

/-- A closed state that the relay sends for an established connection ends it. -/
def Closes (cfg : Config) (s : Server keys) (_ : List ServerAction) (e : ServerEvent) : Prop :=
  ∀ n pendingWrites conn, e = .relayState n pendingWrites → n.newState = stateClosed →
    s.aborted = false → s.connectionPool.find? n.proxySideConnectionId = some conn →
    conn.phase.Ready → (s.step cfg e).1.Doomed n.proxySideConnectionId

/-- The established connection speaks SOCKS5, or is to end anyway. -/
def ClosesAnyway (s : Server keys) (_ : List ServerAction) (e : ServerEvent) : Prop :=
  ∀ n pendingWrites conn, e = .relayState n pendingWrites → n.newState = stateClosed →
    s.aborted = false → s.connectionPool.find? n.proxySideConnectionId = some conn →
    conn.phase.Ready → conn.phase = .s5ConnectionReady ∨ s.Doomed n.proxySideConnectionId

theorem doomed_closed {s : Server keys} (running : s.aborted = false) {n : PR.ConnectionStateNotify}
    (closed : n.newState = stateClosed) (pendingWrites : Bool) {conn : ClientConnection}
    (found : s.connectionPool.find? n.proxySideConnectionId = some conn) (ready : conn.phase.Ready) :
    (s.step cfg (.relayState n pendingWrites)).1.Doomed n.proxySideConnectionId ↔
      conn.phase = .s5ConnectionReady ∨ s.Doomed n.proxySideConnectionId := by
  have step : s.step cfg (.relayState n pendingWrites) =
      s.deliver cfg n.proxySideConnectionId (.relayState n pendingWrites) := by
    simp [Server.step,running]
  rw [step,Server.deliver_doomed cfg found]
  rcases ready with phase | phase | phase
  · refine iff_of_true (.inr ⟨rfl,?_⟩) (.inl phase)
    have act : (handle cfg conn (.relayState n pendingWrites)).effects = [killWhenWritten pendingWrites] := by
      simp [handle,onRelaySideConnectionStateChange,phase,closed]
    rw [act]
    exact killWhenWritten_kills pendingWrites []
  all_goals
    have idle : (handle cfg conn (.relayState n pendingWrites)).effects = [] := by
      simp [handle,onRelaySideConnectionStateChange,phase]
    simp [idle,phase]

/-- The two HTTP protocols have no arm for the state that ends a SOCKS5 connection: in a run
every closed connection is ended just when those that are HTTP were to end anyway. -/
theorem remote_close_ends {s : Server keys} (start : (serverMachine cfg keys).start s)
    (es : List ServerEvent) :
    (serverMachine cfg keys).Allowed (Closes cfg) s [] es ↔
      (serverMachine cfg keys).Allowed ClosesAnyway s [] es := by
  refine Machine.allowed_iff (fun s _ e _ => ?_) (.start start) es
  refine forall_congr' fun n => forall_congr' fun pendingWrites => forall_congr' fun conn => ?_
  constructor
  · rintro closes rfl closed running found ready
    exact (doomed_closed running closed pendingWrites found ready).mp (closes rfl closed running found ready)
  · rintro condition rfl closed running found ready
    exact (doomed_closed running closed pendingWrites found ready).mpr
      (condition rfl closed running found ready)

def closedNotify : PR.ConnectionStateNotify :=
  { proxySideConnectionId := 1, relaySideConnectionId := 4, newState := stateClosed }

/-- The established SOCKS5 client is ended. -/
theorem remote_close_ends_socks :
    (serverMachine referenceConfig .sequential).Allowed (Closes referenceConfig)
      (.init .sequential 1000000 8 8) [] (socksSession false ++ [.relayState closedNotify false]) := by
  refine (remote_close_ends ⟨_,_,_,rfl⟩ _).mpr ⟨?_,?_,?_,?_,?_,?_,?_,?_,?_,?_,trivial⟩
  all_goals
    intro n pendingWrites conn is closed running found ready
    cases is
  · simp [stateClosed] at closed
  · have phase : ((socksRun false).1.connectionPool.find? 1).map (·.phase) = some .s5ConnectionReady := by
      decide
    have here : (socksRun false).1.connectionPool.find? 1 = some conn := found
    rw [here] at phase
    exact .inl (Option.some.inj phase)

/-- A client opens a tunnel with CONNECT. -/
def connectSession : List ServerEvent :=
  [ .newConnection (ascii "1"),
    .data 1 (ascii "CONNECT h:80\r\n"),
    .data 1 (ascii "Proxy-Authorization: Basic dTpw\r\n\r\n"),
    .authPacket 1
      { countryId := 1, stateId := 0, cityId := 0, isBlocked := false, requireIpv6 := false
        requireUdp := false, requireRemoteDns := false, autoChangeIp := false },
    .authTick 1000100,
    .devicePacket 1 { deviceRelayServerRuntimeId := 9, deviceRelaySideId := 3 },
    .relayState { proxySideConnectionId := 1, relaySideConnectionId := 4, newState := 1 } false ]

/-- The remote end closes, and the tunnel stays. -/
theorem remote_close_leaves_tunnel :
    ¬ ∀ s es, (serverMachine referenceConfig .sequential).start s →
      (serverMachine referenceConfig .sequential).Allowed (Closes referenceConfig) s [] es := by
  intro always
  have closes := always (.init .sequential 1000000 8 8)
    (connectSession ++ [.relayState closedNotify false]) ⟨_,_,_,rfl⟩
  obtain ⟨last,-⟩ := ((Machine.allowed_append _ _).mp closes).2
  let s := ((serverMachine referenceConfig .sequential).run (.init .sequential 1000000 8 8) connectSession).1
  have phase : (s.connectionPool.find? 1).map (·.phase) = some .httpRawReady := by decide
  obtain ⟨conn,found,ready⟩ := Option.map_eq_some_iff.mp phase
  rcases last closedNotify false conn rfl rfl (by decide) found (.inr (.inl ready)) with killed | lingering
  · exact absurd killed (by decide)
  · exact absurd lingering (by decide)

end MiniPP.Proxy
