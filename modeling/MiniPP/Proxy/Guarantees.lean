import MiniPP.Proxy.ServerSteps

/-! What every run of the proxy-access server guarantees of its client connections. -/
namespace MiniPP.Proxy

variable {keys : KeySource}

/-! ## Phases only advance -/

def PhaseAdvances (conn conn' : ClientConnection) : Prop := conn.phase.value ≤ conn'.phase.value

theorem phase_progress (cfg : Config) : Progress cfg PhaseAdvances where
  refl _ := Nat.le_refl _
  trans _ _ _ := Nat.le_trans
  handle conn e := (handle_move cfg conn e).frame.phase

/-! ## Pushed data -/

/-- Only a connection that is ready after the event has pushed data in it. -/
theorem Move.push {c c' : ClientConnection} {e : ConnEvent} {out : List Effect} (move : Move c e c' out)
    {server : Nat} {m : PR.PushData} (pushed : .postMessage server (.postData m) ∈ out) :
    c'.phase.Ready ∧ m.relaySideConnectionId = c'.relaySideConnectionId ∧
      ∀ result, e ≠ .authResult result := by
  have ready (target : c'.phase.stage = .ready) (pushes : ∀ x ∈ out, x.Quiet ∨ x.PushFor c') :
      c'.phase.Ready ∧ m.relaySideConnectionId = c'.relaySideConnectionId := by
    refine ⟨c'.phase.ready_iff.mpr target,?_⟩
    rcases pushes _ pushed with quiet | ⟨_,_,same⟩
    · exact quiet.elim
    · cases same
      rfl
  cases move with
  | quiet frame relaySide stage silent waiting => exact (silent _ pushed).elim
  | requested => simp at pushed
  | verified => simp at pushed
  | selected result frame source target silent => exact (silent _ pushed).elim
  | opened => simp at pushed
  | established n pending frame source target state relaySide pushes =>
    obtain ⟨isReady,same⟩ := ready target pushes
    exact ⟨isReady,same,by simp⟩
  | uploaded frame source target relaySide pushes =>
    obtain ⟨isReady,same⟩ := ready target pushes
    exact ⟨isReady,same,by simp⟩

/-- The server pushed data of connection `c` in this event. -/
def Pushes (c : Nat) (m : PR.PushData) (out : List ServerAction) : Prop :=
  ∃ server, .client c (.postMessage server (.postData m)) ∈ out

theorem pushes_step {cfg : Config} {s : Server keys} {e : ServerEvent} {c : Nat} {m : PR.PushData}
    (pushes : Pushes c m (s.step cfg e).2) :
    ∃ conn, (s.step cfg e).1.connectionPool.find? c = some conn ∧ conn.phase.Ready ∧
      m.relaySideConnectionId = conn.relaySideConnectionId := by
  obtain ⟨server,did⟩ := pushes
  rcases step_cause did with ⟨delivered,conn,ran,effect⟩ | ⟨conn,result,effect⟩
  · obtain ⟨ready,same,-⟩ := (handle_move cfg conn delivered).push effect
    exact ⟨_,ran.after,ready,same⟩
  · exact absurd rfl (((handle_move cfg conn _).push effect).2.2 result)

/-! ## Device requests -/

theorem mem_authLog {a : AuthAction} {log : List ServerAction} : a ∈ authLog log ↔ .auth a ∈ log := by
  unfold authLog
  rw [List.mem_filterMap]
  constructor
  · rintro ⟨x,member,action⟩
    cases x with
    | auth a' =>
      simp only [ServerAction.authAction,Option.some.injEq] at action
      exact action ▸ member
    | _ => cases action
  · intro member
    exact ⟨_,member,rfl⟩

/-- A verdict that came to `c` is one that the auth service gave for the key of `c`. -/
theorem delivered_verdict {cfg : Config} {s : Server keys} {log : List ServerAction}
    (valid : ServerInvariant cfg s log) {before after : List ServerAction} {c : Nat} {v : AuthResult}
    (split : log = before ++ .deliver c (.authResult (some v)) :: after) :
    ∃ key, .client c (.requestAuth key) ∈ before ∧ Verdict key v (authLog before) := by
  obtain ⟨rid,answered⟩ := valid.sourced before _ after split
  obtain ⟨first,rest,order⟩ := List.append_of_mem (mem_authLog.mpr answered)
  have recorded := (auth_invariant valid.auth).2
  have position : authLog log = first ++ .result rid c (some v) :: (rest ++ authLog after) := by
    rw [split,authLog_append,authLog_deliver,order]
    simp
  obtain ⟨key,timestamp,asked,verdict⟩ := recorded.answerable first _ _ position
  have call : .auth (.requestAuth c key timestamp (some rid)) ∈ before := by
    rw [← mem_authLog,order]
    exact List.mem_append_left _ asked
  obtain ⟨old,new,here⟩ := List.append_of_mem call
  have caller := valid.sourced old (.auth (.requestAuth c key timestamp (some rid)))
    (new ++ .deliver c (.authResult (some v)) :: after) (by rw [split,here]; simp)
  refine ⟨key,?_,?_⟩
  · rw [here]
    exact List.mem_append_left _ caller
  · rw [order]
    exact (verdict v rfl).append _

/-- A client connection presents one key. -/
theorem presented_once {cfg : Config} {s : Server keys} {log : List ServerAction}
    (valid : ServerInvariant cfg s log) {c : Nat} {key key' : Bytes}
    (first : .client c (.requestAuth key) ∈ log) (second : .client c (.requestAuth key') ∈ log) :
    key = key' := by
  obtain ⟨conn,reach,-⟩ := valid.past c
  have auths := (history_invariant reach).auths
  have same := Log.eq_of_countP_le_one (p := Entry.isRequestAuth) (by omega) (mem_history.mpr first)
    (mem_history.mpr second) rfl rfl
  simpa using same

/-- A device is asked for in the name of `c` right after a verdict was delivered to it, one
that the auth service gave for the key that `c` presented. -/
def Requested (c : Nat) (v : AuthResult) (before : List ServerAction) : Prop :=
  ∃ old mid key, before = old ++ .deliver c (.authResult (some v)) :: mid ∧
    .client c (.requestAuth key) ∈ old ∧ (∀ key', .client c (.requestAuth key') ∈ before → key' = key) ∧
    Verdict key v (authLog old)

theorem device_request_origin {cfg : Config} {s : Server keys} {log : List ServerAction}
    (valid : ServerInvariant cfg s log) {before after : List ServerAction} {c : Nat}
    {r : DeviceRequest} (split : log = before ++ .client c (.postDeviceRequest r) :: after) :
    r.clientConnectionId = c ∧ ∃ v, Requested c v before := by
  obtain ⟨conn,reach,own⟩ := valid.past c
  have past := history_invariant reach
  have position : history c log =
      history c before ++ .did (.postDeviceRequest r) :: history c after := by simp [split]
  have mine := past.own (.did (.postDeviceRequest r)) (by simp [position])
  refine ⟨own ▸ mine,?_⟩
  obtain ⟨hist,v,key,shape,presented⟩ := past.legal _ _ _ position
  obtain ⟨old,x,mid,here,entry,project⟩ := Log.split_of_filterMap shape
  have delivered : x = .deliver c (.authResult (some v)) := by
    cases x with
    | deliver c' e =>
      simp only [ServerAction.entry] at entry
      split at entry
      · rename_i same
        simp only [Option.some.injEq,Entry.received.injEq] at entry
        rw [same,entry]
      · cases entry
    | client c' x =>
      simp only [ServerAction.entry] at entry
      split at entry <;> simp at entry
    | _ => simp [ServerAction.entry] at entry
  subst delivered
  have whole : log = old ++ .deliver c (.authResult (some v)) ::
      (mid ++ .client c (.postDeviceRequest r) :: after) := by rw [split,here]; simp
  obtain ⟨key',asked,verdict⟩ := delivered_verdict valid whole
  refine ⟨v,old,mid,key',here,asked,?_,verdict⟩
  intro other member
  apply presented_once valid (c := c)
  · rw [split]
    exact List.mem_append_left _ member
  · rw [whole]
    exact List.mem_append_left _ asked

/-- Every device request for `c` follows the delivery of a verdict on the key that `c`
presented, and the verdict does not block the account. -/
def Authorized (c : Nat) (log : List ServerAction) : Prop :=
  ∀ before r after, log = before ++ .client c (.postDeviceRequest r) :: after →
    r.clientConnectionId = c ∧ ∃ v, Requested c v before ∧ v.isBlocked = false

/-- The auth service has not called the account of `c` blocked. -/
def Unblocked (c : Nat) (log : List ServerAction) : Prop :=
  ∀ key node resp, .client c (.requestAuth key) ∈ log →
    [.query node key,.reply node resp].Sublist (authLog log) → resp.isBlocked = false

/-! ## Runs -/

/-- A SOCKS5 client logs in, gets a device, opens a connection and sends two bytes. -/
def socksSession (blocked : Bool) : List ServerEvent :=
  [ .newConnection (ascii "1"),
    .data 1 [0x05,1,0x02],
    .data 1 [0x01,1,117,1,112],
    .authPacket 1
      { countryId := 1, stateId := 0, cityId := 0, isBlocked := blocked, requireIpv6 := false
        requireUdp := false, requireRemoteDns := false, autoChangeIp := false },
    .authTick 1000100,
    .devicePacket 1 { deviceRelayServerRuntimeId := 9, deviceRelaySideId := 3 },
    .data 1 [0x05,0x01,0x00,0x01,127,0,0,1,0,80],
    .relayState { proxySideConnectionId := 1, relaySideConnectionId := 4, newState := 1 } false,
    .data 1 [104,105] ]

def socksRun (blocked : Bool) : Server .sequential × List ServerAction :=
  (serverMachine referenceConfig .sequential).run (.init .sequential 1000000 8 8) (socksSession blocked)

theorem socksRun_reach (blocked : Bool) : (serverMachine referenceConfig .sequential).Reach
    Machine.anything (socksRun blocked).1 (socksRun blocked).2 := by
  have start : (serverMachine referenceConfig .sequential).start (.init .sequential 1000000 8 8) :=
    ⟨_,_,_,rfl⟩
  exact Machine.reach_run start (socksSession blocked)

/-- The phase of a connection never decreases. It asks for an authentication at most once,
and at most once for a remote connection, then with a verdict and a device. It pushes data
in a ready phase only, under the id that came with the first answer that its connection is
established; no callback changes the phase after it has pushed data. -/
theorem phase_automaton {cfg : Config} {s : Server keys} {log : List ServerAction}
    (reach : (serverMachine cfg keys).Reach Machine.anything s log) :
    (∀ s' log', (serverMachine cfg keys).Later Machine.anything (s,log) (s',log') →
      ∀ c conn conn', s.connectionPool.find? c = some conn → s'.connectionPool.find? c = some conn' →
        conn.phase.value ≤ conn'.phase.value) ∧
    ∀ c,
      (history c log).countP Entry.isRequestAuth ≤ 1 ∧
      (history c log).countP Entry.isCreateConnection ≤ 1 ∧
      (∀ before server m after,
        history c log = before ++ .did (.postMessage server (.createConnection m)) :: after →
          m.proxySideConnectionId = c ∧ Verified before ∧ DeviceSelected before) ∧
      (∀ before server m after,
        history c log = before ++ .did (.postMessage server (.postData m)) :: after →
          m.proxySideConnectionId = c ∧ EstablishedAs m.relaySideConnectionId before) ∧
      ∀ e m, Pushes c m ((serverMachine cfg keys).step s e).2 →
        ∃ conn, ((serverMachine cfg keys).step s e).1.connectionPool.find? c = some conn ∧
          conn.phase.Ready ∧ m.relaySideConnectionId = conn.relaySideConnectionId := by
  have valid := server_invariant reach
  constructor
  · intro s' log' later c conn conn' found found'
    obtain ⟨-,back⟩ := related_later (phase_progress cfg) later c (Storage.issued_of_find? found)
    obtain ⟨old,same,phase⟩ := back conn' found'
    rw [found] at same
    rw [Option.some.inj same]
    exact phase
  · intro c
    obtain ⟨conn,connReach,own⟩ := valid.past c
    have past := history_invariant connReach
    refine ⟨?_,?_,?_,?_,?_⟩
    · have := past.auths
      omega
    · have := past.opens
      omega
    · intro before server m after split
      have mine := past.own (.did (.postMessage server (.createConnection m))) (by simp [split])
      exact ⟨own ▸ mine,past.legal before _ after split⟩
    · intro before server m after split
      have mine := past.own (.did (.postMessage server (.postData m))) (by simp [split])
      exact ⟨own ▸ mine,past.legal before _ after split⟩
    · intro e m pushes
      exact pushes_step pushes

theorem phase_automaton_socksRun :
    (history 1 (socksRun false).2).countP Entry.isRequestAuth = 1 ∧
    (history 1 (socksRun false).2).countP Entry.isCreateConnection ≤ 1 := by
  have automaton := (phase_automaton (socksRun_reach false)).2 1
  exact ⟨by decide,automaton.2.1⟩

/-- In every run, the device requests for a client whose key the auth service has not
called blocked are authorized. -/
theorem device_requests_authorized {cfg : Config} {s : Server keys} {log : List ServerAction}
    (reach : (serverMachine cfg keys).Reach Machine.anything s log) (c : Nat)
    (unblocked : Unblocked c log) : Authorized c log := by
  intro before r after split
  obtain ⟨own,v,requested⟩ := device_request_origin (server_invariant reach) split
  refine ⟨own,v,requested,?_⟩
  obtain ⟨old,mid,key,here,asked,-,node,resp,order,rfl⟩ := requested
  apply unblocked key node resp
  · rw [split,here]
    simp [asked]
  · rw [split,here]
    simp only [authLog_append,List.append_assoc]
    exact order.trans (List.sublist_append_left _ _)

/-- The blocked flag of a reply, and of a delivered verdict, where an entry is one. -/
def ServerAction.blockedReply : ServerAction → Option Bool
  | .auth (.reply _ resp) => some resp.isBlocked
  | _ => none

def ServerAction.blockedVerdict : ServerAction → Option Bool
  | .deliver _ (.authResult (some v)) => some v.isBlocked
  | _ => none

theorem device_requests_authorized_socksRun :
    .client 1 (.postDeviceRequest { clientConnectionId := 1, countryId := 1, stateId := 0, cityId := 0 }) ∈
      (socksRun false).2 ∧ Authorized 1 (socksRun false).2 := by
  refine ⟨by decide,device_requests_authorized (socksRun_reach false) 1 ?_⟩
  intro key node resp _ order
  have reply : .auth (.reply node resp) ∈ (socksRun false).2 :=
    mem_authLog.mp (order.subset (by simp))
  have replies : ∀ x ∈ (socksRun false).2, ∀ flag ∈ x.blockedReply, flag = false := by decide
  exact replies _ reply resp.isBlocked rfl

/-- A blocked account gets a device like any other. -/
theorem blocked_account_requests_device :
    ∃ (s : Server .sequential) (log : List ServerAction),
      (serverMachine referenceConfig .sequential).Reach Machine.anything s log ∧ ¬ Authorized 1 log := by
  refine ⟨_,_,socksRun_reach true,?_⟩
  intro authorized
  have asked : .client 1 (.postDeviceRequest
      { clientConnectionId := 1, countryId := 1, stateId := 0, cityId := 0 }) ∈ (socksRun true).2 := by
    decide
  obtain ⟨before,after,split⟩ := List.append_of_mem asked
  obtain ⟨-,v,⟨old,mid,key,here,-⟩,open_⟩ := authorized before _ after split
  have delivered : .deliver 1 (.authResult (some v)) ∈ (socksRun true).2 := by
    rw [split,here]
    simp
  have verdicts : ∀ x ∈ (socksRun true).2, ∀ flag ∈ x.blockedVerdict, flag = true := by decide
  have blocked := verdicts _ delivered v.isBlocked rfl
  rw [open_] at blocked
  cases blocked

end MiniPP.Proxy
