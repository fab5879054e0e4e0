import MiniPP.Proxy.Conversation
import MiniPP.Proxy.Lists

/-! The remote connection of a client that is gone. A relay is asked to open it, and may end
it; the server never asks for its end. -/
namespace MiniPP.Proxy

variable {cfg : Config} {keys : KeySource}

/-! ## Packets that end a remote connection -/

/-- No move tells a relay to destroy a connection. -/
theorem Move.no_destroy {c c' : ClientConnection} {e : ConnEvent} {out : List Effect} (move : Move c e c' out)
    (server : Nat) (m : PR.DestroyConnection) : .postMessage server (.destroyConnection m) ∉ out := by
  intro posted
  have pushes (all : ∀ x ∈ out, x.Quiet ∨ x.PushFor c') : False := by
    rcases all _ posted with quiet | ⟨_,_,same⟩
    · exact quiet
    · cases same
  cases move with
  | quiet frame relaySide stage silent waiting => exact (silent _ posted).elim
  | requested => simp at posted
  | verified => simp at posted
  | selected result frame source target silent => exact (silent _ posted).elim
  | opened => simp at posted
  | established n pending frame source target state relaySide out => exact pushes out
  | uploaded frame source target relaySide out => exact pushes out

theorem step_no_destroy (s : Server keys) (e : ServerEvent) (c server : Nat) (m : PR.DestroyConnection) :
    .client c (.postMessage server (.destroyConnection m)) ∉ (s.step cfg e).2 := by
  intro posted
  rcases step_cause posted with ⟨delivered,conn,-,effect⟩ | ⟨conn,result,effect⟩
  · exact (handle_move cfg conn delivered).no_destroy server m effect
  · exact (handle_move cfg conn (.authResult result)).no_destroy server m effect

/-- In no run is a relay told to destroy a connection. -/
theorem no_destroy_reach {ok : Server keys → List ServerAction → ServerEvent → Prop} {s : Server keys}
    {log : List ServerAction} (reach : (serverMachine cfg keys).Reach ok s log) (c server : Nat)
    (m : PR.DestroyConnection) : .client c (.postMessage server (.destroyConnection m)) ∉ log := by
  refine reach.invariant (I := fun _ log =>
    .client c (.postMessage server (.destroyConnection m)) ∉ log) ?_ ?_
  · intro s _
    exact List.not_mem_nil
  · intro s log e _ _ before posted
    rcases List.mem_append.mp posted with earlier | now
    · exact before earlier
    · exact step_no_destroy s e c server m now

/-- A relay was asked to open a connection for the client. -/
def Created (c : Nat) (log : List ServerAction) : Prop :=
  ∃ x ∈ history c log, x.isCreateConnection = true

instance (c : Nat) (log : List ServerAction) : Decidable (Created c log) :=
  inferInstanceAs (Decidable (∃ x ∈ history c log, x.isCreateConnection = true))

/-- The relay destroyed the connection, or reports it closed. -/
def ConnEvent.ends : ConnEvent → Bool
  | .relayDestroy _ => true
  | .relayState n _ => n.newState == stateClosed
  | _ => false

def RelayEnded (c : Nat) (log : List ServerAction) : Prop :=
  ∃ e ∈ received (history c log), e.ends = true

instance (c : Nat) (log : List ServerAction) : Decidable (RelayEnded c log) :=
  inferInstanceAs (Decidable (∃ e ∈ received (history c log), e.ends = true))

/-! ## Cleaning up -/

/-- A tick at this time finds the connection among the late accounts, the late lingering
connections that remain, or the killed ones. -/
def Server.Expires (s : Server keys) (nowMS c : Nat) : Prop :=
  let accounts := timedOut s.accountTimeoutList (sub64 nowMS maxAccountCheckTimeout)
  let lingering := s.lingerKillConnectionList.filter (fun entry => entry.1 ∉ accounts)
  c ∈ accounts ∨ c ∈ timedOut lingering (sub64 nowMS maxConnectionLingerKillTimeout) ∨
    c ∈ s.killConnectionList

theorem Server.mem_overdue (s : Server keys) (nowMS c : Nat) :
    c ∈ { s with ticker := nowMS }.overdue ↔ s.Expires nowMS c := by
  let now : Server keys := { s with ticker := nowMS }
  let accounts := timedOut s.accountTimeoutList (sub64 nowMS maxAccountCheckTimeout)
  obtain ⟨-,-,-,lingering,killed,-⟩ := Server.cleanupAll_spec now accounts
  let late := timedOut (now.cleanupAll accounts).1.lingerKillConnectionList
    (sub64 nowMS maxConnectionLingerKillTimeout)
  obtain ⟨-,-,-,-,killed',-⟩ := Server.cleanupAll_spec (now.cleanupAll accounts).1 late
  have all : c ∈ now.overdue ↔ c ∈ accounts ∨ c ∈ late ∨
      c ∈ ((now.cleanupAll accounts).1.cleanupAll late).1.killConnectionList := by
    simp [Server.overdue,now,accounts,late]
  have rest : c ∈ ((now.cleanupAll accounts).1.cleanupAll late).1.killConnectionList ↔
      (c ∈ s.killConnectionList ∧ c ∉ accounts) ∧ c ∉ late := by
    rw [killed',List.mem_filter,killed,List.mem_filter]
    simp [now]
  have remaining : late = timedOut (s.lingerKillConnectionList.filter (fun entry => entry.1 ∉ accounts))
      (sub64 nowMS maxConnectionLingerKillTimeout) := by
    rw [← lingering]
  rw [all,rest,remaining]
  constructor
  · rintro (account | lingers | ⟨⟨kill,-⟩,-⟩)
    · exact .inl account
    · exact .inr (.inl lingers)
    · exact .inr (.inr kill)
  · rintro (account | lingers | kill)
    · exact .inl account
    · exact .inr (.inl lingers)
    -- A killed connection may be late as well; then it is gone before the kill list is swept.
    · by_cases account : c ∈ accounts
      · exact .inl account
      · rw [← remaining]
        by_cases lingers : c ∈ late
        · exact .inr (.inl lingers)
        · exact .inr (.inr ⟨⟨kill,account⟩,lingers⟩)

/-- A step cleans up what a tick finds expired. -/
theorem step_cleaned (s : Server keys) (e : ServerEvent) (c : Nat) :
    .cleaned c ∈ (s.step cfg e).2 ↔ s.aborted = false ∧ ∃ nowMS, e = .clientTick nowMS ∧ s.Expires nowMS c := by
  constructor
  · intro cleaned
    by_cases aborted : s.aborted
    · simp [Server.step,aborted] at cleaned
    · refine ⟨by simpa using aborted,?_⟩
      have member : .cleaned c ∈ [] ++ (s.step cfg e).2 := cleaned
      revert member
      refine Server.step_induction (I := fun _ log => .cleaned c ∈ log →
        ∃ nowMS, e = .clientTick nowMS ∧ s.Expires nowMS c) [] e (by simp) ?_ ?_ ?_ ?_
      · intro remoteIp _ member
        unfold Server.onNewConnection at member
        split at member <;> simp at member
      · intro s log c' received before _ member
        rcases List.mem_append.mp member with earlier | now
        · exact before earlier
        · rcases Server.deliver_actions _ now with same | ⟨x,same⟩ | ⟨b,same⟩ <;> cases same
      · simp
      · intro nowMS same member
        rw [Server.onTick_eq,(Server.cleanupAll_spec _ _).2.2.2.2.2] at member
        exact ⟨nowMS,same,(Server.mem_overdue s nowMS c).mp (by simpa using member)⟩
  · rintro ⟨running,nowMS,rfl,expires⟩
    have member : .cleaned c ∈ ({ s with ticker := nowMS }.cleanupAll
        { s with ticker := nowMS }.overdue).2 := by
      rw [(Server.cleanupAll_spec _ _).2.2.2.2.2]
      exact List.mem_map_of_mem ((Server.mem_overdue s nowMS c).mpr expires)
    simpa [Server.step,running,Server.onTick_eq] using member

/-! ## Runs -/

/-- When a client that had a remote connection opened is cleaned up before the relay has ended
that, the relay has been told once to destroy it. -/
def TearsDown (cfg : Config) (s : Server keys) (log : List ServerAction) (e : ServerEvent) : Prop :=
  ∀ c conn, s.connectionPool.find? c = some conn → .cleaned c ∈ (s.step cfg e).2 →
    Created c log → ¬ RelayEnded c log →
      (history c (log ++ (s.step cfg e).2)).count (.did (.postMessage conn.relayConnectionId
        (.destroyConnection
          { proxySideConnectionId := c
            relaySideConnectionId := conn.relaySideConnectionId }))) = 1

/-- A client that had a remote connection opened expires only after the relay has ended that. -/
def EndedFirst (s : Server keys) (log : List ServerAction) (e : ServerEvent) : Prop :=
  s.aborted = false → ∀ nowMS c, e = .clientTick nowMS → s.Expires nowMS c →
    Created c log → RelayEnded c log

/-- No relay is told to destroy a connection, and so the remote connections of a run are torn
down just when the relays themselves end each one before its client expires. -/
theorem teardown_propagated {s : Server keys} (start : (serverMachine cfg keys).start s)
    (es : List ServerEvent) :
    (∀ c server m, .client c (.postMessage server (.destroyConnection m)) ∉
      ((serverMachine cfg keys).run s es).2) ∧
    ((serverMachine cfg keys).Allowed (TearsDown cfg) s [] es ↔
      (serverMachine cfg keys).Allowed EndedFirst s [] es) := by
  refine ⟨no_destroy_reach (Machine.reach_run start es),Machine.allowed_iff (fun s log e reach => ?_) (.start start) es⟩
  constructor
  · rintro tears running nowMS c rfl expires created
    by_contra open_
    have lists : Server.ListInvariant { s with ticker := nowMS } :=
      (lists_invariant reach).mono (fun _ known => known) rfl rfl rfl
    obtain ⟨conn,found⟩ := Option.ne_none_iff_exists'.mp
      ((Server.overdue_linked lists).live c ((Server.mem_overdue s nowMS c).mpr expires))
    have cleaned : .cleaned c ∈ (s.step cfg (.clientTick nowMS)).2 :=
      (step_cleaned s _ c).mpr ⟨running,nowMS,rfl,expires⟩
    have once := tears c conn found cleaned created open_
    have posted := mem_history.mp (List.count_pos_iff.mp (by rw [once]; exact Nat.one_pos))
    rcases List.mem_append.mp posted with earlier | now
    · exact no_destroy_reach reach c _ _ earlier
    · exact step_no_destroy s _ c _ _ now
  · intro ended c conn _ cleaned created open_
    obtain ⟨running,nowMS,tick,expires⟩ := (step_cleaned s e c).mp cleaned
    exact absurd (ended running nowMS c tick expires created) open_

/-- The relay ends the connection of a client, and the next tick cleans the client up. -/
theorem teardown_propagated_destroyed : (serverMachine referenceConfig .sequential).Allowed
    (TearsDown referenceConfig) (.init .sequential 1000000 8 8) []
    (socksSession false ++ [.relayDestroy ⟨1,4⟩ false,.clientTick 1000200]) := by
  refine ((teardown_propagated ⟨_,_,_,rfl⟩ _).2).mpr ?_
  have other (s : Server .sequential) (log : List ServerAction) {e : ServerEvent}
      (untimed : ∀ nowMS, e ≠ .clientTick nowMS) : EndedFirst s log e :=
    fun _ nowMS _ same => absurd same (untimed nowMS)
  refine ⟨other _ _ (by simp),other _ _ (by simp),other _ _ (by simp),other _ _ (by simp),
    other _ _ (by simp),other _ _ (by simp),other _ _ (by simp),other _ _ (by simp),
    other _ _ (by simp),other _ _ (by simp),?_,trivial⟩
  rintro - nowMS c same expires -
  obtain rfl : 1000200 = nowMS := ServerEvent.clientTick.inj same
  have member := (Server.mem_overdue _ _ _).mpr expires
  obtain rfl : c = 1 := by
    have all : Server.overdue { ((serverMachine referenceConfig .sequential).run
        (.init .sequential 1000000 8 8) (socksSession false ++ [.relayDestroy ⟨1,4⟩ false])).1 with
          ticker := 1000200 } = [1] := by decide
    exact List.mem_singleton.mp (all ▸ member)
  decide

/-- The client goes first, and its relay is not told. -/
theorem teardown_left_to_relay :
    ¬ ∀ s es, (serverMachine referenceConfig .sequential).start s →
      (serverMachine referenceConfig .sequential).Allowed (TearsDown referenceConfig) s [] es := by
  intro always
  have tears := always (.init .sequential 1000000 8 8)
    ((socksSession false ++ [.peerClose 1]) ++ [.clientTick 1000200]) ⟨_,_,_,rfl⟩
  obtain ⟨tick,-⟩ := ((Machine.allowed_append _ _).mp tears).2
  let s := ((serverMachine referenceConfig .sequential).run (.init .sequential 1000000 8 8)
    (socksSession false ++ [.peerClose 1])).1
  have known : (s.connectionPool.find? 1).map (fun conn =>
      (conn.relayConnectionId,conn.relaySideConnectionId)) = some (9,4) := by decide
  obtain ⟨conn,found,ids⟩ := Option.map_eq_some_iff.mp known
  obtain ⟨relay,relaySide⟩ := Prod.mk.inj ids
  have once := tick 1 conn found (by decide) (by decide) (by decide)
  rw [relay,relaySide] at once
  exact absurd once (by decide)

end MiniPP.Proxy
