import MiniPP.Proxy.AuthRefinement
import MiniPP.Proxy.Server

/-! Every run of the server contains a run of each connection and a run of the auth cache:
what holds of their histories holds of the parts of the server's log. -/
namespace MiniPP.Proxy

variable {keys : KeySource}

structure ServerInvariant (cfg : Config) (s : Server keys) (log : List ServerAction) : Prop where
  live : ∀ c conn, s.connectionPool.find? c = some conn →
    (connectionMachine cfg).Reach Machine.anything conn (history c log) ∧ conn.connectionId = c
  past : ∀ c, ∃ conn, (connectionMachine cfg).Reach Machine.anything conn (history c log) ∧
    conn.connectionId = c
  unborn : ∀ c, ¬ s.connectionPool.Issued c → history c log = []
  auth : (authMachine keys).Reach Machine.anything s.authCacheManager (authLog log)
  sourced : Log.Always Sourced log

/-! ## Effects -/

/-- What carrying out effects of connection `c` logs, and what it leaves alone. -/
structure Performed (s : Server keys) (c : Nat) (effects : List Effect) (s' : Server keys)
    (out : List ServerAction) : Prop where
  pool : s'.connectionPool = s.connectionPool
  own : history c out = effects.map .did
  others : ∀ c', c' ≠ c → history c' out = []
  auth : ∀ log, (authMachine keys).Reach Machine.anything s.authCacheManager log →
    (authMachine keys).Reach Machine.anything s'.authCacheManager (log ++ authLog out)
  sourced : ∀ before, Log.Always (fun old x => Sourced (before ++ old) x) out

/-- An effect that is only logged, with whatever else it changes of the lists. -/
theorem performed_plain {s s' : Server keys} {c : Nat} {x : Effect}
    (pool : s'.connectionPool = s.connectionPool)
    (auth : s'.authCacheManager = s.authCacheManager) :
    Performed s c [x] s' [.client c x] := by
  refine ⟨pool,by simp,?_,?_,?_⟩
  · intro c' apart
    simp [Ne.symm apart]
  · intro log reach
    rw [auth]
    simpa using reach
  · intro before
    simp [Log.always_cons,Sourced]

theorem performed (s : Server keys) (c : Nat) (x : Effect) :
    Performed s c [x] (s.perform c x).1 (s.perform c x).2 := by
  cases x with
  | requestAuth key =>
    obtain ⟨rid,rest,actions,quiet⟩ := s.authCacheManager.requestAuth_actions c key
    refine ⟨rfl,by simp [Server.perform],?_,?_,?_⟩
    · intro c' apart
      simp [Server.perform,Ne.symm apart]
    · intro log reach
      have logged : authLog (s.perform c (.requestAuth key)).2 =
          (s.authCacheManager.requestAuth c key).2 := by simp [Server.perform]
      rw [logged]
      exact .step (.requestAuth c key) reach trivial
    · intro before
      simp only [Server.perform,actions,List.map_cons]
      rw [Log.always_cons,Log.always_cons]
      refine ⟨trivial,by simp [Sourced],?_⟩
      apply Log.always_of_mem
      intro a member old
      obtain ⟨inner,inside,rfl⟩ := List.mem_map.mp member
      rcases quiet inner inside with ⟨id,rfl⟩ | rfl <;> trivial
  | _ => exact performed_plain rfl rfl

theorem performedAll (s : Server keys) (c : Nat) (effects : List Effect) :
    Performed s c effects (s.performAll c effects).1 (s.performAll c effects).2 := by
  induction effects generalizing s with
  | nil => exact ⟨rfl,rfl,fun _ _ => rfl,fun _ reach => by simpa [Server.performAll] using reach,
      fun _ => by simp [Server.performAll]⟩
  | cons x rest ih =>
    have first := performed s c x
    have later := ih (s.perform c x).1
    refine ⟨later.pool.trans first.pool,?_,?_,?_,?_⟩
    · simp only [Server.performAll,history_append,first.own,later.own]
      rfl
    · intro c' apart
      simp [Server.performAll,first.others c' apart,later.others c' apart]
    · intro log reach
      have := later.auth _ (first.auth log reach)
      simpa [Server.performAll] using this
    · intro before
      refine Log.always_append.mpr ⟨first.sourced before,?_⟩
      have := later.sourced (before ++ (s.perform c x).2)
      simp only [List.append_assoc] at this
      exact this

/-! ## Events -/

/-- Where an event is delivered, its connection makes one step, and no other moves. -/
theorem deliver_invariant {cfg : Config} {s : Server keys} {log : List ServerAction}
    (valid : ServerInvariant cfg s log) (c : Nat) (e : ConnEvent)
    (source : Sourced log (.deliver c e)) :
    ServerInvariant cfg (s.deliver cfg c e).1 (log ++ (s.deliver cfg c e).2) := by
  unfold Server.deliver
  split
  · simpa using valid
  · rename_i conn found
    dsimp only
    let act := handle cfg conn e
    let s' : Server keys := { s with
      connectionPool := s.connectionPool.modify c (fun _ => act.conn) }
    have all := performedAll s' c act.effects
    obtain ⟨reach,own⟩ := valid.live c conn found
    have stepped : (connectionMachine cfg).Reach Machine.anything act.conn
        (history c log ++ entries e act.effects) := .step e reach trivial
    have sameId : act.conn.connectionId = c := by
      rw [← own]
      exact (handle_move cfg conn e).frame.connectionId
    have here : history c (log ++ .deliver c e :: (s'.performAll c act.effects).2) =
        history c log ++ entries e act.effects := by
      simp [all.own]
    have there (c' : Nat) (apart : c' ≠ c) :
        history c' (log ++ .deliver c e :: (s'.performAll c act.effects).2) = history c' log := by
      simp [all.others c' apart,Ne.symm apart]
    refine ⟨?_,?_,?_,?_,?_⟩
    · intro c' conn' found'
      have lookup : (s.connectionPool.modify c (fun _ => act.conn)).find? c' = some conn' :=
        (congrArg (fun pool => pool.find? c') all.pool).symm.trans found'
      rcases Storage.of_find?_modify lookup with ⟨rfl,_,-,rfl⟩ | ⟨apart,lookup⟩
      · exact ⟨here ▸ stepped,sameId⟩
      · rw [there c' apart]
        exact valid.live c' conn' lookup
    · intro c'
      by_cases same : c' = c
      · rw [same]
        exact ⟨act.conn,here ▸ stepped,sameId⟩
      · rw [there c' same]
        exact valid.past c'
    · intro c' new
      have fresh : ¬ s.connectionPool.Issued c' := by
        intro old
        apply new
        rw [all.pool]
        exact old
      have same : c' ≠ c := by
        intro same
        exact fresh (same ▸ Storage.issued_of_find? found)
      rw [there c' same]
      exact valid.unborn c' fresh
    · have := all.auth _ valid.auth
      simpa using this
    · refine Log.always_append.mpr ⟨valid.sourced,?_⟩
      rw [Log.always_cons]
      refine ⟨by simpa using source,?_⟩
      have := all.sourced (log ++ [.deliver c e])
      simpa using this

theorem newConnection_invariant {cfg : Config} {s : Server keys} {log : List ServerAction}
    (valid : ServerInvariant cfg s log) (remoteIp : Bytes) :
    ServerInvariant cfg (s.onNewConnection remoteIp).1 (log ++ (s.onNewConnection remoteIp).2) := by
  unfold Server.onNewConnection
  split
  · simpa using valid
  · rename_i id pool acquired
    have fresh := (Storage.acquired_fresh acquired).2
    refine ⟨?_,?_,?_,?_,?_⟩
    · intro c conn found
      simp only [history_append,history_accepted,history_nil,List.append_nil]
      rcases Storage.of_find?_acquire acquired found with ⟨rfl,rfl⟩ | ⟨-,found⟩
      · rw [valid.unborn c fresh]
        exact ⟨.start ⟨c,remoteIp,rfl⟩,rfl⟩
      · exact valid.live c conn found
    · intro c
      simpa using valid.past c
    · intro c new
      simp only [Storage.issued_acquire acquired,not_or] at new
      simpa using valid.unborn c new.2
    · simpa using valid.auth
    · refine Log.always_append.mpr ⟨valid.sourced,?_⟩
      simp [Log.always_cons,Sourced]

theorem cleanupAll_invariant {cfg : Config} {s : Server keys} {log : List ServerAction}
    (valid : ServerInvariant cfg s log) (list : List Nat) :
    ServerInvariant cfg (s.cleanupAll list).1 (log ++ (s.cleanupAll list).2) := by
  induction list generalizing s log with
  | nil => simpa [Server.cleanupAll] using valid
  | cons c rest ih =>
    have next : ServerInvariant cfg (s.cleanupConnection c) (log ++ [.cleaned c]) := by
      refine ⟨?_,?_,?_,?_,?_⟩
      · intro c' conn found
        simpa using valid.live c' conn (Storage.of_find?_release found).2
      · intro c'
        simpa using valid.past c'
      · intro c' new
        simpa using valid.unborn c' new
      · rw [authLog_append]
        simpa [Server.cleanupConnection] using valid.auth
      · refine Log.always_append.mpr ⟨valid.sourced,?_⟩
        simp [Log.always_cons,Sourced]
    have := ih next
    simpa [Server.cleanupAll] using this

theorem onTick_invariant {cfg : Config} {s : Server keys} {log : List ServerAction}
    (valid : ServerInvariant cfg s log) :
    ServerInvariant cfg s.onTick.1 (log ++ s.onTick.2) := by
  have cleaned {s : Server keys} {log : List ServerAction} (valid : ServerInvariant cfg s log)
      (list : Server keys → List Nat) :
      ServerInvariant cfg (s.cleanupAll (list s)).1 (log ++ (s.cleanupAll (list s)).2) :=
    cleanupAll_invariant valid (list s)
  have first := cleaned valid
    (fun s => Server.timedOut s.accountTimeoutList (sub64 s.ticker maxAccountCheckTimeout))
  have second := cleaned first
    (fun s => Server.timedOut s.lingerKillConnectionList (sub64 s.ticker maxConnectionLingerKillTimeout))
  have third := cleaned second Server.killConnectionList
  simp only [List.append_assoc] at third
  unfold Server.onTick
  dsimp only
  simp only [List.append_assoc]
  exact third

/-- The auth cache moves on its own; its log grows by what it did. -/
theorem auth_step_invariant {cfg : Config} {s : Server keys} {log : List ServerAction}
    (valid : ServerInvariant cfg s log) (e : AuthEvent)
    (quiet : ∀ a ∈ ((authMachine keys).step s.authCacheManager e).2, ∀ before, Sourced before (.auth a)) :
    ServerInvariant cfg { s with authCacheManager := ((authMachine keys).step s.authCacheManager e).1 }
      (log ++ ((authMachine keys).step s.authCacheManager e).2.map .auth) := by
  refine ⟨?_,?_,?_,?_,?_⟩
  · intro c conn found
    simpa using valid.live c conn found
  · intro c
    simpa using valid.past c
  · intro c new
    simpa using valid.unborn c new
  · rw [authLog_append,authLog_auth]
    exact .step e valid.auth trivial
  · refine Log.always_append.mpr ⟨valid.sourced,?_⟩
    apply Log.always_of_mem
    intro x member before
    obtain ⟨a,inside,rfl⟩ := List.mem_map.mp member
    exact quiet a inside _

theorem deliverResults_invariant {cfg : Config} {s : Server keys} {log : List ServerAction}
    (actions : List AuthAction) (valid : ServerInvariant cfg s log)
    (logged : ∀ a ∈ actions, .auth a ∈ log) :
    ServerInvariant cfg (s.deliverResults cfg actions).1 (log ++ (s.deliverResults cfg actions).2) := by
  induction actions generalizing s log with
  | nil => simpa [Server.deliverResults] using valid
  | cons a rest ih =>
    have later : ∀ a ∈ rest, .auth a ∈ log := fun a member => logged a (List.mem_cons_of_mem _ member)
    cases a with
    | result rid source verdict =>
      have first := deliver_invariant valid source (.authResult verdict)
        ⟨rid,logged _ (List.mem_cons_self ..)⟩
      have second := ih first (fun a member => List.mem_append_left _ (later a member))
      simpa [Server.deliverResults] using second
    | _ => exact ih valid later

theorem authTick_invariant {cfg : Config} {s : Server keys} {log : List ServerAction}
    (valid : ServerInvariant cfg s log) (nowMS : Nat) :
    ServerInvariant cfg (s.authTick cfg nowMS).1 (log ++ (s.authTick cfg nowMS).2) := by
  have linked := (auth_invariant valid.auth).1
  have first := auth_step_invariant valid (.tick nowMS) (by
    intro a member before
    rcases s.authCacheManager.onTick_actions linked nowMS a member with ⟨_,_,_,rfl⟩ | rfl <;> trivial)
  have second := deliverResults_invariant (s.authCacheManager.onTick nowMS).2 first (by
    intro a member
    exact List.mem_append_right _ (List.mem_map_of_mem member))
  rw [List.append_assoc] at second
  exact second

theorem server_step {cfg : Config} {s : Server keys} {log : List ServerAction}
    (valid : ServerInvariant cfg s log) (e : ServerEvent) :
    ServerInvariant cfg (s.step cfg e).1 (log ++ (s.step cfg e).2) := by
  unfold Server.step
  split
  · simpa using valid
  · cases e with
    | newConnection remoteIp => exact newConnection_invariant valid remoteIp
    | data c data =>
      dsimp only
      split
      · simpa using valid
      · exact deliver_invariant valid c _ trivial
    | peerClose c => exact deliver_invariant valid c _ trivial
    | authPacket node resp =>
      apply auth_step_invariant valid (.serverPacket node resp)
      intro a member before
      simp only [authMachine,AuthCacheManager.onServerPacket] at member
      split at member <;> simp at member <;> subst member <;> trivial
    | devicePacket requestId resp => exact deliver_invariant valid requestId _ trivial
    | relayState n pendingWrites => exact deliver_invariant valid _ _ trivial
    | relayDestroy m pendingWrites => exact deliver_invariant valid _ _ trivial
    | relayPush m payloadSize => exact deliver_invariant valid _ _ trivial
    | authTick nowMS => exact authTick_invariant valid nowMS
    | clientTick nowMS =>
      apply onTick_invariant (s := { s with ticker := nowMS })
      exact ⟨valid.live,valid.past,valid.unborn,valid.auth,valid.sourced⟩

/-- Every run of the server satisfies the invariant. -/
theorem server_invariant {cfg : Config} {s : Server keys} {log : List ServerAction}
    {ok : Server keys → List ServerAction → ServerEvent → Prop}
    (reach : (serverMachine cfg keys).Reach ok s log) : ServerInvariant cfg s log := by
  apply reach.invariant
  · rintro _ ⟨ticker,connectionPoolSize,cachePoolSize,rfl⟩
    refine ⟨by simp [Server.init],?_,fun _ _ => rfl,?_,by simp⟩
    · intro c
      exact ⟨_,.start ⟨c,[],rfl⟩,rfl⟩
    · exact .start ⟨ticker,cachePoolSize,rfl⟩
  · intro s log e _ _ valid
    exact server_step valid e

end MiniPP.Proxy
