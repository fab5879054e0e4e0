import MiniPP.Database.Reconnection

/-! What becomes durable during the lifetime of a transaction object. The object knows one
version of the connection, and its statements run on whatever connection there is. -/
namespace MiniPP.Database

variable {x : Versions} {c : MySqlConn} {becomes : Session Effect → Session Effect → Prop}

/-! ## Whose transaction a session is in -/

/-- The transaction that is at work on this version of the connection. -/
def MySql.owner (s : MySql) (version : Nat) : Option (Effect → Prop) :=
  match s.transaction with
  | none => none
  | some (n,t) =>
    if t.connVersion = some version ∧ t.commited = false then some (fun effect => effect.lifetime = some n)
    else none

/-- Effects wait in the session of the transaction that began it, and nowhere else. -/
structure Covered (x : Versions) (s : MySql) (log : List MySqlAction) : Prop where
  known : ∀ handle, s.conn.ready = some handle → ∃ i < s.conn.enabled, handle.version = x.number i
  begun : ∀ n t version, s.transaction = some (n,t) → t.connVersion = some version →
    ∃ i < s.conn.enabled, version = x.number i
  owned : ∀ handle, s.conn.ready = some handle → handle.mySql.OwnedBy (s.owner handle.version)
  numbered : ∀ n t, s.transaction = some (n,t) → n < s.lifetimes
  returned : ∀ n success, .commitReturned n success ∈ log →
    n < s.lifetimes ∧ ∀ t, s.transaction = some (n,t) → t.commited = true

variable {s s' : MySql} {log log' : List MySqlAction}

theorem owner_none (idle : s.transaction = none) (version : Nat) : s.owner version = none := by
  simp [MySql.owner,idle]

theorem owner_some {n : Nat} {t : MySqlTransaction} (current : s.transaction = some (n,t)) {version : Nat}
    (same : t.connVersion = some version) (working : t.commited = false) :
    s.owner version = some (fun effect => effect.lifetime = some n) := by
  simp [MySql.owner,current,same,working]

theorem owner_over {n : Nat} {t : MySqlTransaction} (current : s.transaction = some (n,t)) {version : Nat}
    (elsewhere : ¬ (t.connVersion = some version ∧ t.commited = false)) : s.owner version = none := by
  simp only [MySql.owner,current]
  exact if_neg elsewhere

/-- A new connection is covered by no transaction. -/
theorem covered_follows (covered : Covered x s log) (follows : Follows x becomes s.conn s'.conn)
    (begun : ∀ n t version, s'.transaction = some (n,t) → t.connVersion = some version →
      ∃ i < s.conn.enabled, version = x.number i)
    (owned : ∀ handle session, s.conn.ready = some handle → becomes handle.mySql session →
      session.OwnedBy (s'.owner handle.version))
    (numbered : ∀ n t, s'.transaction = some (n,t) → n < s'.lifetimes)
    (returned : ∀ n success, .commitReturned n success ∈ log' →
      n < s'.lifetimes ∧ ∀ t, s'.transaction = some (n,t) → t.commited = true) :
    Covered x s' log' := by
  refine ⟨?known,?begun,?owned,numbered,returned⟩
  case known =>
    intro handle ready
    rcases follows.handle handle ready with ⟨old,before,version,-⟩ | ⟨i,-,known,version,-⟩
    · obtain ⟨i,known,number⟩ := covered.known old before
      exact ⟨i,Nat.lt_of_lt_of_le known follows.enabled,version.trans number⟩
    · exact ⟨i,known,version⟩
  case begun =>
    intro n t version current same
    obtain ⟨i,known,number⟩ := begun n t version current same
    exact ⟨i,Nat.lt_of_lt_of_le known follows.enabled,number⟩
  case owned =>
    intro handle ready
    rcases follows.handle handle ready with ⟨old,before,version,turned⟩ | ⟨i,late,-,version,fresh⟩
    · rw [version]
      exact owned old handle.mySql before turned
    · have unowned : s'.owner handle.version = none := by
        cases current : s'.transaction with
        | none => exact owner_none current _
        | some lifetime =>
          apply owner_over (n := lifetime.1) (t := lifetime.2) current
          rintro ⟨same,-⟩
          obtain ⟨j,known,number⟩ := begun lifetime.1 lifetime.2 _ current same
          have same : i = j := x.number_injective (version.symm.trans number)
          omega
      rw [unowned]
      exact fresh.ownedBy Session.ownedBy_fresh

/-! ## Calls and transactions -/

/-- A call that leaves the transaction alone. -/
theorem covered_call (covered : Covered x s log) {out : List MySqlAction}
    (quiet : ∀ n success, .commitReturned n success ∉ out) (transaction : s'.transaction = s.transaction)
    (lifetimes : s'.lifetimes = s.lifetimes) (follows : Follows x becomes s.conn s'.conn)
    (owned : ∀ handle session, s.conn.ready = some handle → becomes handle.mySql session →
      session.OwnedBy (s.owner handle.version)) : Covered x s' (log ++ out) := by
  have owner : s'.owner = s.owner := by
    funext version
    rw [MySql.owner,transaction]
    rfl
  apply covered_follows covered follows
  · rw [transaction]
    exact covered.begun
  · rw [owner]
    exact owned
  · rw [transaction,lifetimes]
    exact covered.numbered
  · intro n success member
    rw [transaction,lifetimes]
    rcases List.mem_append.mp member with old | new
    · exact covered.returned n success old
    · exact absurd new (quiet n success)

theorem covered_lapses (covered : Covered x s log) {c' : MySqlConn} (follows : Follows x Lapses s.conn c') :
    Covered x { s with conn := c' } (log ++ []) :=
  covered_call covered (by simp) rfl rfl follows
    (fun handle _ ready lapses => lapses.ownedBy (covered.owned handle ready))

/-- Who owns a session owns what is executed in it. -/
theorem owner_lifetime {version : Nat} {own : Effect → Prop} (owned : s.owner version = some own)
    (statement : Nat) : own ⟨statement,s.lifetime⟩ := by
  unfold MySql.owner at owned
  split at owned
  · cases owned
  · rename_i n t current
    split at owned
    · obtain rfl := Option.some.inj owned
      simp [MySql.lifetime,current]
    · cases owned

theorem covered_execute (covered : Covered x s log) (statement : Nat) (run : Execution) :
    Covered x (s.execute statement run).1 (log ++ (s.execute statement run).2) := by
  have quiet : ∀ n success, .commitReturned n success ∉ (s.execute statement run).2 := by
    simp [MySql.execute]
  rcases execute_cases x (s.stmts statement) s.conn ⟨statement,s.lifetime⟩ run with
    ⟨-,-,follows,-⟩ | ⟨-,follows,-⟩
  · refine covered_call covered quiet rfl rfl follows ?_
    rintro handle session ready rfl
    exact (covered.owned handle ready).execute (fun own owned => owner_lifetime owned statement) _ _
  · exact covered_call covered quiet rfl rfl follows
      (fun handle _ ready lapses => lapses.ownedBy (covered.owned handle ready))

theorem covered_construct (covered : Covered x s log) :
    Covered x s.construct.1 (log ++ s.construct.2) := by
  unfold MySql.construct MySqlTransaction.construct
  cases current : s.transaction with
  | some lifetime =>
    rw [List.append_nil]
    exact covered
  | none =>
    have returned : ∀ {t : MySqlTransaction} n success, .commitReturned n success ∈ log →
        n < s.lifetimes + 1 ∧ ∀ u, some (s.lifetimes,t) = some (n,u) → u.commited = true := by
      intro t n success member
      have before : n < s.lifetimes := (covered.returned n success member).1
      refine ⟨by omega,fun u there => ?_⟩
      obtain ⟨same,-⟩ := Prod.mk.inj (Option.some.inj there)
      omega
    rcases getNative_cases s.conn with ⟨unready,nothing,-⟩ | ⟨handle,ready,native,version⟩
    · rw [nothing,List.append_nil]
      refine covered_follows covered (follows_refl s.conn) ?_ ?_ ?_ returned
      · intro n t version there started
        obtain ⟨-,rfl⟩ := Prod.mk.inj (Option.some.inj there)
        cases started
      · intro handle session ready
        rw [unready] at ready
        cases ready
      · intro n t there
        obtain ⟨rfl,-⟩ := Prod.mk.inj (Option.some.inj there)
        exact Nat.lt_succ_self _
    · rw [native,version,List.append_nil]
      have follows : Follows x (fun old new => new = old.disableAutocommit) s.conn
          (s.conn.setSession handle.mySql.disableAutocommit) := follows_setSession ready rfl
      refine covered_follows covered follows ?_ ?_ ?_ returned
      · intro n t version there started
        obtain ⟨-,rfl⟩ := Prod.mk.inj (Option.some.inj there)
        obtain rfl := Option.some.inj started
        exact covered.known handle ready
      · rintro handle' session ready' rfl
        obtain rfl := Option.some.inj (ready.symm.trans ready')
        have before : handle.mySql.OwnedBy none := owner_none current handle.version ▸ covered.owned handle ready
        rw [owner_some rfl rfl rfl]
        exact before.disableAutocommit
      · intro n t there
        obtain ⟨rfl,-⟩ := Prod.mk.inj (Option.some.inj there)
        exact Nat.lt_succ_self _

theorem commit_elsewhere {t : MySqlTransaction} {version : Nat} (begun : t.connVersion = some version)
    (elsewhere : c.getVersion ≠ some version) (answer : Answer) (leavesOpen : Bool) :
    t.commit c answer leavesOpen = (c,{ t with commited := true },[],some false) := by
  obtain ⟨connVersion,commited⟩ := t
  obtain rfl : connVersion = some version := begun
  rw [MySqlTransaction.commit,if_neg (by simp)]
  exact if_pos elsewhere

theorem commit_here {t : MySqlTransaction} {handle : NativeHandle} (ready : c.ready = some handle)
    (begun : t.connVersion = some handle.version) (answer : Answer) (leavesOpen : Bool) :
    t.commit c answer leavesOpen =
      (c.setSession (handle.mySql.commit answer leavesOpen).1.enableAutocommit.1,{ t with commited := true },
        (handle.mySql.commit answer leavesOpen).2 ++ (handle.mySql.commit answer leavesOpen).1.enableAutocommit.2,
        some (decide (handle.mySql.answers answer = .done))) := by
  obtain ⟨connVersion,commited⟩ := t
  obtain rfl : connVersion = some handle.version := begun
  rw [MySqlTransaction.commit,if_neg (by simp)]
  simp only [MySqlConn.getVersion_of_ready ready,MySqlConn.getNative_of_ready ready]
  exact if_neg (by simp)

/-- A commit on the connection that the transaction began on, or on another. -/
theorem commit_cases (x : Versions) {n : Nat} {t : MySqlTransaction} (current : s.transaction = some (n,t))
    (answer : Answer) (leavesOpen : Bool) :
    (∃ handle, s.conn.ready = some handle ∧ t.connVersion = some handle.version ∧
      Follows x (fun old new => new = (old.commit answer leavesOpen).1.enableAutocommit.1) s.conn
        (s.commit answer leavesOpen).1.conn ∧
      (s.commit answer leavesOpen).1.transaction = some (n,{ t with commited := true }) ∧
      (s.commit answer leavesOpen).2 =
        ((handle.mySql.commit answer leavesOpen).2 ++
            (handle.mySql.commit answer leavesOpen).1.enableAutocommit.2).map .durable ++
          [.commitReturned n (handle.mySql.answers answer = .done)]) ∨
    ((∀ handle, s.conn.ready = some handle → t.connVersion ≠ some handle.version) ∧
      (s.commit answer leavesOpen).1.conn = s.conn ∧
      ((s.commit answer leavesOpen).1.transaction = some (n,t) ∧ (s.commit answer leavesOpen).2 = [] ∨
        (s.commit answer leavesOpen).1.transaction = some (n,{ t with commited := true }) ∧
          (s.commit answer leavesOpen).2 = [.commitReturned n false])) := by
  simp only [MySql.commit,current]
  cases begun : t.connVersion with
  | none =>
    have unstarted : t.commit s.conn answer leavesOpen = (s.conn,t,[],none) := if_pos begun
    rw [unstarted]
    exact .inr ⟨by simp,rfl,.inl ⟨rfl,rfl⟩⟩
  | some version =>
    by_cases here : s.conn.getVersion = some version
    · rcases getNative_cases s.conn with ⟨-,-,unseen⟩ | ⟨handle,ready,-,seen⟩
      · rw [unseen] at here
        cases here
      · obtain rfl := Option.some.inj (seen.symm.trans here)
        rw [commit_here ready begun]
        exact .inl ⟨handle,ready,rfl,follows_setSession ready rfl,by simp [begun],rfl⟩
    · rw [commit_elsewhere begun here]
      refine .inr ⟨?_,rfl,.inr ⟨by simp [begun],rfl⟩⟩
      intro handle ready same
      exact here ((MySqlConn.getVersion_of_ready ready).trans same.symm)

theorem lifetimes_commit (answer : Answer) (leavesOpen : Bool) :
    (s.commit answer leavesOpen).1.lifetimes = s.lifetimes := by
  unfold MySql.commit
  split <;> rfl

theorem covered_commit (covered : Covered x s log) (answer : Answer) (leavesOpen : Bool) :
    Covered x (s.commit answer leavesOpen).1 (log ++ (s.commit answer leavesOpen).2) := by
  cases current : s.transaction with
  | none =>
    have still : s.commit answer leavesOpen = (s,[]) := by simp [MySql.commit,current]
    rw [still,List.append_nil]
    exact covered
  | some lifetime =>
    obtain ⟨n,t⟩ := lifetime
    have numbered : n < s.lifetimes := covered.numbered n t current
    have lifetimes := lifetimes_commit (s := s) answer leavesOpen
    have cases := commit_cases x current answer leavesOpen
    generalize s.commit answer leavesOpen = r at lifetimes cases ⊢
    obtain ⟨s',out⟩ := r
    dsimp only at lifetimes cases ⊢
    -- The transaction is the one before, and is over unless nothing was logged.
    have after : ∃ t', s'.transaction = some (n,t') ∧ t'.connVersion = t.connVersion ∧
        (t'.commited = true ∨ t' = t ∧ out = []) := by
      rcases cases with ⟨_,_,_,_,after,_⟩ | ⟨_,_,⟨after,nothing⟩ | ⟨after,_⟩⟩
      · exact ⟨_,after,rfl,.inl rfl⟩
      · exact ⟨_,after,rfl,.inr ⟨rfl,nothing⟩⟩
      · exact ⟨_,after,rfl,.inl rfl⟩
    have logged : ∀ m success, .commitReturned m success ∈ out → m = n := by
      intro m success member
      rcases cases with ⟨_,_,_,_,_,rfl⟩ | ⟨_,_,⟨_,rfl⟩ | ⟨_,rfl⟩⟩
      · simp only [List.mem_append,List.mem_map,reduceCtorEq,and_false,exists_false,false_or,
          List.mem_singleton,MySqlAction.commitReturned.injEq] at member
        exact member.1
      · cases member
      · simp only [List.mem_singleton,MySqlAction.commitReturned.injEq] at member
        exact member.1
    obtain ⟨t',after,same,outcome⟩ := after
    have begun : ∀ m u version, s'.transaction = some (m,u) → u.connVersion = some version →
        ∃ i < s.conn.enabled, version = x.number i := by
      intro m u version there started
      obtain ⟨rfl,rfl⟩ := Prod.mk.inj (Option.some.inj (after.symm.trans there))
      exact covered.begun n t version current (same.symm.trans started)
    have known : ∀ m u, s'.transaction = some (m,u) → m < s'.lifetimes := by
      intro m u there
      obtain ⟨rfl,-⟩ := Prod.mk.inj (Option.some.inj (after.symm.trans there))
      omega
    have returned : ∀ m success, .commitReturned m success ∈ log ++ out →
        m < s'.lifetimes ∧ ∀ u, s'.transaction = some (m,u) → u.commited = true := by
      intro m success member
      rcases List.mem_append.mp member with old | new
      · obtain ⟨before,late⟩ := covered.returned m success old
        refine ⟨lifetimes ▸ before,fun u there => ?_⟩
        obtain ⟨rfl,rfl⟩ := Prod.mk.inj (Option.some.inj (after.symm.trans there))
        rcases outcome with committed | ⟨rfl,-⟩
        · exact committed
        · exact late _ current
      · obtain rfl := logged m success new
        refine ⟨by omega,fun u there => ?_⟩
        obtain ⟨-,rfl⟩ := Prod.mk.inj (Option.some.inj (after.symm.trans there))
        rcases outcome with committed | ⟨-,rfl⟩
        · exact committed
        · cases new
    rcases cases with ⟨handle,ready,here,follows,done,-⟩ | ⟨elsewhere,conn,-⟩
    · refine covered_follows covered follows begun ?_ known returned
      rintro handle' session ready' rfl
      have unowned : s'.owner handle'.version = none := owner_over done (by simp)
      rw [unowned]
      exact Session.ownedBy_enableAutocommit
    · have follows : Follows x Lapses s.conn s'.conn := by
        rw [conn]
        exact follows_refl s.conn
      refine covered_follows covered follows begun ?_ known returned
      intro handle session ready lapses
      have unowned : s'.owner handle.version = none := owner_over after (fun working =>
        elsewhere handle ready (same.symm.trans working.1))
      have before : s.owner handle.version = none := owner_over current (fun working =>
        elsewhere handle ready working.1)
      rw [unowned]
      exact lapses.ownedBy (before ▸ covered.owned handle ready)

/-- The destructor rolls back what the transaction left on its connection. -/
theorem destruct_cases (x : Versions) {n : Nat} {t : MySqlTransaction} (current : s.transaction = some (n,t)) :
    s.destruct.2 = [] ∧
      ((∀ handle, s.conn.ready = some handle → s.owner handle.version = none) ∧ s.destruct.1.conn = s.conn ∨
        Follows x (fun old new => new = old.rollback.enableAutocommit.1) s.conn s.destruct.1.conn) := by
  simp only [MySql.destruct,MySqlTransaction.destruct,current]
  split
  · rename_i elsewhere
    refine ⟨rfl,.inl ⟨fun handle ready => owner_over current ?_,rfl⟩⟩
    rintro ⟨same,-⟩
    rw [same,MySqlConn.getVersion_of_ready ready] at elsewhere
    simp at elsewhere
  · split
    · rename_i commited
      refine ⟨rfl,.inl ⟨fun handle _ => owner_over current ?_,rfl⟩⟩
      rintro ⟨-,working⟩
      rw [working] at commited
      cases commited
    · rcases getNative_cases s.conn with ⟨unready,nothing,-⟩ | ⟨handle,ready,native,-⟩
      · rw [nothing]
        refine ⟨rfl,.inl ⟨fun handle ready => ?_,rfl⟩⟩
        rw [unready] at ready
        cases ready
      · rw [native]
        simp only [Session.enableAutocommit_rollback]
        exact ⟨rfl,.inr (follows_setSession ready rfl)⟩

theorem covered_destruct (covered : Covered x s log) : Covered x s.destruct.1 (log ++ s.destruct.2) := by
  cases current : s.transaction with
  | none =>
    have still : s.destruct = (s,[]) := by simp [MySql.destruct,current]
    rw [still,List.append_nil]
    exact covered
  | some lifetime =>
    obtain ⟨n,t⟩ := lifetime
    obtain ⟨quiet,cases⟩ := destruct_cases x current
    have gone : s.destruct.1.transaction = none := by simp [MySql.destruct,current]
    have lifetimes : s.destruct.1.lifetimes = s.lifetimes := by simp [MySql.destruct,current]
    rw [quiet,List.append_nil]
    have returned : ∀ m success, .commitReturned m success ∈ log →
        m < s.destruct.1.lifetimes ∧ ∀ u, s.destruct.1.transaction = some (m,u) → u.commited = true := by
      intro m success member
      rw [gone,lifetimes]
      exact ⟨(covered.returned m success member).1,by simp⟩
    rcases cases with ⟨unowned,conn⟩ | follows
    · have follows : Follows x Lapses s.conn s.destruct.1.conn := by
        rw [conn]
        exact follows_refl s.conn
      refine covered_follows covered follows (by simp [gone]) ?_ (by simp [gone]) returned
      intro handle session ready lapses
      rw [owner_none gone]
      exact lapses.ownedBy (unowned handle ready ▸ covered.owned handle ready)
    · refine covered_follows covered follows (by simp [gone]) ?_ (by simp [gone]) returned
      rintro handle session ready rfl
      rw [owner_none gone]
      exact Session.ownedBy_enableAutocommit

theorem covered_step (covered : Covered x s log) (e : MySqlEvent) :
    Covered x (s.step x e).1 (log ++ (s.step x e).2) := by
  cases e with
  | tick nowMS connects select => exact covered_lapses covered (follows_tick s.conn nowMS connects select)
  | setDisconnected =>
    exact covered_lapses covered (follows_unready (Nat.le_refl _) MySqlConn.ready_setDisconnected)
  | checkReconnection connects => exact covered_lapses covered (follows_checkReconnection s.conn connects)
  | sessionLost => exact covered_lapses covered (follows_sessionLost s.conn)
  | execute statement run => exact covered_execute covered statement run
  | construct => exact covered_construct covered
  | commit answer leavesOpen => exact covered_commit covered answer leavesOpen
  | destruct => exact covered_destruct covered

theorem covered_run {ok : MySql → List MySqlAction → MySqlEvent → Prop}
    (reach : (mySqlMachine x).Reach ok s log) : Covered x s log := by
  refine reach.invariant (I := Covered x) ?_ (fun _ _ e _ _ covered => covered_step covered e)
  rintro _ rfl
  exact ⟨by simp [MySqlConn.ready,MySqlConn.isReady],by simp,by simp [MySqlConn.ready,MySqlConn.isReady],
    by simp,by simp⟩

/-! ## Atomicity -/

/-- Nothing done during a lifetime is durable unless its `Commit` returned true. -/
def Atomic (log : List MySqlAction) : Prop :=
  ∀ effect n, .durable effect ∈ log → effect.lifetime = some n → .commitReturned n true ∈ log

def StaysAtomic (x : Versions) (s : MySql) (log : List MySqlAction) (e : MySqlEvent) : Prop :=
  Atomic (log ++ (s.step x e).2)

/-- A statement that gets to the server before `Commit` returned true does so on the connection
that the transaction began on, and before `Commit` is called. A commit that fails and leaves the
transaction open has no effects in it. -/
def Guarded (s : MySql) (log : List MySqlAction) : MySqlEvent → Prop
  | .execute statement run => ∀ n t handle, s.transaction = some (n,t) → .commitReturned n true ∉ log →
    Prepares s.conn (s.stmts statement) run handle → handle.mySql.alive = true → run.applied = true →
    t.connVersion = some handle.version ∧ t.commited = false
  | .commit .failed true => ∀ n t handle, s.transaction = some (n,t) → s.conn.ready = some handle →
    t.connVersion = some handle.version → handle.mySql.alive = true → handle.mySql.pending = []
  | _ => True

theorem atomic_append (atomic : Atomic log) {out : List MySqlAction} :
    Atomic (log ++ out) ↔ ∀ effect n, .durable effect ∈ out → effect.lifetime = some n →
      .commitReturned n true ∈ log ++ out := by
  constructor
  · exact fun all effect n member => all effect n (List.mem_append_right _ member)
  · intro new effect n member during
    rcases List.mem_append.mp member with old | fresh
    · exact List.mem_append_left _ (atomic effect n old during)
    · exact new effect n fresh during

theorem atomic_quiet (atomic : Atomic log) {out : List MySqlAction}
    (quiet : ∀ effect, .durable effect ∉ out) : Atomic (log ++ out) :=
  (atomic_append atomic).mpr (fun effect _ member => absurd member (quiet effect))

theorem owner_eq_none_iff {n : Nat} {t : MySqlTransaction} (current : s.transaction = some (n,t)) {version : Nat} :
    s.owner version = none ↔ ¬ (t.connVersion = some version ∧ t.commited = false) := by
  constructor
  · rintro none ⟨same,working⟩
    rw [owner_some current same working] at none
    cases none
  · exact owner_over current

theorem staysAtomic_execute (covered : Covered x s log) (atomic : Atomic log) (statement : Nat) (run : Execution) :
    StaysAtomic x s log (.execute statement run) ↔ Guarded s log (.execute statement run) := by
  have step : s.step x (.execute statement run) = s.execute statement run := rfl
  have unreturned (n : Nat) : .commitReturned n true ∈ log ++ (s.execute statement run).2 →
      .commitReturned n true ∈ log := by
    simp [MySql.execute]
  rw [StaysAtomic,step,atomic_append atomic]
  rcases execute_cases x (s.stmts statement) s.conn ⟨statement,s.lifetime⟩ run with
    ⟨handle,prepares,-,durable⟩ | ⟨unable,-,durable⟩
  · have owned : handle.mySql.OwnedBy (s.owner handle.version) := covered.owned handle prepares.1
    have logged (effect : Effect) : .durable effect ∈ (s.execute statement run).2 ↔
        run.applied = true ∧ handle.mySql.alive = true ∧ handle.mySql.autocommit = true ∧
          effect = ⟨statement,s.lifetime⟩ := by
      rw [← Session.mem_execute,← durable]
      simp [MySql.execute]
    constructor
    · intro stays n t handle' current fresh prepares' live applied
      obtain rfl := Option.some.inj (prepares.1.symm.trans prepares'.1)
      by_contra elsewhere
      have autocommit : handle.mySql.autocommit = true :=
        (owned.autocommit_iff live).mpr (owner_over current elsewhere)
      refine fresh (unreturned n (stays ⟨statement,s.lifetime⟩ n ?_ ?_))
      · exact (logged _).mpr ⟨applied,live,autocommit,rfl⟩
      · simp [MySql.lifetime,current]
    · intro guarded effect n member during
      obtain ⟨applied,live,autocommit,rfl⟩ := (logged effect).mp member
      obtain ⟨⟨m,t⟩,current,same⟩ := Option.map_eq_some_iff.mp during
      obtain rfl : m = n := same
      by_contra fresh
      have here := guarded m t handle current (fun old => fresh (List.mem_append_left _ old)) prepares live applied
      exact (owner_eq_none_iff current).mp ((owned.autocommit_iff live).mp autocommit) here
  · constructor
    · intro _ n t handle _ _ prepares
      exact absurd prepares (unable handle)
    · intro _ effect n member
      simp [MySql.execute,durable] at member

/-- What waits in the session of the connection is the current transaction's, and it is at work. -/
theorem lifetime_of_pending (covered : Covered x s log) {n : Nat} {t : MySqlTransaction}
    (current : s.transaction = some (n,t)) {handle : NativeHandle} (ready : s.conn.ready = some handle)
    (live : handle.mySql.alive = true) {effect : Effect} (waits : effect ∈ handle.mySql.pending) :
    effect.lifetime = some n ∧ t.commited = false := by
  have owned : handle.mySql.OwnedBy (s.owner handle.version) := covered.owned handle ready
  by_cases working : t.connVersion = some handle.version ∧ t.commited = false
  · rw [owner_some current working.1 working.2] at owned
    exact ⟨owned.pending_own live effect waits,working.2⟩
  · rw [owner_over current working] at owned
    rw [owned.pending_eq_nil live] at waits
    cases waits

theorem guarded_commit (answer : Answer) (leavesOpen : Bool) :
    Guarded s log (.commit answer leavesOpen) ↔ (answer = .failed → leavesOpen = true →
      ∀ n t handle, s.transaction = some (n,t) → s.conn.ready = some handle →
        t.connVersion = some handle.version → handle.mySql.alive = true → handle.mySql.pending = []) := by
  cases answer <;> cases leavesOpen <;> simp [Guarded]

theorem staysAtomic_commit (covered : Covered x s log) (atomic : Atomic log) (answer : Answer) (leavesOpen : Bool) :
    StaysAtomic x s log (.commit answer leavesOpen) ↔ Guarded s log (.commit answer leavesOpen) := by
  have step : s.step x (.commit answer leavesOpen) = s.commit answer leavesOpen := rfl
  rw [StaysAtomic,step,guarded_commit]
  cases current : s.transaction with
  | none =>
    have quiet : (s.commit answer leavesOpen).2 = [] := by simp [MySql.commit,current]
    exact iff_of_true (atomic_quiet atomic (by simp [quiet])) (by simp)
  | some lifetime =>
    obtain ⟨n,t⟩ := lifetime
    rcases commit_cases x current answer leavesOpen with ⟨handle,ready,same,-,-,out⟩ | ⟨elsewhere,-,quiet⟩
    · rw [out,Session.commit_enableAutocommit,atomic_append atomic]
      constructor
      · rintro stays rfl rfl m u handle' there ready' - live
        obtain ⟨rfl,rfl⟩ := Prod.mk.inj (Option.some.inj there)
        obtain rfl := Option.some.inj (ready.symm.trans ready')
        apply List.eq_nil_iff_forall_not_mem.mpr
        intro effect waits
        obtain ⟨during,working⟩ := lifetime_of_pending covered current ready live waits
        have returned := stays effect n (by simpa [live] using waits) during
        have earlier : .commitReturned n true ∈ log := by
          simpa [Session.answers,live] using returned
        rw [(covered.returned n true earlier).2 t current] at working
        cases working
      · intro guarded effect m member during
        have durable : effect ∈ handle.mySql.pending ∧ handle.mySql.alive = true ∧
            (answer = .done ∨ answer = .failed ∧ leavesOpen = true) := by
          split at member
          · rename_i all
            exact ⟨by simpa using member,all⟩
          · simp at member
        obtain ⟨waits,live,rfl | ⟨rfl,rfl⟩⟩ := durable
        · have mine := (lifetime_of_pending covered current ready live waits).1
          obtain rfl := Option.some.inj (mine.symm.trans during)
          simp [Session.answers,live]
        · rw [guarded rfl rfl n t handle rfl ready same live] at waits
          cases waits
    · refine iff_of_true (atomic_quiet atomic ?_) ?_
      · rcases quiet with ⟨-,quiet⟩ | ⟨-,quiet⟩
        · simp [quiet]
        · simp [quiet]
      · rintro - - m u handle there ready same
        obtain ⟨rfl,rfl⟩ := Prod.mk.inj (Option.some.inj there)
        exact absurd same (elsewhere handle ready)

theorem staysAtomic_iff_guarded (covered : Covered x s log) (atomic : Atomic log) (e : MySqlEvent) :
    StaysAtomic x s log e ↔ Guarded s log e := by
  have quiet (nothing : (s.step x e).2 = []) : StaysAtomic x s log e :=
    atomic_quiet atomic (by simp [nothing])
  cases e with
  | execute statement run => exact staysAtomic_execute covered atomic statement run
  | commit answer leavesOpen => exact staysAtomic_commit covered atomic answer leavesOpen
  | construct =>
    refine iff_of_true (quiet ?_) trivial
    change s.construct.2 = []
    unfold MySql.construct
    split <;> rfl
  | destruct =>
    refine iff_of_true (quiet ?_) trivial
    cases current : s.transaction with
    | none => simp [MySql.step,MySql.destruct,current]
    | some lifetime => exact (destruct_cases x current).1
  | tick => exact iff_of_true (quiet rfl) trivial
  | setDisconnected => exact iff_of_true (quiet rfl) trivial
  | checkReconnection => exact iff_of_true (quiet rfl) trivial
  | sessionLost => exact iff_of_true (quiet rfl) trivial

theorem atomic_run (reach : (mySqlMachine x).Reach (StaysAtomic x) s log) : Atomic log := by
  induction reach with
  | start => simp [Atomic]
  | step _ _ stays => exact stays

/-- The statement of a transaction is executed again on a new connection, which has autocommit on. -/
def executedAgain : List MySqlEvent :=
  [.checkReconnection true,.construct,.execute 0 {},.setDisconnected,.checkReconnection true,.execute 0 {}]

/-- After a commit that failed, autocommit comes on with the effects still there. -/
def commitFailed : List MySqlEvent := [.checkReconnection true,.construct,.execute 0 {},.commit .failed true]

end MiniPP.Database
