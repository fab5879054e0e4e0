import MiniPP.Database.MySql

/-! What becomes of a connection object under its own calls and those of its statements: it keeps
its session or loses it, or has a new one. -/
namespace MiniPP.Database

variable {x : Versions}

/-! ## How a connection moves on -/

/-- A session goes on or is lost. -/
def Lapses (session session' : Session Effect) : Prop := session' = session ∨ session' = session.lose

/-- The handle that is seen is the one before, whose session `becomes` another, or a new one. -/
structure Follows (x : Versions) (becomes : Session Effect → Session Effect → Prop) (c c' : MySqlConn) :
    Prop where
  enabled : c.enabled ≤ c'.enabled
  handle : ∀ handle, c'.ready = some handle →
    (∃ old, c.ready = some old ∧ handle.version = old.version ∧ becomes old.mySql handle.mySql) ∨
    ∃ i, c.enabled ≤ i ∧ i < c'.enabled ∧ handle.version = x.number i ∧ Lapses {} handle.mySql

variable {c c' : MySqlConn} {becomes : Session Effect → Session Effect → Prop}

theorem lapses_probe (session : Session Effect) (answer : Answer) : Lapses session (session.probe answer) := by
  unfold Session.probe
  split
  · exact .inr rfl
  · exact .inl rfl

theorem Lapses.trans {a b d : Session Effect} (first : Lapses a b) (second : Lapses b d) : Lapses a d := by
  rcases first with rfl | rfl
  · exact second
  · rcases second with rfl | rfl
    · exact .inr rfl
    · exact .inr rfl

theorem Lapses.ownedBy {session session' : Session Effect} (lapses : Lapses session session')
    {owner : Option (Effect → Prop)} (owned : session.OwnedBy owner) : session'.OwnedBy owner := by
  rcases lapses with rfl | rfl
  · exact owned
  · exact Session.ownedBy_lose

theorem follows_refl (c : MySqlConn) : Follows x Lapses c c :=
  ⟨Nat.le_refl _,fun handle ready => .inl ⟨handle,ready,rfl,.inl rfl⟩⟩

theorem follows_unready (enabled : c.enabled ≤ c'.enabled) (unready : c'.ready = none) :
    Follows x becomes c c' := by
  refine ⟨enabled,fun handle ready => ?_⟩
  rw [unready] at ready
  cases ready

theorem follows_modifySession {modify : Session Effect → Session Effect}
    (turned : ∀ handle, c.ready = some handle → becomes handle.mySql (modify handle.mySql)) :
    Follows x becomes c (c.modifySession modify) := by
  refine ⟨Nat.le_refl _,fun handle' ready' => ?_⟩
  rw [MySqlConn.ready_modifySession] at ready'
  obtain ⟨handle,ready,rfl⟩ := Option.map_eq_some_iff.mp ready'
  exact .inl ⟨handle,ready,rfl,turned handle ready⟩

theorem follows_setSession {handle : NativeHandle} (ready : c.ready = some handle) {session : Session Effect}
    (turned : becomes handle.mySql session) : Follows x becomes c (c.setSession session) := by
  apply follows_modifySession
  intro handle' ready'
  obtain rfl := Option.some.inj (ready.symm.trans ready')
  exact turned

theorem Follows.trans {c'' : MySqlConn} (first : Follows x Lapses c c') (second : Follows x Lapses c' c'') :
    Follows x Lapses c c'' := by
  have older := first.enabled
  have newer := second.enabled
  refine ⟨older.trans newer,fun handle ready => ?_⟩
  rcases second.handle handle ready with ⟨middle,ready',version,lapses⟩ | ⟨i,late,known,fresh⟩
  · rcases first.handle middle ready' with ⟨old,before,version',lapses'⟩ | ⟨i,late,known,version',lapses'⟩
    · exact .inl ⟨old,before,version.trans version',lapses'.trans lapses⟩
    · exact .inr ⟨i,late,by omega,version.trans version',lapses'.trans lapses⟩
  · exact .inr ⟨i,by omega,known,fresh⟩

/-- `GetNative` and `GetVersion` see the same handle, or none. -/
theorem getNative_cases (c : MySqlConn) :
    (c.ready = none ∧ c.getNative = none ∧ c.getVersion = none) ∨
      ∃ handle, c.ready = some handle ∧ c.getNative = some handle.mySql ∧ c.getVersion = some handle.version := by
  cases ready : c.ready with
  | none => exact .inl ⟨rfl,MySqlConn.getNative_of_unready ready,MySqlConn.getVersion_of_unready ready⟩
  | some handle =>
    exact .inr ⟨handle,rfl,MySqlConn.getNative_of_ready ready,MySqlConn.getVersion_of_ready ready⟩

/-! ## The calls of the connection -/

theorem follows_openNative (unready : c.ready = none) (connects : Bool) :
    Follows x Lapses c (c.openNative x connects) := by
  cases connects with
  | false => exact follows_unready (Nat.le_refl _) unready
  | true =>
    refine ⟨Nat.le_succ _,fun handle ready => .inr ⟨c.enabled,Nat.le_refl _,Nat.lt_succ_self _,?_⟩⟩
    obtain rfl := Option.some.inj ready
    exact ⟨rfl,.inl rfl⟩

theorem follows_checkReconnection (c : MySqlConn) (connects : Bool) :
    Follows x Lapses c (c.checkReconnection x connects).1 := by
  unfold MySqlConn.checkReconnection
  dsimp only
  split
  · rename_i disabled
    apply follows_openNative
    rw [MySqlConn.ready,Option.isNone_iff_eq_none.mp disabled]
    exact ite_self none
  · split
    · have closed : Follows x Lapses c c.close := follows_unready (Nat.le_refl _) MySqlConn.ready_close
      exact closed.trans (follows_openNative MySqlConn.ready_close connects)
    · exact follows_refl c

theorem follows_tick (c : MySqlConn) (nowMS : Nat) (connects : Bool) (select : Answer) :
    Follows x Lapses c (c.tick x nowMS connects select) := by
  have checked : Follows x Lapses c (c.checkReconnection x connects).1 := follows_checkReconnection c connects
  unfold MySqlConn.tick
  generalize (c.checkReconnection x connects).1 = c' at checked ⊢
  dsimp only
  split
  · exact checked
  · split
    · exact checked
    · split
      · exact checked.trans (follows_unready (Nat.le_refl _) MySqlConn.ready_close)
      · exact ⟨checked.enabled,checked.handle⟩

theorem follows_sessionLost (c : MySqlConn) : Follows x Lapses c c.sessionLost :=
  follows_modifySession (fun _ _ => .inr rfl)

/-! ## Statements -/

/-- The connection has this handle, and the statement is prepared on it, or can be. -/
def Prepares (c : MySqlConn) (stmt : MySqlStmt) (run : Execution) (handle : NativeHandle) : Prop :=
  c.ready = some handle ∧
    if stmt.connVersion = some handle.version then stmt.native = true
    else handle.mySql.answers run.prepared = .done ∧ (stmt.native = true → run.closeFails = false)

theorem follows_testAndClose (stmt : MySqlStmt) (c : MySqlConn) (fails : Bool) :
    Follows x Lapses c (stmt.testAndClose c fails).1 := by
  unfold MySqlStmt.testAndClose MySqlStmt.close
  split
  · split
    · exact follows_unready (Nat.le_refl _) MySqlConn.ready_setDisconnected
    · exact follows_refl c
  · exact follows_refl c

theorem follows_openStmt (stmt : MySqlStmt) (c : MySqlConn) (prepared : Answer) :
    Follows x Lapses c (stmt.openNative c prepared).1 := by
  unfold MySqlStmt.openNative
  rcases getNative_cases c with ⟨-,nothing,-⟩ | ⟨handle,ready,native,-⟩
  · rw [nothing]
    exact follows_refl c
  · rw [native]
    have probed : Follows x Lapses c (c.setSession (handle.mySql.probe prepared)) :=
      follows_setSession ready (lapses_probe _ _)
    dsimp only
    split
    · exact probed
    · exact probed
    · exact probed.trans (follows_unready (Nat.le_refl _) MySqlConn.ready_setDisconnected)

theorem prepares_version {stmt : MySqlStmt} {run : Execution} {handle : NativeHandle}
    (ready : c.ready = some handle) (current : stmt.connVersion = some handle.version) :
    Prepares c stmt run handle ↔ stmt.native = true := by
  simp [Prepares,ready,current]

theorem native_testAndClose (stmt : MySqlStmt) (c : MySqlConn) (fails : Bool) :
    (stmt.testAndClose c fails).2.native = false := by
  cases native : stmt.native with
  | false => simp [MySqlStmt.testAndClose,native]
  | true => simp [MySqlStmt.testAndClose,MySqlStmt.close,native]

theorem conn_testAndClose (stmt : MySqlStmt) (c : MySqlConn) (fails : Bool) :
    (stmt.testAndClose c fails).1 =
      if stmt.native = true ∧ fails = true then c.setDisconnected else c := by
  cases native : stmt.native with
  | false => simp [MySqlStmt.testAndClose,native]
  | true => simp [MySqlStmt.testAndClose,MySqlStmt.close,native]

theorem setSession_self {handle : NativeHandle} (ready : c.ready = some handle) :
    (c.setSession handle.mySql).ready = some handle := by
  rw [MySqlConn.setSession,MySqlConn.ready_modifySession,ready,Option.map_some]

theorem probe_done {session : Session Effect} {answer : Answer} (done : session.answers answer = .done) :
    session.probe answer = session := by
  simp [Session.probe,done]

/-- `Open` of a statement that is closed. -/
theorem openStmt_cases {stmt : MySqlStmt} (idle : stmt.native = false) (c : MySqlConn) (prepared : Answer) :
    (∃ handle, c.ready = some handle ∧ handle.mySql.answers prepared = .done ∧
      (stmt.openNative c prepared).1.enabled = c.enabled ∧
      (stmt.openNative c prepared).1.ready = some handle ∧ (stmt.openNative c prepared).2.native = true) ∨
    ((∀ handle, c.ready = some handle → handle.mySql.answers prepared ≠ .done) ∧
      (stmt.openNative c prepared).2.native = false) := by
  unfold MySqlStmt.openNative
  rcases getNative_cases c with ⟨unready,nothing,-⟩ | ⟨handle,ready,native,-⟩
  · rw [nothing]
    exact .inr ⟨by simp [unready],idle⟩
  · rw [native]
    have unanswered (other : handle.mySql.answers prepared ≠ .done) (handle' : NativeHandle)
        (ready' : c.ready = some handle') : handle'.mySql.answers prepared ≠ .done := by
      obtain rfl := Option.some.inj (ready.symm.trans ready')
      exact other
    dsimp only
    cases answer : handle.mySql.answers prepared with
    | done =>
      refine .inl ⟨handle,ready,answer,rfl,?_,rfl⟩
      rw [probe_done answer]
      exact setSession_self ready
    | failed => exact .inr ⟨unanswered (by simp [answer]),idle⟩
    | lost => exact .inr ⟨unanswered (by simp [answer]),idle⟩

/-- What `CheckReonnection` comes to: the statement is prepared in the session of the handle, or
no call is made on it. -/
inductive Checked (x : Versions) (c : MySqlConn) (stmt : MySqlStmt) (run : Execution) :
    MySqlConn × MySqlStmt × Bool → Prop where
  | prepared {c' : MySqlConn} {stmt' : MySqlStmt} (handle : NativeHandle) : Prepares c stmt run handle →
      c'.enabled = c.enabled → c'.ready = some handle → stmt'.native = true →
      Checked x c stmt run (c',stmt',true)
  | unprepared {c' : MySqlConn} {stmt' : MySqlStmt} {checked : Bool} :
      (∀ handle, ¬ Prepares c stmt run handle) → Follows x Lapses c c' →
      (checked = true → stmt'.native = false ∨ c'.ready = none) → Checked x c stmt run (c',stmt',checked)

theorem not_prepares_unready (unready : c.ready = none) {stmt : MySqlStmt} {run : Execution}
    (handle : NativeHandle) : ¬ Prepares c stmt run handle := by
  rintro ⟨ready,-⟩
  rw [unready] at ready
  cases ready

/-- The statement is closed and prepared again on a connection that has another version. -/
theorem checked_reprepare {stmt : MySqlStmt} {run : Execution} {handle : NativeHandle}
    (ready : c.ready = some handle) (stale : stmt.connVersion ≠ some handle.version) :
    Checked x c stmt run (stmt.checkReonnection c run) := by
  have version : c.getVersion = some handle.version := MySqlConn.getVersion_of_ready ready
  have prepares (handle' : NativeHandle) : Prepares c stmt run handle' →
      handle.mySql.answers run.prepared = .done ∧ (stmt.native = true → run.closeFails = false) := by
    rintro ⟨ready',again⟩
    obtain rfl := Option.some.inj (ready.symm.trans ready')
    rwa [if_neg stale] at again
  have closed := conn_testAndClose stmt c run.closeFails
  have idle := native_testAndClose stmt c run.closeFails
  have follows : Follows x Lapses c (stmt.testAndClose c run.closeFails).1 := follows_testAndClose stmt c _
  unfold MySqlStmt.checkReonnection
  simp only [version]
  rw [if_neg (Ne.symm stale),if_neg (by simp)]
  generalize stmt.testAndClose c run.closeFails = r at closed idle follows ⊢
  have opened : Follows x Lapses c (r.2.openNative r.1 run.prepared).1 :=
    follows.trans (follows_openStmt r.2 r.1 _)
  rcases openStmt_cases idle r.1 run.prepared with ⟨handle',ready',answer,enabled,after,native⟩ | ⟨refused,native⟩
  · rw [if_pos native]
    have spared : ¬ (stmt.native = true ∧ run.closeFails = true) := by
      intro fails
      rw [closed,if_pos fails,MySqlConn.ready_setDisconnected] at ready'
      cases ready'
    have same : r.1 = c := closed.trans (if_neg spared)
    obtain rfl := Option.some.inj (ready.symm.trans (same ▸ ready'))
    refine .prepared handle ⟨ready,?_⟩ (enabled.trans (congrArg _ same)) after native
    rw [if_neg stale]
    exact ⟨answer,fun was => by simpa [was] using spared⟩
  · rw [if_neg (by simp [native])]
    refine .unprepared (fun handle' able => ?_) opened (by simp)
    obtain ⟨answer,spared⟩ := prepares handle' able
    refine refused handle ?_ answer
    rw [closed,if_neg (fun fails => by simp [spared fails.1] at fails)]
    exact ready

theorem checkReonnection_checked (x : Versions) (stmt : MySqlStmt) (c : MySqlConn) (run : Execution) :
    Checked x c stmt run (stmt.checkReonnection c run) := by
  rcases getNative_cases c with ⟨unready,-,version⟩ | ⟨handle,ready,-,version⟩
  · unfold MySqlStmt.checkReonnection
    simp only [version]
    split
    · exact .unprepared (not_prepares_unready unready) (follows_refl c) (fun _ => .inr unready)
    · exact .unprepared (not_prepares_unready unready) (follows_testAndClose stmt c _) (by simp)
  · by_cases current : stmt.connVersion = some handle.version
    · have same : stmt.checkReonnection c run = (c,stmt,true) := by
        rw [MySqlStmt.checkReonnection,version,if_pos current.symm]
      rw [same]
      cases native : stmt.native with
      | true => exact .prepared handle ((prepares_version ready current).mpr native) rfl ready native
      | false =>
        refine .unprepared (fun handle' able => ?_) (follows_refl c) (fun _ => .inl native)
        obtain rfl := Option.some.inj (ready.symm.trans able.1)
        simp [(prepares_version ready current).mp able] at native
    · exact checked_reprepare ready current

/-- An execution that finds its statement prepared is one of its session, which may be lost by it. -/
theorem execute_cases (x : Versions) (stmt : MySqlStmt) (c : MySqlConn) (effect : Effect) (run : Execution) :
    (∃ handle, Prepares c stmt run handle ∧
      Follows x (fun old new => new = (old.execute effect run.applied run.answer).1) c
        (stmt.execute c effect run).1 ∧
      (stmt.execute c effect run).2.2.1 = (handle.mySql.execute effect run.applied run.answer).2) ∨
    ((∀ handle, ¬ Prepares c stmt run handle) ∧ Follows x Lapses c (stmt.execute c effect run).1 ∧
      (stmt.execute c effect run).2.2.1 = []) := by
  unfold MySqlStmt.execute
  have checked := checkReonnection_checked x stmt c run
  generalize stmt.checkReonnection c run = r at checked ⊢
  cases checked with
  | @prepared c' stmt' handle prepares enabled after native =>
    refine .inl ⟨handle,prepares,?_⟩
    have executes : Follows x (fun old new => new = (old.execute effect run.applied run.answer).1) c
        (c'.setSession (handle.mySql.execute effect run.applied run.answer).1) := by
      refine ⟨enabled.ge,fun handle' ready' => .inl ⟨handle,prepares.1,?_⟩⟩
      rw [MySqlConn.setSession,MySqlConn.ready_modifySession,after,Option.map_some] at ready'
      obtain rfl := Option.some.inj ready'
      exact ⟨rfl,rfl⟩
    simp only [MySqlStmt.internalBindAndExecute,native,MySqlConn.getNative_of_ready after,if_true]
    split
    · exact ⟨follows_unready enabled.ge MySqlConn.ready_setDisconnected,rfl⟩
    · exact ⟨executes,rfl⟩
  | @unprepared c' stmt' ran unable follows uncalled =>
    refine .inr ⟨unable,?_⟩
    cases ran with
    | false => exact ⟨follows,rfl⟩
    | true =>
      have uncalled : stmt'.internalBindAndExecute c' effect run = (c',stmt',[],false) := by
        rcases uncalled rfl with idle | unready
        · simp [MySqlStmt.internalBindAndExecute,idle]
        · simp [MySqlStmt.internalBindAndExecute,MySqlConn.getNative_of_unready unready]
      simp only [if_true]
      rw [uncalled]
      exact ⟨follows,rfl⟩

end MiniPP.Database
