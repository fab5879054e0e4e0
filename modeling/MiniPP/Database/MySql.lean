import MiniPP.Lib.Machine
import MiniPP.Lib.Session
import MiniPP.Backend.Connection
import Mathlib.Logic.Function.Basic

/-! A connection object to MySQL with its prepared statements and a transaction. The object
connects again under a new version, and its statements prepare themselves again when they see one. -/
namespace MiniPP.Database

open Backend (signedDiff)

/-- What a statement does to the database, with the transaction object that lived meanwhile. -/
structure Effect where
  statement : Nat
  lifetime : Option Nat
  deriving DecidableEq, Repr

/-- The value of an `xVersion` that is enabled, and its version. -/
structure NativeHandle where
  version : Nat
  mySql : Session Effect := {}
  deriving DecidableEq, Repr

/-- The versions of an `xVersion` that is enabled again and again. -/
structure Versions where
  number : Nat → Nat
  number_injective : Function.Injective number

def Versions.reference : Versions := ⟨id,Function.injective_id⟩

structure MySqlConn where
  disconnected : Bool := true
  nativeHandle : Option NativeHandle := none
  enabled : Nat := 0
  lastTimestampMS : Nat := 0
  deriving DecidableEq, Repr

/-- `native` is a prepared `MYSQL_STMT`. -/
structure MySqlStmt where
  connVersion : Option Nat := none
  native : Bool := false
  deriving DecidableEq, Repr

structure MySqlTransaction where
  connVersion : Option Nat
  commited : Bool := false
  deriving DecidableEq, Repr

/-- What the calls of `xMySqlStmt::Execute` meet: the close of a stale statement, the new
prepare, the effect at the server, and what the calls after it answer. -/
structure Execution where
  closeFails : Bool := false
  prepared : Answer := .done
  applied : Bool := true
  answer : Answer := .done
  deriving DecidableEq, Repr

/-- The answers of the server come with the calls. `sessionLost` is the server's own doing;
`construct` and `destruct` are a transaction's, and one of them lives at a time. -/
inductive MySqlEvent where
  | tick (nowMS : Nat) (connects : Bool) (select : Answer)
  | setDisconnected
  | checkReconnection (connects : Bool)
  | sessionLost
  | execute (statement : Nat) (run : Execution)
  | construct
  | commit (answer : Answer) (leavesOpen : Bool)
  | destruct
  deriving DecidableEq, Repr

inductive MySqlAction where
  | durable (effect : Effect)
  | commitReturned (lifetime : Nat) (success : Bool)
  deriving DecidableEq, Repr

def idleTimeoutMS : Int := 5 * 60000

/-! ## The connection -/

namespace MySqlConn

variable (x : Versions)

def isReady (c : MySqlConn) : Bool := !c.disconnected

/-- The handle, as `GetNative` and `GetVersion` see it. -/
def ready (c : MySqlConn) : Option NativeHandle := if c.isReady then c.nativeHandle else none

def getNative (c : MySqlConn) : Option (Session Effect) := c.ready.map NativeHandle.mySql

def getVersion (c : MySqlConn) : Option Nat := c.ready.map NativeHandle.version

def setDisconnected (c : MySqlConn) : MySqlConn := { c with disconnected := true }

/-- The server's side of the handle. -/
def modifySession (c : MySqlConn) (modify : Session Effect → Session Effect) : MySqlConn :=
  { c with nativeHandle := c.nativeHandle.map (fun handle => { handle with mySql := modify handle.mySql }) }

def setSession (c : MySqlConn) (session : Session Effect) : MySqlConn := c.modifySession (fun _ => session)

/-- `Open`; a fresh connection has autocommit on. -/
def openNative (c : MySqlConn) (connects : Bool) : MySqlConn :=
  if connects then
    { c with
      disconnected := false
      nativeHandle := some { version := x.number c.enabled }
      enabled := c.enabled + 1 }
  else c

/-- `mysql_close` ends the session, and what waits in it is rolled back. -/
def close (c : MySqlConn) : MySqlConn := { c with nativeHandle := none, disconnected := true }

def checkReconnection (c : MySqlConn) (connects : Bool) : MySqlConn × Bool :=
  if c.nativeHandle.isNone then
    let c := c.openNative x connects
    (c,c.isReady)
  else if c.disconnected then
    let c := c.close.openNative x connects
    (c,c.isReady)
  else (c,true)

def tick (c : MySqlConn) (nowMS : Nat) (connects : Bool) (select : Answer) : MySqlConn :=
  let c := (c.checkReconnection x connects).1
  match c.getNative with
  | none => c
  | some session =>
    if signedDiff nowMS c.lastTimestampMS < idleTimeoutMS then c
    else if session.answers select = .lost then c.close
    else { c with lastTimestampMS := nowMS }

def sessionLost (c : MySqlConn) : MySqlConn := c.modifySession Session.lose

end MySqlConn

/-! ## Statements -/

namespace MySqlStmt

def close (stmt : MySqlStmt) (c : MySqlConn) (fails : Bool) : MySqlConn × MySqlStmt :=
  (if fails then c.setDisconnected else c,{ stmt with native := false })

def testAndClose (stmt : MySqlStmt) (c : MySqlConn) (fails : Bool) : MySqlConn × MySqlStmt :=
  if stmt.native then stmt.close c fails else (c,stmt)

/-- `Open`, with what `mysql_stmt_prepare` answers. -/
def openNative (stmt : MySqlStmt) (c : MySqlConn) (prepared : Answer) : MySqlConn × MySqlStmt :=
  match c.getNative with
  | none => (c,stmt)
  | some session =>
    let c := c.setSession (session.probe prepared)
    match session.answers prepared with
    | .done => (c,{ stmt with native := true })
    | .failed => (c,stmt)
    | .lost => (c.setDisconnected,stmt)

def checkReonnection (stmt : MySqlStmt) (c : MySqlConn) (run : Execution) : MySqlConn × MySqlStmt × Bool :=
  let newConnVersion := c.getVersion
  if newConnVersion = stmt.connVersion then (c,stmt,true)
  else
    let (c,stmt) := stmt.testAndClose c run.closeFails
    if newConnVersion = none then (c,stmt,false)
    else
      let (c,stmt) := stmt.openNative c run.prepared
      if stmt.native then (c,{ stmt with connVersion := newConnVersion },true) else (c,stmt,false)

/-- The calls on `Native`: the statement runs in the session that it was prepared in. A lost
session makes `ProcessServerLostError` close the statement. -/
def internalBindAndExecute (stmt : MySqlStmt) (c : MySqlConn) (effect : Effect) (run : Execution) :
    MySqlConn × MySqlStmt × List Effect × Bool :=
  match stmt.native,c.getNative with
  | true,some session =>
    let (session',durable) := session.execute effect run.applied run.answer
    let c := c.setSession session'
    if session.answers run.answer = .lost then
      (c.setDisconnected,{ stmt with native := false },durable,false)
    else (c,stmt,durable,run.answer = .done)
  -- `assert(Native)`
  | _,_ => (c,stmt,[],false)

def execute (stmt : MySqlStmt) (c : MySqlConn) (effect : Effect) (run : Execution) :
    MySqlConn × MySqlStmt × List Effect × Bool :=
  let (c,stmt,checked) := stmt.checkReonnection c run
  if checked then stmt.internalBindAndExecute c effect run else (c,stmt,[],false)

end MySqlStmt

/-! ## Transactions -/

namespace MySqlTransaction

/-- `StartTransaction` is called on a valid version, and never fails. -/
def construct (c : MySqlConn) : MySqlConn × MySqlTransaction :=
  match c.getNative with
  | none => (c,{ connVersion := none })
  | some session => (c.setSession session.disableAutocommit,{ connVersion := c.getVersion })

/-- No result is `assert(ConnVersion.IsValid())`. -/
def commit (t : MySqlTransaction) (c : MySqlConn) (answer : Answer) (leavesOpen : Bool) :
    MySqlConn × MySqlTransaction × List Effect × Option Bool :=
  if t.connVersion = none then (c,t,[],none)
  else
    let t := { t with commited := true }
    if c.getVersion ≠ t.connVersion then (c,t,[],some false)
    else
      match c.getNative with
      | none => (c,t,[],some false)
      | some session =>
        let (committed,durable) := session.commit answer leavesOpen
        let (reset,late) := committed.enableAutocommit
        (c.setSession reset,t,durable ++ late,some (session.answers answer = .done))

def destruct (t : MySqlTransaction) (c : MySqlConn) : MySqlConn × List Effect :=
  if t.connVersion = none ∨ c.getVersion ≠ t.connVersion then (c,[])
  else if t.commited then (c,[])
  else
    match c.getNative with
    | none => (c,[])
    | some session =>
      let (reset,durable) := session.rollback.enableAutocommit
      (c.setSession reset,durable)

end MySqlTransaction

/-! ## All of it -/

/-- The transaction comes with its number among those made so far. -/
structure MySql where
  conn : MySqlConn := {}
  stmts : Nat → MySqlStmt := fun _ => {}
  transaction : Option (Nat × MySqlTransaction) := none
  lifetimes : Nat := 0

namespace MySql

variable (x : Versions)

def lifetime (s : MySql) : Option Nat := s.transaction.map Prod.fst

def execute (s : MySql) (statement : Nat) (run : Execution) : MySql × List MySqlAction :=
  let effect := ⟨statement,s.lifetime⟩
  let (c,stmt,durable,_) := (s.stmts statement).execute s.conn effect run
  ({ s with conn := c, stmts := Function.update s.stmts statement stmt },durable.map .durable)

def construct (s : MySql) : MySql × List MySqlAction :=
  match s.transaction with
  | some _ => (s,[])
  | none =>
    let (c,t) := MySqlTransaction.construct s.conn
    ({ s with conn := c, transaction := some (s.lifetimes,t), lifetimes := s.lifetimes + 1 },[])

def commit (s : MySql) (answer : Answer) (leavesOpen : Bool) : MySql × List MySqlAction :=
  match s.transaction with
  | none => (s,[])
  | some (n,t) =>
    let (c,t,durable,returned) := t.commit s.conn answer leavesOpen
    ({ s with conn := c, transaction := some (n,t) },
      durable.map .durable ++ (returned.map (.commitReturned n)).toList)

def destruct (s : MySql) : MySql × List MySqlAction :=
  match s.transaction with
  | none => (s,[])
  | some (_,t) =>
    let (c,durable) := t.destruct s.conn
    ({ s with conn := c, transaction := none },durable.map .durable)

def step (s : MySql) : MySqlEvent → MySql × List MySqlAction
  | .tick nowMS connects select => ({ s with conn := s.conn.tick x nowMS connects select },[])
  | .setDisconnected => ({ s with conn := s.conn.setDisconnected },[])
  | .checkReconnection connects => ({ s with conn := (s.conn.checkReconnection x connects).1 },[])
  | .sessionLost => ({ s with conn := s.conn.sessionLost },[])
  | .execute statement run => s.execute statement run
  | .construct => s.construct
  | .commit answer leavesOpen => s.commit answer leavesOpen
  | .destruct => s.destruct

end MySql

/-- A connection object that was just initialised, and has not ticked. -/
def mySqlMachine (x : Versions) : Machine MySql MySqlEvent MySqlAction where
  start s := s = {}
  step s e := s.step x e

/-! ## The handle that is seen -/

namespace MySqlConn

variable {x : Versions} {c : MySqlConn}

@[simp] theorem ready_setDisconnected : c.setDisconnected.ready = none := rfl

@[simp] theorem ready_close : c.close.ready = none := rfl

@[simp] theorem ready_modifySession (modify : Session Effect → Session Effect) :
    (c.modifySession modify).ready =
      c.ready.map (fun handle => { handle with mySql := modify handle.mySql }) := by
  unfold ready
  rw [apply_ite (Option.map _)]
  rfl

theorem getNative_of_ready {handle : NativeHandle} (ready : c.ready = some handle) :
    c.getNative = some handle.mySql := by
  rw [getNative,ready,Option.map_some]

theorem getVersion_of_ready {handle : NativeHandle} (ready : c.ready = some handle) :
    c.getVersion = some handle.version := by
  rw [getVersion,ready,Option.map_some]

theorem getNative_of_unready (unready : c.ready = none) : c.getNative = none := by
  rw [getNative,unready,Option.map_none]

theorem getVersion_of_unready (unready : c.ready = none) : c.getVersion = none := by
  rw [getVersion,unready,Option.map_none]

end MySqlConn

end MiniPP.Database
