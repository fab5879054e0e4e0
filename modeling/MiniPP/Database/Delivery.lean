import MiniPP.Database.Bindings
import MiniPP.Database.MySql

/-! The rows of a result, as the row callback of `Execute` sees them. Outputs are bound once and
filled again for each row, and the loop over the rows ends in the same way at their end and at an error. -/
namespace MiniPP.Database

variable {n : Nat}

abbrev Outputs (types : Fin n → OutType) : Type := (i : Fin n) → (types i).Value

abbrev Binds (types : Fin n → OutType) : Type := (i : Fin n) → OutBind (types i)

/-- A row of the stored result, with what `mysql_stmt_fetch` answers, and for each column
`mysql_stmt_fetch_column`. -/
structure Row (types : Fin n → OutType) where
  fetch : Answer
  cells : (i : Fin n) → (types i).Cell
  columns : Fin n → Answer

/-- What the calls of one `Execute` answer; `bound` is for `mysql_stmt_bind_param`,
`mysql_stmt_bind_result` and `mysql_stmt_execute`, and at the end `done` is `MYSQL_NO_DATA`. -/
structure Calls (types : Fin n → OutType) where
  checked : Bool := true
  bound : Answer := .done
  stored : Answer := .done
  rows : List (Row types)
  atEnd : Answer := .done

/-- What the callback saw in the outputs, call by call. Nothing is returned where an assertion fails;
`lost` is for a statement that was closed, and its connection with it. -/
structure Outcome (types : Fin n → OutType) where
  delivered : List (Outputs types)
  returned : Option Bool
  lost : Bool

namespace Calls

variable {types : Fin n → OutType}

/-- The fetchers of a row; the first that fails ends it. -/
def fetchColumns (row : Row types) : List (Fin n) → Binds types → Except Answer (Binds types)
  | [], binds => .ok binds
  | i :: rest, binds =>
    match (binds i).fetch (row.cells i) (row.columns i) with
    | none => .error (row.columns i)
    | some bind => fetchColumns row rest (Function.update binds i bind)

/-- A call that fails: `ProcessServerLostError`, and false. -/
def failed (answer : Answer) : Outcome types := ⟨[],some false,answer = .lost⟩

/-- Behind the loop there is `assert(!ProcessServerLostError())`. -/
def ended : Answer → Outcome types
  | .lost => ⟨[],none,true⟩
  | _ => ⟨[],some true,false⟩

def fetchRows (atEnd : Answer) : List (Row types) → Binds types → Outcome types
  | [], _ => ended atEnd
  | row :: rest, binds =>
    if row.fetch ≠ .done then ended row.fetch
    else
      match fetchColumns row (List.finRange n) (fun i => (binds i).receive (row.cells i)) with
      | .error answer => failed answer
      | .ok binds =>
        let outcome := fetchRows atEnd rest binds
        { outcome with delivered := (fun i => (binds i).target) :: outcome.delivered }

def internalBindAndExecute (calls : Calls types) (binds : Binds types) : Outcome types :=
  if calls.bound ≠ .done then failed calls.bound
  else if calls.stored ≠ .done then failed calls.stored
  else if calls.rows = [] then ⟨[],some true,false⟩
  else fetchRows calls.atEnd calls.rows binds

/-- `dirty` is what the receivers hold before anything is written to them. -/
def execute (calls : Calls types) (dirty : (i : Fin n) → (types i).Receiver) : Outcome types :=
  if calls.checked then calls.internalBindAndExecute (fun i => OutBind.setup (types i) (dirty i))
  else ⟨[],some false,false⟩

end Calls

/-! ## What delivery should be -/

namespace Row

variable {types : Fin n → OutType}

/-- The row is fetched, and its strings can be read. -/
def arrives (row : Row types) : Bool :=
  row.fetch = .done && (List.finRange n).all (fun i => (types i).reads (row.cells i) (row.columns i))

def values (row : Row types) : Outputs types := fun i => (types i).value (row.cells i)

theorem arrives_iff {row : Row types} :
    row.arrives = true ↔ row.fetch = .done ∧ ∀ i, (types i).reads (row.cells i) (row.columns i) = true := by
  simp [arrives]

end Row

namespace Calls

variable {types : Fin n → OutType}

def Started (calls : Calls types) : Prop :=
  calls.checked = true ∧ calls.bound = .done ∧ calls.stored = .done

instance decidableStarted (calls : Calls types) : Decidable calls.Started := inferInstanceAs (Decidable (_ ∧ _))

/-- The callback sees the rows up to the first that does not arrive, once each and in order, every
output with its value; and true is returned just if all arrive, and then the end. -/
structure Delivers (calls : Calls types) (outcome : Outcome types) : Prop where
  delivered : outcome.delivered =
    if calls.Started then (calls.rows.takeWhile Row.arrives).map Row.values else []
  returned : outcome.returned = some (decide (calls.Started ∧
    (∀ row ∈ calls.rows, row.arrives = true) ∧ (calls.rows = [] ∨ calls.atEnd = .done)))

/-- The rows from here on, after the earlier ones. Of a row that does not arrive only the fetch
counts, and none behind it. -/
def SoundFrom (dirty : (i : Fin n) → (types i).Receiver) (atEnd : Answer) :
    List (Row types) → List (Row types) → Prop
  | _, [] => atEnd = .done
  | earlier, row :: rest =>
    row.fetch = .done ∧ (row.arrives = true →
      (∀ i, Fresh (dirty i) (earlier.map (fun row => row.cells i)) (row.cells i)) ∧
        SoundFrom dirty atEnd (earlier ++ [row]) rest)

/-- No fetch fails, and every row is fresh. -/
def Sound (calls : Calls types) (dirty : (i : Fin n) → (types i).Receiver) : Prop :=
  calls.Started → calls.rows ≠ [] → SoundFrom dirty calls.atEnd [] calls.rows

/-! ## One row -/

theorem fetchColumns_ok {row : Row types} {columns : List (Fin n)} (once : columns.Nodup)
    {binds binds' : Binds types} : fetchColumns row columns binds = .ok binds' ↔
      (∀ i ∈ columns, (binds i).fetch (row.cells i) (row.columns i) = some (binds' i)) ∧
        ∀ i, i ∉ columns → binds' i = binds i := by
  induction columns generalizing binds with
  | nil =>
    simp only [fetchColumns,Except.ok.injEq,List.not_mem_nil,false_imp_iff,implies_true,true_and,
      not_false_eq_true,true_imp_iff]
    exact ⟨fun same i => (congrFun same i).symm,fun same => (funext same).symm⟩
  | cons i rest ih =>
    obtain ⟨first,once⟩ := List.nodup_cons.mp once
    simp only [List.forall_mem_cons]
    cases fetched : (binds i).fetch (row.cells i) (row.columns i) with
    | none => simp [fetchColumns,fetched]
    | some bind =>
      simp only [fetchColumns,fetched,ih once,Option.some.injEq]
      constructor
      · rintro ⟨later,others⟩
        have here : binds' i = bind := by simpa using others i first
        refine ⟨⟨here.symm,fun j member => ?_⟩,fun j absent => ?_⟩
        · have apart : j ≠ i := fun same => first (same ▸ member)
          simpa [apart] using later j member
        · obtain ⟨apart,behind⟩ := List.ne_and_not_mem_of_not_mem_cons absent
          simpa [apart] using others j behind
      · rintro ⟨⟨here,later⟩,others⟩
        refine ⟨fun j member => ?_,fun j behind => ?_⟩
        · have apart : j ≠ i := fun same => first (same ▸ member)
          simpa [apart] using later j member
        · by_cases same : j = i
          · subst same
            simp [here]
          · simpa [same] using others j (List.not_mem_cons_of_ne_of_not_mem same behind)

theorem fetchRow_ok {row : Row types} {binds binds' : Binds types} :
    fetchColumns row (List.finRange n) binds = .ok binds' ↔
      ∀ i, (binds i).fetch (row.cells i) (row.columns i) = some (binds' i) := by
  simp [fetchColumns_ok (List.nodup_finRange n)]

variable {row : Row types} {dirty : (i : Fin n) → (types i).Receiver} {earlier : List (Row types)}
  {binds binds' : Binds types}

/-- The bound columns after the earlier rows. -/
def TracksRows (dirty : (i : Fin n) → (types i).Receiver) (earlier : List (Row types))
    (binds : Binds types) : Prop :=
  ∀ i, Tracks (dirty i) (earlier.map (fun row => row.cells i)) (binds i)

def received (row : Row types) (binds : Binds types) : Binds types := fun i => (binds i).receive (row.cells i)

/-- The fetchers of a row that does not arrive end it. -/
theorem fetchColumns_lost (binds : Binds types) (fetched : row.fetch = .done) (arrives : row.arrives = false) :
    ∃ answer, fetchColumns row (List.finRange n) (received row binds) = .error answer := by
  cases result : fetchColumns row (List.finRange n) (received row binds) with
  | error answer => exact ⟨answer,rfl⟩
  | ok binds' =>
    have all := fetchRow_ok.mp result
    have unread : ¬ ∀ i, (types i).reads (row.cells i) (row.columns i) = true := by
      intro read
      exact absurd (Row.arrives_iff.mpr ⟨fetched,read⟩) (by simp [arrives])
    obtain ⟨i,unread⟩ := not_forall.mp unread
    have none := fetch_unread (b := binds i) (Bool.eq_false_of_not_eq_true unread)
    cases none.symm.trans (all i)

/-- A row that is fresh is delivered. -/
theorem fetchColumns_fresh (tracks : TracksRows dirty earlier binds) (arrives : row.arrives = true)
    (fresh : ∀ i, Fresh (dirty i) (earlier.map (fun row => row.cells i)) (row.cells i)) :
    ∃ binds', fetchColumns row (List.finRange n) (received row binds) = .ok binds' ∧
      (fun i => (binds' i).target) = row.values ∧ TracksRows dirty (earlier ++ [row]) binds' := by
  obtain ⟨-,read⟩ := Row.arrives_iff.mp arrives
  choose binds' fetched value tracks' using fun i => fetch_fresh (tracks i) (read i) (fresh i)
  refine ⟨binds',fetchRow_ok.mpr fetched,funext value,fun i => ?_⟩
  rw [List.map_append]
  exact tracks' i

/-- A row that is not fresh is not delivered as it is. -/
theorem fetchColumns_stale (tracks : TracksRows dirty earlier binds)
    (stale : ¬ ∀ i, Fresh (dirty i) (earlier.map (fun row => row.cells i)) (row.cells i))
    (result : fetchColumns row (List.finRange n) (received row binds) = .ok binds') :
    (fun i => (binds' i).target) ≠ row.values := by
  obtain ⟨i,stale⟩ := not_forall.mp stale
  intro same
  exact fetch_stale (tracks i) stale (fetchRow_ok.mp result i) (congrFun same i)

/-! ## All rows -/

/-- What the loop over the rows should give. -/
structure RowsDelivered (atEnd : Answer) (rows : List (Row types)) (outcome : Outcome types) : Prop where
  delivered : outcome.delivered = (rows.takeWhile Row.arrives).map Row.values
  returned : outcome.returned = some (decide ((∀ row ∈ rows, row.arrives = true) ∧ atEnd = .done))

variable {atEnd : Answer} {rest : List (Row types)}

theorem rowsDelivered_ended : RowsDelivered atEnd [] (ended atEnd : Outcome types) ↔ atEnd = .done := by
  constructor
  · intro right
    have returned := right.returned
    cases atEnd with
    | done => rfl
    | failed => simp [ended] at returned
    | lost => simp [ended] at returned
  · rintro rfl
    exact ⟨rfl,by simp [ended]⟩

theorem rowsDelivered_error (arrives : row.arrives = false) (answer : Answer) :
    RowsDelivered atEnd (row :: rest) (failed answer) := by
  constructor
  case delivered => simp [failed,arrives]
  case returned => simp [failed,arrives]

theorem rowsDelivered_cons (arrives : row.arrives = true) {outcome : Outcome types} {seen : Outputs types} :
    RowsDelivered atEnd (row :: rest) { outcome with delivered := seen :: outcome.delivered } ↔
      seen = row.values ∧ RowsDelivered atEnd rest outcome := by
  constructor
  · rintro ⟨delivered,returned⟩
    rw [List.takeWhile_cons_of_pos arrives,List.map_cons,List.cons.injEq] at delivered
    exact ⟨delivered.1,delivered.2,by simpa [arrives] using returned⟩
  · rintro ⟨rfl,delivered,returned⟩
    constructor
    case delivered => rw [List.takeWhile_cons_of_pos arrives,List.map_cons,delivered]
    case returned => simpa [arrives] using returned

theorem fetchRows_iff (tracks : TracksRows dirty earlier binds) (atEnd : Answer) (rows : List (Row types)) :
    RowsDelivered atEnd rows (fetchRows atEnd rows binds) ↔ SoundFrom dirty atEnd earlier rows := by
  induction rows generalizing earlier binds with
  | nil => exact rowsDelivered_ended
  | cons row rest ih =>
    by_cases fetched : row.fetch = .done
    · have loop : fetchRows atEnd (row :: rest) binds =
          match fetchColumns row (List.finRange n) (received row binds) with
          | .error answer => failed answer
          | .ok binds =>
            { fetchRows atEnd rest binds with
              delivered := (fun i => (binds i).target) :: (fetchRows atEnd rest binds).delivered } :=
        if_neg (not_not_intro fetched)
      rw [loop]
      cases arrives : row.arrives with
      | false =>
        obtain ⟨answer,lost⟩ := fetchColumns_lost binds fetched arrives
        rw [lost]
        exact iff_of_true (rowsDelivered_error arrives answer)
          ⟨fetched,fun here => absurd (here.symm.trans arrives) (by simp)⟩
      | true =>
        by_cases fresh : ∀ i, Fresh (dirty i) (earlier.map (fun row => row.cells i)) (row.cells i)
        · obtain ⟨binds',result,values,tracks'⟩ := fetchColumns_fresh tracks arrives fresh
          rw [result]
          dsimp only
          rw [rowsDelivered_cons arrives,ih tracks']
          constructor
          · exact fun both => ⟨fetched,fun _ => ⟨fresh,both.2⟩⟩
          · exact fun sound => ⟨values,(sound.2 arrives).2⟩
        · apply iff_of_false
          · cases result : fetchColumns row (List.finRange n) (received row binds) with
            | error answer =>
              intro right
              have delivered := right.delivered
              rw [List.takeWhile_cons_of_pos arrives] at delivered
              cases delivered
            | ok binds' =>
              dsimp only
              rw [rowsDelivered_cons arrives]
              exact fun right => fetchColumns_stale tracks fresh result right.1
          · exact fun sound => fresh (sound.2 arrives).1
    · apply iff_of_false
      · have loop : fetchRows atEnd (row :: rest) binds = ended row.fetch := if_pos fetched
        have unread : row.arrives = false := by simp [Row.arrives,fetched]
        rw [loop]
        intro right
        have returned := right.returned
        cases answer : row.fetch with
        | done => exact fetched answer
        | failed => simp [answer,ended,unread] at returned
        | lost => simp [answer,ended] at returned
      · exact fun sound => fetched sound.1

/-! ## The whole call -/

theorem execute_unstarted (dirty : (i : Fin n) → (types i).Receiver) {calls : Calls types} (unstarted : ¬ calls.Started) :
    ∃ lost, calls.execute dirty = ⟨[],some false,lost⟩ := by
  unfold execute internalBindAndExecute
  repeat' split
  · exact ⟨_,rfl⟩
  · exact ⟨_,rfl⟩
  · rename_i checked bound stored _
    exact absurd ⟨checked,not_not.mp bound,not_not.mp stored⟩ unstarted
  · rename_i checked bound stored _
    exact absurd ⟨checked,not_not.mp bound,not_not.mp stored⟩ unstarted
  · exact ⟨_,rfl⟩

theorem execute_started {calls : Calls types} (started : calls.Started) :
    calls.execute dirty =
      if calls.rows = [] then ⟨[],some true,false⟩
      else fetchRows calls.atEnd calls.rows (fun i => OutBind.setup (types i) (dirty i)) := by
  obtain ⟨checked,bound,stored⟩ := started
  simp only [execute,internalBindAndExecute,checked,bound,stored,if_true,ne_eq,not_true_eq_false,if_false]

/-- For any types of outputs and any answers of the library, the callback sees every row as it is, and
`Execute` returns true just if it saw all of them, if and only if no fetch fails and every row is fresh. -/
theorem row_delivery_iff {n : Nat} {types : Fin n → OutType} (calls : Calls types)
    (dirty : (i : Fin n) → (types i).Receiver) :
    calls.Delivers (calls.execute dirty) ↔ calls.Sound dirty := by
  by_cases started : calls.Started
  · rw [execute_started started]
    by_cases none : calls.rows = []
    · rw [if_pos none]
      refine iff_of_true ⟨?_,?_⟩ (fun _ some => absurd none some)
      · simp [none]
      · simp [none,started]
    · rw [if_neg none]
      have tracks : TracksRows dirty [] (fun i => OutBind.setup (types i) (dirty i)) :=
        fun i => tracks_setup (types i) (dirty i)
      have loop := fetchRows_iff tracks calls.atEnd calls.rows
      have sound : calls.Sound dirty ↔ SoundFrom dirty calls.atEnd [] calls.rows :=
        ⟨fun sound => sound started none,fun sound _ _ => sound⟩
      rw [sound,← loop]
      constructor
      · rintro ⟨delivered,returned⟩
        rw [if_pos started] at delivered
        exact ⟨delivered,by simpa [started,none] using returned⟩
      · rintro ⟨delivered,returned⟩
        exact ⟨by rw [if_pos started,delivered],by simpa [started,none] using returned⟩
  · obtain ⟨lost,result⟩ := execute_unstarted dirty started
    rw [result]
    refine iff_of_true ⟨?_,?_⟩ (fun here => absurd here started)
    · rw [if_neg started]
    · simp [started]

/-! ## A name that is not there -/

/-- Somebody has a name, and nobody has one. -/
def twoNames : Calls (fun _ : Fin 1 => .string) where
  rows := [⟨.done,fun _ => some (ascii "amy"),fun _ => .done⟩,⟨.done,fun _ => none,fun _ => .done⟩]

/-- The row without a name is seen with the name of the row before. -/
theorem name_delivered_twice :
    ¬ (∀ (n : Nat) (types : Fin n → OutType) (calls : Calls types) (dirty : (i : Fin n) → (types i).Receiver),
      calls.Delivers (calls.execute dirty)) ∧
    (twoNames.execute (fun _ => (0 : Nat))).delivered.map (fun outputs => outputs 0) = [ascii "amy",ascii "amy"] := by
  have seen : (twoNames.execute (fun _ => (0 : Nat))).delivered.map (fun outputs => outputs 0) =
      [ascii "amy",ascii "amy"] := by decide
  refine ⟨fun always => ?_,seen⟩
  have delivered := (always 1 _ twoNames (fun _ => (0 : Nat))).delivered
  rw [delivered] at seen
  revert seen
  decide

end Calls

/-! ## The calls as one -/

section Connection

variable {types : Fin n → OutType}

/-- What the calls come to for the connection. -/
def Outcome.answer (outcome : Outcome types) : Answer :=
  if outcome.lost then .lost else if outcome.returned = some true then .done else .failed

/-- Nobody is told of success where the connection was found lost. -/
theorem Calls.lost_not_returned (calls : Calls types) (binds : Binds types)
    (lost : (calls.internalBindAndExecute binds).lost = true) :
    (calls.internalBindAndExecute binds).returned ≠ some true := by
  have rows (rows : List (Row types)) (binds : Binds types) (lost : (fetchRows calls.atEnd rows binds).lost = true) :
      (fetchRows calls.atEnd rows binds).returned ≠ some true := by
    induction rows generalizing binds with
    | nil => cases atEnd : calls.atEnd <;> simp_all [fetchRows,ended]
    | cons row rest ih =>
      unfold fetchRows at lost ⊢
      split at lost
      · cases answer : row.fetch <;> simp_all [ended]
      · rename_i fetched
        rw [if_neg fetched]
        split at lost
        · simp [failed]
        · exact ih _ lost
  unfold internalBindAndExecute at lost ⊢
  split at lost
  · rename_i bound
    simp [bound,failed]
  · split at lost
    · rename_i bound stored
      simp [bound,stored,failed]
    · split at lost
      · cases lost
      · rename_i bound stored some
        rw [if_neg bound,if_neg stored,if_neg some]
        exact rows _ _ lost

/-- In a session that is up, the calls do to the statement what their answer as one does. -/
theorem internalBindAndExecute_answer {c : MySqlConn} {stmt : MySqlStmt} {session : Session Effect}
    (prepared : stmt.native = true) (native : c.getNative = some session) (up : session.alive = true)
    (calls : Calls types) (binds : Binds types) {success : Bool}
    (returned : (calls.internalBindAndExecute binds).returned = some success) (effect : Effect) (run : Execution) :
    let result := stmt.internalBindAndExecute c effect
      { run with answer := (calls.internalBindAndExecute binds).answer }
    result.2.2.2 = success ∧ result.2.1.native = !(calls.internalBindAndExecute binds).lost := by
  have untold := calls.lost_not_returned binds
  simp only [MySqlStmt.internalBindAndExecute,prepared,native,Session.answers,up,if_true,Outcome.answer,returned]
  cases lost : (calls.internalBindAndExecute binds).lost with
  | true =>
    have unsuccessful : success = false := by
      have other := untold lost
      rw [returned] at other
      cases success with
      | false => rfl
      | true => exact absurd rfl other
    simp [unsuccessful]
  | false => cases success <;> simp [prepared]

end Connection

end MiniPP.Database
