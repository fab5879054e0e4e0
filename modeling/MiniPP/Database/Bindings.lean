import MiniPP.Lib.Session
import MiniPP.Xel
import Mathlib.Data.BitVec

/-! What the columns of a result are bound to. The client library writes a receiver, and a fetcher
makes the output from it; for NULL the library writes nothing. -/
namespace MiniPP.Database

/-! ## Outputs -/

/-- The fields of a `MYSQL_TIME` that are looked at. -/
structure MySqlTime where
  year : Nat
  month : Nat
  day : Nat
  hour : Nat
  minute : Nat
  second : Nat
  deriving DecidableEq, Repr

/-- The days from the start of 1970 to the start of a month, which counts from 0. -/
def daysBefore (year month : Int) : Int :=
  -- the years of this count begin in March
  let y := if month < 2 then year - 1 else year
  let era := y / 400
  let yearOfEra := y - era * 400
  let dayOfYear := (153 * ((month + 10) % 12) + 2) / 5
  era * 146097 + yearOfEra * 365 + yearOfEra / 4 - yearOfEra / 100 + dayOfYear - 719468

/-- The fields of a `tm` may be out of their ranges. -/
def timegm (tmYear tmMon tmMday tmHour tmMin tmSec : Int) : Int :=
  let days := daysBefore (tmYear + 1900 + tmMon / 12) (tmMon % 12) + tmMday - 1
  ((days * 24 + tmHour) * 60 + tmMin) * 60 + tmSec

def MySqlTime.extractTimestamp (t : MySqlTime) : Int :=
  timegm (t.year - 1900) (t.month - 1) t.day t.hour t.minute t.second

example : (⟨2024,2,29,12,30,15⟩ : MySqlTime).extractTimestamp = 1709209815 := by decide

inductive IntegralType where
  | bool
  | signed (width : Nat)
  | unsigned (width : Nat)
  deriving DecidableEq, Repr

/-- The cast of a `long long`. -/
def IntegralType.cast : IntegralType → BitVec 64 → Int
  | bool, ll => if ll = 0 then 0 else 1
  | signed width, ll => (ll.signExtend width).toInt
  | unsigned width, ll => (ll.signExtend width).toNat

inductive OutType where
  | integral (type : IntegralType)
  | timestamp
  | string
  deriving DecidableEq, Repr

namespace OutType

/-- What an output holds; of a timestamp its seconds. -/
abbrev Value : OutType → Type
  | integral _ | timestamp => Int
  | string => Bytes

/-- What a column holds that is not NULL. -/
abbrev Column : OutType → Type
  | integral _ => Int
  | timestamp => MySqlTime
  | string => Bytes

/-- What the library writes to; of a string that is its length only. -/
abbrev Receiver : OutType → Type
  | integral _ => BitVec 64
  | timestamp => MySqlTime
  | string => Nat

abbrev Cell (t : OutType) : Type := Option t.Column

def written : (t : OutType) → t.Column → t.Receiver
  | integral _, n => .ofInt 64 n
  | timestamp, time => time
  | string, data => data.length

/-- The value of a cell: NULL is zero, or empty. -/
def value : (t : OutType) → t.Cell → t.Value
  | integral _, cell => cell.getD 0
  | timestamp, cell => (cell.map MySqlTime.extractTimestamp).getD 0
  | string, cell => cell.getD []

instance decidableEqValue : (t : OutType) → DecidableEq t.Value
  | integral _ | timestamp => inferInstanceAs (DecidableEq Int)
  | string => inferInstanceAs (DecidableEq Bytes)

/-- A call for the bytes of a string that is not empty has to succeed. -/
def reads : (t : OutType) → t.Cell → Answer → Bool
  | string, some (_ :: _), answer => answer = .done
  | _, _, _ => true

end OutType

/-! ## A bound column -/

@[ext] structure OutBind (t : OutType) where
  target : t.Value
  receiver : t.Receiver

/-- `resize`, which fills up with zeros. -/
def resize (data : Bytes) (length : Nat) : Bytes :=
  data.take length ++ List.replicate (length - data.length) 0

theorem length_resize (data : Bytes) (length : Nat) : (resize data length).length = length := by
  simp only [resize,List.length_append,List.length_take,List.length_replicate]
  omega

namespace OutBind

/-- A receiver that is not set holds what was there before. -/
def setup : (t : OutType) → t.Receiver → OutBind t
  | .integral _, ll => ⟨(0 : Int),ll⟩
  | .timestamp, dummy => ⟨(0 : Int),dummy⟩
  | .string, _ => ⟨([] : Bytes),(0 : Nat)⟩

/-- What `mysql_stmt_fetch` does to a column. -/
def receive {t : OutType} (b : OutBind t) (cell : t.Cell) : OutBind t :=
  match cell with
  | none => b
  | some column => { b with receiver := t.written column }

/-- `FetchString`; `mysql_stmt_fetch_column` writes nothing for NULL, and otherwise what the buffer
has room for. -/
def fetchString (b : OutBind .string) (cell : OutType.string.Cell) (answer : Answer) :
    Option (OutBind .string) :=
  let length : Nat := b.receiver
  if length = 0 then some b
  else
    let target := resize b.target length
    if answer = .done then
      match cell with
      | none => some ⟨target,length⟩
      | some (data : Bytes) => some ⟨data.take length ++ target.drop data.length,length⟩
    else none

/-- The fetcher of a column, with what the library answers if it is asked. -/
def fetch : {t : OutType} → OutBind t → t.Cell → Answer → Option (OutBind t)
  | .integral type, b, _, _ => some ⟨type.cast b.receiver,b.receiver⟩
  | .timestamp, b, _, _ => some ⟨MySqlTime.extractTimestamp b.receiver,b.receiver⟩
  | .string, b, cell, answer => fetchString b cell answer

end OutBind

/-! ## What a column holds from row to row -/

/-- The receiver keeps the last column that is not NULL. -/
def held {t : OutType} (first : t.Receiver) (earlier : List t.Cell) : t.Receiver :=
  earlier.foldl (fun receiver cell => cell.elim receiver t.written) first

def Blank (cell : OutType.string.Cell) : Prop := cell.getD [] = ([] : Bytes)

instance decidableBlank (cell : OutType.string.Cell) : Decidable (Blank cell) :=
  inferInstanceAs (Decidable (cell.getD [] = ([] : Bytes)))

/-- What comes after the earlier cells is read as what it is: an integer fits its output, a receiver
that NULL leaves alone reads as zero, and no empty string or NULL comes after a string. -/
def Fresh : {t : OutType} → t.Receiver → List t.Cell → t.Cell → Prop
  | .integral type, _, _, some (n : Int) => type.cast (.ofInt 64 n) = n
  | .integral type, first, earlier, none => type.cast (held first earlier) = 0
  | .timestamp, _, _, some _ => True
  | .timestamp, first, earlier, none => MySqlTime.extractTimestamp (held first earlier) = 0
  | .string, _, earlier, cell => Blank cell → ∀ other ∈ earlier, Blank other

/-- The state of a bound column after the earlier cells. -/
def Tracks : {t : OutType} → t.Receiver → List t.Cell → OutBind t → Prop
  | .integral _, first, earlier, b => b.receiver = held first earlier
  | .timestamp, first, earlier, b => b.receiver = held first earlier
  | .string, _, earlier, b =>
    b.receiver = held (0 : Nat) earlier ∧ (b.target = [] ↔ ∀ other ∈ earlier, Blank other)

section Column

variable {t : OutType} {first : t.Receiver} {earlier : List t.Cell} {b b' : OutBind t} {cell : t.Cell}
  {answer : Answer}

theorem tracks_setup (t : OutType) (first : t.Receiver) : Tracks first [] (OutBind.setup t first) := by
  cases t with
  | integral type => rfl
  | timestamp => rfl
  | string => exact ⟨rfl,by simp [OutBind.setup]⟩

theorem held_append (first : t.Receiver) (earlier : List t.Cell) (cell : t.Cell) :
    held first (earlier ++ [cell]) = cell.elim (held first earlier) t.written := by
  simp [held,List.foldl_append]

theorem receive_receiver (b : OutBind t) (cell : t.Cell) :
    (b.receive cell).receiver = cell.elim b.receiver t.written := by cases cell <;> rfl

theorem receive_target (b : OutBind t) (cell : t.Cell) : (b.receive cell).target = b.target := by
  cases cell <;> rfl

end Column

/-! ## Strings -/

section String

variable {earlier : List OutType.string.Cell} {b b' : OutBind .string} {cell : OutType.string.Cell}
  {answer : Answer}

theorem blank_none : Blank none := rfl

theorem held_blank (blank : ∀ other ∈ earlier, Blank other) :
    held (t := .string) (0 : Nat) earlier = (0 : Nat) := by
  induction earlier using List.reverseRecOn with
  | nil => rfl
  | append_singleton earlier cell ih =>
    have before := ih (fun other member => blank other (by simp [member]))
    rw [held_append,before]
    cases cell with
    | none => rfl
    | some data =>
      have empty : data = [] := blank (some data) (by simp)
      subst empty
      rfl

theorem fetchString_short {b : OutBind .string} (short : b.receiver = (0 : Nat)) (cell : OutType.string.Cell)
    (answer : Answer) : b.fetchString cell answer = some b := if_pos short

theorem fetchString_refused {b : OutBind .string} (long : b.receiver ≠ (0 : Nat)) (cell : OutType.string.Cell)
    (refused : answer ≠ .done) : b.fetchString cell answer = none := by
  simp only [OutBind.fetchString,if_neg long,if_neg refused]

/-- The bytes of a string that is not empty replace the output. -/
theorem fetchString_data {data : Bytes} (b : OutBind .string) (nonempty : data ≠ []) :
    (b.receive (some data)).fetchString (some data) .done = some ⟨data,data.length⟩ := by
  have long : ¬ data.length = 0 := by simpa using nonempty
  have full := length_resize b.target data.length
  simp only [OutBind.fetchString,OutBind.receive,OutType.written,if_neg long,if_true,List.take_length]
  rw [List.drop_of_length_le (Nat.le_of_eq full),List.append_nil]

/-- A string that is there stays as long as its length was not zero, whatever NULL makes of it. -/
theorem fetchString_null {b' : OutBind .string} (target : b.target ≠ [])
    (fetched : b.fetchString none answer = some b') : b'.target ≠ [] := by
  by_cases short : b.receiver = (0 : Nat)
  · rw [fetchString_short short] at fetched
    rwa [← Option.some.inj fetched]
  · simp only [OutBind.fetchString,if_neg short] at fetched
    split at fetched
    · obtain rfl := Option.some.inj fetched
      intro empty
      have none : (resize b.target b.receiver).length = 0 := congrArg List.length empty
      rw [length_resize] at none
      exact short none
    · cases fetched

theorem blank_append : (∀ other ∈ earlier ++ [cell], Blank other) ↔
    (∀ other ∈ earlier, Blank other) ∧ Blank cell := by
  simp only [List.mem_append,List.mem_singleton,or_imp,forall_and,forall_eq]

theorem string_fresh {first : OutType.string.Receiver} {b : OutBind .string} (tracks : Tracks first earlier b)
    (read : OutType.string.reads cell answer = true) (fresh : Fresh first earlier cell) :
    ∃ b' : OutBind .string, (b.receive cell).fetchString cell answer = some b' ∧
      b'.target = OutType.string.value cell ∧ Tracks first (earlier ++ [cell]) b' := by
  obtain ⟨receiver,empty⟩ := tracks
  -- nothing but empty strings and NULL so far, so that the length is zero
  have blank_case (blank : Blank cell) (short : (b.receive cell).receiver = (0 : Nat)) :
      ∃ b' : OutBind .string, (b.receive cell).fetchString cell answer = some b' ∧
        b'.target = OutType.string.value cell ∧ Tracks first (earlier ++ [cell]) b' := by
    have all : ∀ other ∈ earlier ++ [cell], Blank other := blank_append.mpr ⟨fresh blank,blank⟩
    have target : (b.receive cell).target = [] := (receive_target b cell).trans (empty.mpr (fresh blank))
    refine ⟨_,fetchString_short short cell answer,target.trans blank.symm,?_,?_⟩
    · exact short.trans (held_blank all).symm
    · exact iff_of_true target all
  match cell with
  | none =>
    apply blank_case blank_none
    exact receiver.trans (held_blank (fresh blank_none))
  | some [] => exact blank_case rfl rfl
  | some (x :: data) =>
    have done : answer = .done := of_decide_eq_true read
    subst done
    refine ⟨_,fetchString_data b (List.cons_ne_nil x data),rfl,?_,?_⟩
    · rw [held_append]
      rfl
    · apply iff_of_false (List.cons_ne_nil x data)
      exact fun all => List.cons_ne_nil x data (all (some (x :: data)) (by simp))

theorem string_stale {first : OutType.string.Receiver} {b b' : OutBind .string}
    (tracks : Tracks first earlier b) (stale : ¬ Fresh first earlier cell)
    (fetched : (b.receive cell).fetchString cell answer = some b') :
    b'.target ≠ OutType.string.value cell := by
  obtain ⟨blank,some_left⟩ := Classical.not_imp.mp stale
  have target : b.target ≠ [] := fun none => some_left (tracks.2.mp none)
  rw [show OutType.string.value cell = [] from blank]
  cases cell with
  | none => exact fetchString_null target fetched
  | some data =>
    have none : data = [] := blank
    subst none
    rw [fetchString_short rfl] at fetched
    rwa [← Option.some.inj fetched]

end String

/-! ## One column of one row -/

section Column

variable {t : OutType} {first : t.Receiver} {earlier : List t.Cell} {b b' : OutBind t} {cell : t.Cell}
  {answer : Answer}

/-- A string that cannot be read fails the fetcher. -/
theorem fetch_unread (unread : t.reads cell answer = false) : (b.receive cell).fetch cell answer = none := by
  match t,cell with
  | .integral _,_ => cases unread
  | .timestamp,_ => cases unread
  | .string,none => cases unread
  | .string,some [] => cases unread
  | .string,some (x :: data) =>
    have refused : answer ≠ .done := of_decide_eq_false unread
    have long : (b.receive (some (x :: data))).receiver ≠ (0 : Nat) := Nat.succ_ne_zero data.length
    exact fetchString_refused long (some (x :: data)) refused

/-- A column that is fresh gives its value. -/
theorem fetch_fresh (tracks : Tracks first earlier b) (read : t.reads cell answer = true)
    (fresh : Fresh first earlier cell) : ∃ b', (b.receive cell).fetch cell answer = some b' ∧
      b'.target = t.value cell ∧ Tracks first (earlier ++ [cell]) b' := by
  cases t with
  | integral type =>
    have receiver : (b.receive cell).receiver = held first (earlier ++ [cell]) := by
      rw [receive_receiver,held_append,show b.receiver = held first earlier from tracks]
    refine ⟨_,rfl,?_,receiver⟩
    cases cell with
    | none => exact (congrArg type.cast tracks).trans fresh
    | some n => exact fresh
  | timestamp =>
    have receiver : (b.receive cell).receiver = held first (earlier ++ [cell]) := by
      rw [receive_receiver,held_append,show b.receiver = held first earlier from tracks]
    refine ⟨_,rfl,?_,receiver⟩
    cases cell with
    | none => exact (congrArg MySqlTime.extractTimestamp tracks).trans fresh
    | some time => rfl
  | string => exact string_fresh tracks read fresh

/-- A column that is not fresh never does. -/
theorem fetch_stale (tracks : Tracks first earlier b) (stale : ¬ Fresh first earlier cell)
    (fetched : (b.receive cell).fetch cell answer = some b') : b'.target ≠ t.value cell := by
  cases t with
  | integral type =>
    obtain rfl := Option.some.inj fetched
    cases cell with
    | none => exact fun same => stale ((congrArg type.cast tracks).symm.trans same)
    | some n => exact stale
  | timestamp =>
    obtain rfl := Option.some.inj fetched
    cases cell with
    | none => exact fun same => stale ((congrArg MySqlTime.extractTimestamp tracks).symm.trans same)
    | some time => exact absurd trivial stale
  | string => exact string_stale tracks stale fetched

end Column

end MiniPP.Database
