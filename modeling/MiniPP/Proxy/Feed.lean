import MiniPP.Lib.Lines
import MiniPP.Proxy.Callbacks

/-! How the bytes of a client reach `OnData`, and what a CONNECT head is to it: a sequence
of lines, of which it handles as many as are complete. -/
namespace MiniPP.Proxy

/-! ## The stream -/

/-- A connection with the bytes that were presented and not consumed. -/
structure Stream where
  conn : ClientConnection
  pending : Bytes := []
  effects : List Effect := []
  invalid : Bool := false
  deriving DecidableEq, Repr

def Effect.key : Effect → Option Bytes
  | .requestAuth key => some key
  | _ => none

/-- A new connection, of which nothing was read. -/
def newStream (id : Nat) (ip : Bytes) : Stream := { conn := { connectionId := id, remoteIp := ip } }

/-- `OnData` is called again as long as it consumes bytes and reading is not suspended. -/
def pump (cfg : Config) : Nat → Stream → Stream
  | 0, s => s
  | fuel + 1, s =>
    if s.pending = [] ∨ s.conn.readingSuspended = true ∨ s.invalid = true then s
    else
      let reading := onData cfg s.conn s.pending
      let s := { s with conn := reading.conn, effects := s.effects ++ reading.effects }
      match reading.consumed with
      | none => { s with invalid := true }
      | some 0 => s
      | some (n + 1) => pump cfg fuel { s with pending := s.pending.drop (n + 1) }

/-- What was not consumed is presented again, in front of what arrives. -/
def receive (cfg : Config) (s : Stream) (chunk : Bytes) : Stream :=
  if chunk = [] then s
  else pump cfg ((s.pending ++ chunk).length + 1) { s with pending := s.pending ++ chunk }

def feed (cfg : Config) (s : Stream) (chunks : List Bytes) : Stream := chunks.foldl (receive cfg) s

theorem feed_append (cfg : Config) (s : Stream) (chunks more : List Bytes) :
    feed cfg s (chunks ++ more) = feed cfg (feed cfg s chunks) more := List.foldl_append

/-- Empty chunks do not matter. -/
theorem feed_filter (cfg : Config) (s : Stream) (chunks : List Bytes) :
    feed cfg s (chunks.filter (· ≠ [])) = feed cfg s chunks := by
  induction chunks generalizing s with
  | nil => rfl
  | cons chunk chunks ih =>
    by_cases empty : chunk = []
    · subst empty
      simpa [feed,receive] using ih s
    · simpa [feed,empty] using ih (receive cfg s chunk)

/-! ## Lines of a CONNECT head -/

theorem findCrlf_eq (data : Bytes) : findCrlf data = Lines.find cr lf data := by
  induction data with
  | nil => rfl
  | cons a data ih =>
    cases data with
    | nil => rfl
    | cons b data => simp only [findCrlf,Lines.find,ih]

theorem cr_ne_lf : cr ≠ lf := by decide

/-- Only the bytes of the text are compared. -/
theorem startsWithCI_append {text data : Bytes} (long : text.length ≤ data.length) (rest : Bytes) :
    startsWithCI text (data ++ rest) = startsWithCI text data := by
  have longer : text.length ≤ (data ++ rest).length := by
    rw [List.length_append]; omega
  simp only [startsWithCI,ge_iff_le,long,longer,decide_true,Bool.true_and,
    List.take_append_of_le_length long]

/-- The text is not found across a byte that it does not have. -/
theorem startsWithCI_stop {text data : Bytes} {b : UInt8} (short : data.length < text.length)
    (foreign : toLower b ∉ text.map toLower) (rest : Bytes) :
    startsWithCI text (data ++ b :: rest) = false := by
  by_contra found
  simp only [startsWithCI,Bool.not_eq_false,Bool.and_eq_true,beq_iff_eq] at found
  refine foreign (found.2 ▸ List.mem_map_of_mem ?_)
  rw [List.take_append]
  obtain ⟨k,more⟩ := Nat.exists_eq_add_of_lt short
  rw [more,show data.length + k + 1 - data.length = k + 1 by omega]
  simp

def isCredentials (line : Bytes) : Bool := 21 < line.length && startsWithCI proxyAuthorization line

/-- Fewer than six bytes follow the name of the field. -/
def isMalformed (line : Bytes) : Bool := isCredentials line && line.length < 27

def credentials (cfg : Config) (line : Bytes) : Bytes := cfg.xel.base64Decode (line.drop 27)

/-- The credentials after the line, given those before it. -/
def nextCredentials (cfg : Config) (authNamePass line : Bytes) : Bytes :=
  if isCredentials line then credentials cfg line else authNamePass

/-- `OnHttpRawChallenge` on complete lines. -/
def rawLines (cfg : Config) (c : ClientConnection) : List Bytes → Bytes → Nat → Reading
  | [], _, consumedSize => ⟨c,[],some consumedSize⟩
  | line :: lines, authNamePass, consumedSize =>
    if line = [] then
      if authNamePass = [] then ⟨c,[.postData http407Response,.lingerKill],some 0⟩
      else
        ⟨{ c with readingSuspended := true, phase := .httpRawWaitForAccountExchange },
          [.requestAuth authNamePass],some (consumedSize + 2)⟩
    else if isMalformed line then ⟨c,[.kill],some 0⟩
    else rawLines cfg c lines (nextCredentials cfg authNamePass line) (consumedSize + (line.length + 2))

theorem rawLoop_line (cfg : Config) (c : ClientConnection) (fuel : Nat) {line : Bytes}
    (free : Lines.Free cr lf line) (filled : line ≠ []) (rest authNamePass : Bytes) (n : Nat) :
    rawLoop cfg c (fuel + 1) (line ++ cr :: lf :: rest) authNamePass n =
      if isMalformed line then ⟨c,[.kill],some 0⟩
      else rawLoop cfg c fuel rest (nextCredentials cfg authNamePass line) (n + (line.length + 2)) := by
  obtain ⟨k,length⟩ : ∃ k, line.length = k + 1 := Nat.exists_eq_succ_of_ne_zero (by simpa using filled)
  have ends : findCrlf (line ++ cr :: lf :: rest) = some (k + 1) := by
    rw [findCrlf_eq,Lines.find_append cr_ne_lf free,length]
  have rest_ : (line ++ cr :: lf :: rest).drop (k + 1 + 2) = rest := by
    rw [← length,Lines.drop_line]
  rw [rawLoop,ends]
  simp only [rest_]
  rw [← length]
  by_cases long : 21 < line.length
  · have name : startsWithCI proxyAuthorization (line ++ cr :: lf :: rest) =
        startsWithCI proxyAuthorization line :=
      startsWithCI_append (Nat.le_trans (by decide) (Nat.le_of_lt long)) _
    have auth : (line ++ cr :: lf :: rest).drop 21 = line.drop 21 ++ cr :: lf :: rest :=
      List.drop_append_of_le_length (Nat.le_of_lt long)
    simp only [name,auth,isMalformed,nextCredentials,isCredentials,long,decide_true,Bool.true_and]
    by_cases named : startsWithCI proxyAuthorization line = true
    · simp only [named,if_true,Bool.true_and]
      by_cases short : line.length < 27
      · have cut : (line.drop 21).length < (ascii "Basic ").length := by
          rw [List.length_drop]
          exact Nat.sub_lt_left_of_lt_add (Nat.le_of_lt long) short
        have stop := startsWithCI_stop cut (by decide : toLower cr ∉ _) (lf :: rest)
        have few : line.length - 21 < 6 := by omega
        simp [stop,few,short]
      · have few : ¬ line.length - 21 < 6 := by omega
        have size : sub64 (line.length - 21) 6 = line.length - 27 := by
          rw [sub64_of_le (by omega)]; omega
        have value : ((line.drop 21 ++ cr :: lf :: rest).drop 6).take (line.length - 27) =
            line.drop 27 := by
          rw [List.drop_append_of_le_length (by rw [List.length_drop]; omega),List.drop_drop]
          exact List.take_left' (by rw [List.length_drop])
        simp [few,short,size,value,credentials]
    · simp [named]
  · simp [long,isMalformed,isCredentials,nextCredentials]

theorem rawLoop_lines (cfg : Config) (c : ClientConnection) {view tail : Bytes} {lines : List Bytes}
    (split : Lines.Split cr lf view lines tail) (authNamePass : Bytes) (n : Nat) {fuel : Nat}
    (enough : view.length < fuel) :
    rawLoop cfg c fuel view authNamePass n = rawLines cfg c lines authNamePass n := by
  induction lines generalizing view authNamePass n fuel with
  | nil =>
    obtain rfl : view = tail := split.bytes
    have ends : findCrlf view = none := (findCrlf_eq view).trans split.unfinished
    obtain ⟨fuel,rfl⟩ := Nat.exists_eq_succ_of_ne_zero (Nat.ne_zero_of_lt enough)
    simp only [rawLoop,ends,rawLines]
  | cons line lines ih =>
    obtain ⟨free,bytes,later⟩ := split.uncons
    obtain ⟨fuel,rfl⟩ := Nat.exists_eq_succ_of_ne_zero (Nat.ne_zero_of_lt enough)
    have shorter : (Lines.join cr lf lines ++ tail).length < fuel := by
      rw [bytes,Lines.length_line] at enough
      omega
    rw [bytes,rawLines]
    by_cases blank : line = []
    · subst blank
      have ends : findCrlf ([] ++ cr :: lf :: (Lines.join cr lf lines ++ tail)) = some 0 := rfl
      rw [rawLoop,ends,if_pos rfl]
      rfl
    · rw [rawLoop_line cfg c fuel free blank,if_neg blank,ih later _ _ shorter]

def lastCredentials (cfg : Config) (lines : List Bytes) : Bytes := lines.foldl (nextCredentials cfg) []

/-- A line that the handler just takes note of. -/
def Plain (line : Bytes) : Prop := line ≠ [] ∧ isMalformed line = false

theorem rawLines_plain (cfg : Config) (c : ClientConnection) {lines : List Bytes} (plain : ∀ line ∈ lines, Plain line)
    (more : List Bytes) (np : Bytes) (n : Nat) :
    rawLines cfg c (lines ++ more) np n =
      rawLines cfg c more (lines.foldl (nextCredentials cfg) np) (n + (Lines.join cr lf lines).length) := by
  induction lines generalizing np n with
  | nil => simp
  | cons line lines ih =>
    obtain ⟨filled,formed⟩ := plain line (by simp)
    simp only [List.cons_append,rawLines,if_neg filled,formed,Bool.false_eq_true,if_false]
    rw [ih (fun other member => plain other (by simp [member])),Lines.join_cons,List.foldl_cons]
    congr 1
    simp only [List.length_append,List.length_cons]
    omega

theorem rawLines_bad (cfg : Config) (c : ClientConnection) {lines : List Bytes} (plain : ∀ line ∈ lines, Plain line)
    {bad : Bytes} (filled : bad ≠ []) (malformed : isMalformed bad = true) (more : List Bytes)
    (np : Bytes) (n : Nat) :
    rawLines cfg c (lines ++ bad :: more) np n = ⟨c,[.kill],some 0⟩ := by
  rw [rawLines_plain cfg c plain]
  simp [rawLines,filled,malformed]

theorem isCredentials_nil : isCredentials [] = false := rfl

/-- The first malformed line of some, if there is one. -/
theorem plain_or_bad {lines : List Bytes} (filled : ∀ line ∈ lines, line ≠ []) :
    (∀ line ∈ lines, Plain line) ∨ ∃ pre bad more, lines = pre ++ bad :: more ∧
      (∀ line ∈ pre, Plain line) ∧ bad ≠ [] ∧ isMalformed bad = true := by
  cases found : lines.find? isMalformed with
  | none =>
    left
    intro line member
    exact ⟨filled line member,by simpa using List.find?_eq_none.mp found line member⟩
  | some bad =>
    right
    obtain ⟨malformed,pre,more,rfl,formed⟩ := List.find?_eq_some_iff_append.mp found
    refine ⟨pre,bad,more,rfl,fun line member => ⟨filled line (by simp [member]),?_⟩,
      filled bad (by simp),malformed⟩
    simpa using formed line member

/-! ## Calls -/

/-- A call that consumes nothing is the last one. -/
theorem pump_stop {cfg : Config} {s : Stream} {fuel : Nat} (present : s.pending ≠ [])
    (reading : s.conn.readingSuspended = false) (valid : s.invalid = false)
    (stops : (onData cfg s.conn s.pending).consumed = some 0) :
    pump cfg (fuel + 1) s =
      { s with
        conn := (onData cfg s.conn s.pending).conn
        effects := s.effects ++ (onData cfg s.conn s.pending).effects } := by
  simp only [pump,present,reading,valid,stops,Bool.false_eq_true,or_self,if_false]

theorem pump_more {cfg : Config} {s : Stream} {fuel n : Nat} (present : s.pending ≠ [])
    (reading : s.conn.readingSuspended = false) (valid : s.invalid = false)
    (consumes : (onData cfg s.conn s.pending).consumed = some (n + 1)) :
    pump cfg (fuel + 1) s = pump cfg fuel
      { s with
        conn := (onData cfg s.conn s.pending).conn
        effects := s.effects ++ (onData cfg s.conn s.pending).effects
        pending := s.pending.drop (n + 1) } := by
  simp only [pump,present,reading,valid,consumes,Bool.false_eq_true,or_self,if_false]

theorem pump_nil {cfg : Config} {s : Stream} (none : s.pending = []) (fuel : Nat) : pump cfg fuel s = s := by
  cases fuel <;> simp [pump,none]

/-- More fuel than bytes makes no difference. -/
theorem pump_fuel {cfg : Config} {s : Stream} {fuel fuel' : Nat} (enough : s.pending.length < fuel)
    (enough' : s.pending.length < fuel') : pump cfg fuel s = pump cfg fuel' s := by
  induction fuel generalizing s fuel' with
  | zero => simp at enough
  | succ fuel ih =>
    obtain ⟨fuel',rfl⟩ := Nat.exists_eq_succ_of_ne_zero (Nat.ne_zero_of_lt enough')
    simp only [pump]
    split
    · rfl
    · rename_i going
      split
      · rfl
      · rfl
      · rename_i n consumed
        have present : 0 < s.pending.length :=
          List.length_pos_iff.mpr (not_or.mp going).1
        apply ih
        · rw [List.length_drop]; omega
        · rw [List.length_drop]; omega

/-- Nothing happens as long as the first line is not complete. -/
theorem pump_waiting {cfg : Config} {line rest later : Bytes} (free : Lines.Free cr lf line)
    (other : ∀ view, (line ++ view).getD 0 0 ≠ 0x05) {s : Stream} (phase : s.conn.phase = .unknown)
    (whole : s.pending ++ rest = line ++ cr :: lf :: later)
    (short : s.pending.length < line.length + 2) (fuel : Nat) : pump cfg fuel s = s := by
  by_cases present : s.pending = []
  · exact pump_nil present fuel
  · cases fuel with
    | zero => rfl
    | succ fuel =>
      have part : s.pending <+: line ++ [cr] := by
        have front : line ++ [cr] <+: line ++ cr :: lf :: later := ⟨lf :: later,by simp⟩
        refine List.prefix_of_prefix_length_le ⟨rest,whole⟩ front ?_
        simp only [List.length_append,List.length_singleton]
        omega
      have unfinished : findCrlf s.pending = none := by
        obtain ⟨more,same⟩ := part
        rw [findCrlf_eq]
        exact Lines.Free.left (same ▸ free.concat cr_ne_lf)
      have handled : onData cfg s.conn s.pending = ⟨s.conn,[],some 0⟩ := by
        simp only [onData,phase,onChallenge]
        split
        · rfl
        · have greeting : s.pending.getD 0 0 ≠ 0x05 := by
            have first := other (cr :: lf :: later)
            rw [← whole] at first
            obtain ⟨b,list,split⟩ := List.exists_cons_of_ne_nil present
            simpa [split] using first
          simp only [if_neg greeting,onHttpChallenge,unfinished]
      by_cases stopped : s.conn.readingSuspended = true ∨ s.invalid = true
      · simp [pump,stopped]
      · simp only [not_or,Bool.not_eq_true] at stopped
        rw [pump_stop present stopped.1 stopped.2 (by rw [handled]),handled]
        simp

/-! ## Lines of a head in forward mode -/

/-- `OnHttpNormalChallenge` on complete lines, and the unfinished one behind them. -/
def normalLines (cfg : Config) (size : Nat) (tail : Bytes) :
    ClientConnection → List Bytes → Nat → Reading
  | c, [], _ =>
    ⟨{ c with http := { c.http with httpHeaderLine := c.http.httpHeaderLine ++ tail } },[],some size⟩
  | c, line :: lines, consumedSize =>
    if line = [] ∧ c.http.httpHeaderLine = [] then
      let c := { c with http := { c.http with
        rebuiltHttpHeader := c.http.rebuiltHttpHeader ++ crlf } }
      if c.http.authNamePass = [] then
        ⟨c,[.postData http407Response,.lingerKill],some (consumedSize + 2)⟩
      else
        ⟨{ c with readingSuspended := true, phase := .httpNormalWaitForAccountExchange },
          [.requestAuth c.http.authNamePass],some (consumedSize + 2)⟩
    else
      let http := { c.http with httpHeaderLine := c.http.httpHeaderLine ++ line }
      match processLine cfg http line.length with
      | .invalid => ⟨{ c with http },[.kill],some 0⟩
      | .outOfBounds => ⟨{ c with http },[.readOutOfBounds],some 0⟩
      | .next http =>
        normalLines cfg size tail { c with http := { http with httpHeaderLine := [] } } lines
          (consumedSize + (line.length + 2))

theorem normalLoop_lines (cfg : Config) (size : Nat) (c : ClientConnection) {view tail : Bytes}
    {lines : List Bytes} (split : Lines.Split cr lf view lines tail) (n : Nat) {fuel : Nat}
    (enough : view.length < fuel) :
    normalLoop cfg size fuel c view n = normalLines cfg size tail c lines n := by
  induction lines generalizing c view n fuel with
  | nil =>
    obtain rfl : view = tail := split.bytes
    have ends : findCrlf view = none := (findCrlf_eq view).trans split.unfinished
    obtain ⟨fuel,rfl⟩ := Nat.exists_eq_succ_of_ne_zero (Nat.ne_zero_of_lt enough)
    simp only [normalLoop,ends,normalLines]
  | cons line lines ih =>
    obtain ⟨free,bytes,later⟩ := split.uncons
    obtain ⟨fuel,rfl⟩ := Nat.exists_eq_succ_of_ne_zero (Nat.ne_zero_of_lt enough)
    have shorter : (Lines.join cr lf lines ++ tail).length < fuel := by
      rw [bytes,Lines.length_line] at enough
      omega
    have ends : findCrlf view = some line.length := by
      rw [findCrlf_eq,bytes,Lines.find_append cr_ne_lf free]
    have here : view.take line.length = line := by rw [bytes,List.take_left]
    have rest : view.drop (line.length + 2) = Lines.join cr lf lines ++ tail := by
      rw [bytes,Lines.drop_line]
    rw [normalLoop,ends,normalLines]
    simp only [here,rest,List.length_eq_zero_iff]
    by_cases blank : line = [] ∧ c.http.httpHeaderLine = []
    · rw [if_pos blank,if_pos blank]
    · rw [if_neg blank,if_neg blank]
      cases processLine cfg { c.http with httpHeaderLine := c.http.httpHeaderLine ++ line } line.length with
      | invalid => rfl
      | outOfBounds => rfl
      | next http => exact ih _ later _ shorter

end MiniPP.Proxy
