import Mathlib.Data.List.Induction
import MiniPP.Proxy.Feed
import MiniPP.Proxy.Targets

/-! A head in forward mode that arrives in pieces. The handler keeps the line that it has not
read to its end, but takes its length and its ending from the present piece alone. -/
namespace MiniPP.Proxy

variable {cfg : Config}

/-! ## One line -/

/-- Two texts that the same bytes start with do not differ. -/
theorem startsWithCI_differ {text other data : Bytes} {i : Nat} {t u : UInt8}
    (starts : startsWithCI text data = true) (here : text[i]? = some t) (there : other[i]? = some u)
    (apart : toLower t ≠ toLower u) : startsWithCI other data = false := by
  rw [Bool.eq_false_iff]
  intro starts'
  obtain ⟨b,found,same⟩ := startsWithCI_getElem starts here
  obtain ⟨b',found',same'⟩ := startsWithCI_getElem starts' there
  obtain rfl := Option.some.inj (found.symm.trans found')
  exact apart (same.symm.trans same')

theorem isCredentials_iff {line : Bytes} :
    isCredentials line = true ↔ 21 < line.length ∧ startsWithCI proxyAuthorization line = true := by
  simp [isCredentials]

/-- A line of credentials is none of the other two kinds. -/
theorem credentials_only {line : Bytes} (starts : startsWithCI proxyAuthorization line = true) :
    startsWithCI (ascii "Proxy-Connection: ") line = false ∧ startsWithCI (ascii "Connection: ") line = false := by
  constructor
  · exact startsWithCI_differ (i := 6) (t := 65) (u := 67) starts (by decide) (by decide) (by decide)
  · exact startsWithCI_differ (i := 0) (t := 80) (u := 67) starts (by decide) (by decide) (by decide)

theorem processLine_credentials {http : Http} {line : Bytes} (named : isCredentials line = true) :
    processLine cfg { http with httpHeaderLine := line } line.length =
      if isMalformed line then .invalid
      else .next { http with httpHeaderLine := line, authNamePass := credentials cfg line } := by
  obtain ⟨long,starts⟩ := isCredentials_iff.mp named
  obtain ⟨proxy,plain⟩ := credentials_only starts
  have size : sub64 line.length 21 = line.length - 21 := sub64_of_le (Nat.le_of_lt long)
  have bad : isMalformed line = decide (line.length < 27) := by simp [isMalformed,named]
  simp only [processLine,proxy,plain,starts,long,decide_true,Bool.and_false,Bool.and_true,
    Bool.false_eq_true,if_false,if_true,size,bad]
  by_cases short : line.length < 27
  · have few : line.length - 21 < 6 := by omega
    have stop : startsWithCI (ascii "Basic ") (line.drop 21) = false := by
      have longer : ¬ (line.drop 21).length ≥ (ascii "Basic ").length := by
        rw [List.length_drop]
        exact Nat.not_le.mpr few
      rw [startsWithCI,decide_eq_false longer,Bool.false_and]
    simp [few,stop,short]
  · have few : ¬ line.length - 21 < 6 := by omega
    have rest : sub64 (line.length - 21) 6 = line.length - 27 := by
      rw [sub64_of_le (by omega)]; omega
    have drop : (line.drop 21).drop 6 = line.drop 27 := List.drop_drop
    have inside : line.length - 27 ≤ (line.drop 27).length + 1 := by
      rw [List.length_drop]; omega
    have value : ((line.drop 21 ++ [0]).drop 6).take (line.length - 27) = line.drop 27 := by
      rw [List.drop_append_of_le_length (by rw [List.length_drop]; omega),drop]
      exact List.take_left' (by rw [List.length_drop])
    simp only [few,decide_false,Bool.false_and,Bool.false_eq_true,if_false,rest,drop,inside,if_true,
      value,short,credentials]

/-- Of other lines, the size of the last part does not matter. -/
theorem processLine_size {http : Http} {line : Bytes} (other : isCredentials line = false) (n m : Nat) :
    processLine cfg { http with httpHeaderLine := line } n =
      processLine cfg { http with httpHeaderLine := line } m := by
  have unnamed : (21 < line.length && startsWithCI proxyAuthorization line) = false := other
  simp only [processLine,unnamed,Bool.false_eq_true,if_false]

theorem processLine_other (cfg : Config) (http : Http) {line : Bytes} (other : isCredentials line = false) (n : Nat) :
    ∃ rebuilt left, processLine cfg { http with httpHeaderLine := line } n = .next
      { http with
        httpHeaderLine := line
        rebuiltHttpHeader := rebuilt
        contentLengthLeft := left } := by
  have unnamed : (21 < line.length && startsWithCI proxyAuthorization line) = false := other
  simp only [processLine,unnamed,Bool.false_eq_true,if_false]
  split
  · exact ⟨_,_,rfl⟩
  · split
    · exact ⟨_,_,rfl⟩
    · split
      · exact ⟨_,_,rfl⟩
      · exact ⟨_,_,rfl⟩

/-- What a complete line leaves in the fields of the header. -/
def absorb (cfg : Config) (http : Http) (line : Bytes) : Http :=
  match processLine cfg { http with httpHeaderLine := line } line.length with
  | .next http => { http with httpHeaderLine := [] }
  | _ => { http with httpHeaderLine := [] }

theorem processLine_next (cfg : Config) (http : Http) {line : Bytes} (formed : isMalformed line = false) {n : Nat}
    (size : isCredentials line = true → n = line.length) :
    ∃ http', processLine cfg { http with httpHeaderLine := line } n = .next http' ∧
      { http' with httpHeaderLine := [] } = absorb cfg http line ∧
      (absorb cfg http line).authNamePass = nextCredentials cfg http.authNamePass line := by
  cases named : isCredentials line with
  | true =>
    have handled : processLine cfg { http with httpHeaderLine := line } line.length = .next
        { http with httpHeaderLine := line, authNamePass := credentials cfg line } := by
      rw [processLine_credentials named,formed]
      rfl
    rw [size named,absorb,handled]
    exact ⟨_,rfl,rfl,by simp [nextCredentials,named]⟩
  | false =>
    obtain ⟨rebuilt,left,handled⟩ := processLine_other cfg http named line.length
    rw [processLine_size named n line.length,absorb,handled]
    exact ⟨_,rfl,rfl,by simp [nextCredentials,named]⟩

/-- The blank line only ends the header. -/
theorem absorb_nil {http : Http} (clear : http.httpHeaderLine = []) :
    absorb cfg http [] = { http with rebuiltHttpHeader := http.rebuiltHttpHeader ++ crlf } := by
  cases http
  obtain rfl := clear
  simp [absorb,processLine,startsWithCI]

/-! ## Lines in one call -/

/-- The lines up to the blank one that ends a header with credentials. -/
def reached (cfg : Config) : Bytes → List Bytes → List Bytes
  | _, [] => []
  | authNamePass, line :: lines =>
    if line = [] ∧ authNamePass ≠ [] then [line]
    else line :: reached cfg (nextCredentials cfg authNamePass line) lines

def Formed (cfg : Config) (authNamePass : Bytes) (lines : List Bytes) : Prop :=
  ∀ line ∈ reached cfg authNamePass lines, isMalformed line = false

theorem formed_cons {np line : Bytes} {lines : List Bytes} (going : ¬ (line = [] ∧ np ≠ [])) :
    Formed cfg np (line :: lines) ↔
      isMalformed line = false ∧ Formed cfg (nextCredentials cfg np line) lines := by
  simp only [Formed,reached,if_neg going,List.forall_mem_cons]

/-- Reads header lines. -/
structure Standing (c : ClientConnection) : Prop where
  phase : c.phase = .httpNormalChallenge
  reading : c.readingSuspended = false

theorem onData_standing {c : ClientConnection} (standing : Standing c) {view : Bytes}
    {lines : List Bytes} {tail : Bytes} (split : Lines.Split cr lf view lines tail) :
    onData cfg c view = normalLines cfg view.length tail c lines 0 := by
  rw [← normalLoop_lines cfg view.length c split 0 (Nat.lt_succ_self _)]
  simp only [onData,standing.phase,onHttpNormalChallenge]

/-- What a line is handled as, where no part of it came before. -/
theorem absorbed (cfg : Config) {c : ClientConnection} (clear : c.http.httpHeaderLine = []) {line : Bytes}
    (formed : isMalformed line = false) :
    ∃ http, processLine cfg { c.http with httpHeaderLine := c.http.httpHeaderLine ++ line } line.length =
        .next http ∧ { http with httpHeaderLine := [] } = absorb cfg c.http line ∧
      (absorb cfg c.http line).authNamePass = nextCredentials cfg c.http.authNamePass line := by
  rw [clear,List.nil_append]
  exact processLine_next cfg c.http formed (fun _ => rfl)

/-- Bytes that were consumed before count. -/
theorem normalLines_shift (cfg : Config) (size : Nat) (tail : Bytes) {c : ClientConnection}
    (clear : c.http.httpHeaderLine = []) {lines : List Bytes}
    (formed : Formed cfg c.http.authNamePass lines) (n k : Nat) :
    normalLines cfg (size + k) tail c lines (n + k) =
      { normalLines cfg size tail c lines n with
        consumed := (normalLines cfg size tail c lines n).consumed.map (· + k) } := by
  induction lines generalizing c n with
  | nil => simp [normalLines]
  | cons line lines ih =>
    simp only [normalLines,clear,and_true]
    by_cases blank : line = []
    · rw [if_pos blank,if_pos blank]
      split <;> simp [Nat.add_right_comm]
    · rw [if_neg blank,if_neg blank]
      obtain ⟨first,rest⟩ := (formed_cons (fun both => blank both.1)).mp formed
      obtain ⟨http,handled,same,pass⟩ := absorbed cfg clear first
      rw [clear] at handled
      simp only [handled]
      rw [← pass,← same] at rest
      have later := ih (c := { c with http := { http with httpHeaderLine := [] } }) rfl rest
        (n + (line.length + 2))
      rw [← later,Nat.add_right_comm]

theorem normalLines_consumes (cfg : Config) {size : Nat} (some_ : 0 < size) (tail : Bytes)
    {c : ClientConnection} (clear : c.http.httpHeaderLine = []) {lines : List Bytes}
    (formed : Formed cfg c.http.authNamePass lines) (n : Nat) :
    ∃ m, (normalLines cfg size tail c lines n).consumed = some (m + 1) := by
  induction lines generalizing c n with
  | nil => exact ⟨size - 1,by simp only [normalLines]; congr; omega⟩
  | cons line lines ih =>
    simp only [normalLines,clear,and_true]
    by_cases blank : line = []
    · rw [if_pos blank]
      split <;> exact ⟨n + 1,rfl⟩
    · rw [if_neg blank]
      obtain ⟨first,rest⟩ := (formed_cons (fun both => blank both.1)).mp formed
      obtain ⟨http,handled,same,pass⟩ := absorbed cfg clear first
      rw [clear] at handled
      simp only [handled]
      rw [← pass,← same] at rest
      exact ih (c := { c with http := { http with httpHeaderLine := [] } }) rfl rest _

/-! ## Calls -/

/-- All that the bytes at hand lead to. -/
def drain (cfg : Config) (s : Stream) : Stream := pump cfg (s.pending.length + 1) s

theorem receive_eq (s : Stream) {chunk : Bytes} (filled : chunk ≠ []) :
    receive cfg s chunk = drain cfg { s with pending := s.pending ++ chunk } := if_neg filled

/-- A call that consumes some bytes is followed by another one. -/
theorem drain_call (cfg : Config) {s : Stream} (present : s.pending ≠ []) (reading : s.conn.readingSuspended = false)
    (valid : s.invalid = false) {n : Nat} (consumed : (onData cfg s.conn s.pending).consumed = some (n + 1)) :
    drain cfg s = drain cfg
      { s with
        conn := (onData cfg s.conn s.pending).conn
        effects := s.effects ++ (onData cfg s.conn s.pending).effects
        pending := s.pending.drop (n + 1) } := by
  have size := List.length_pos_iff.mpr present
  rw [drain,pump_more present reading valid consumed]
  refine pump_fuel ?_ (Nat.lt_succ_self _)
  rw [List.length_drop]
  omega

/-- The part of a line. -/
theorem drain_tail {s : Stream} (standing : Standing s.conn) (valid : s.invalid = false)
    (unfinished : Lines.Free cr lf s.pending) :
    drain cfg s = { s with
      conn := { s.conn with http := { s.conn.http with
        httpHeaderLine := s.conn.http.httpHeaderLine ++ s.pending } }
      pending := [] } := by
  by_cases empty : s.pending = []
  · rw [drain,pump_nil empty]
    cases s
    obtain rfl := empty
    simp
  · obtain ⟨n,size⟩ := Nat.exists_eq_succ_of_ne_zero (Nat.ne_of_gt (List.length_pos_iff.mpr empty))
    have handled : onData cfg s.conn s.pending = ⟨{ s.conn with http := { s.conn.http with
        httpHeaderLine := s.conn.http.httpHeaderLine ++ s.pending } },[],some s.pending.length⟩ := by
      rw [onData_standing standing (Lines.split_free unfinished)]
      rfl
    rw [drain_call cfg empty standing.reading valid (n := n) (by rw [handled,size]),handled,drain,pump_nil]
    · rw [← Nat.succ_eq_add_one,← size,List.drop_length]
      simp
    · rw [← Nat.succ_eq_add_one,← size,List.drop_length]

theorem blank_first {data rest : Bytes} (bytes : data = cr :: lf :: rest) :
    ∃ lines tail, Lines.Split cr lf data ([] :: lines) tail := by
  obtain ⟨lines,tail,split⟩ := Lines.exists_split (x := cr) (y := lf) rest
  rw [bytes]
  exact ⟨lines,tail,split.cons Lines.free_nil⟩

/-- The blank line of a head without credentials. -/
theorem drain_refused {s : Stream} (standing : Standing s.conn) (valid : s.invalid = false)
    (clear : s.conn.http.httpHeaderLine = []) (none : s.conn.http.authNamePass = []) {rest : Bytes}
    (bytes : s.pending = cr :: lf :: rest) :
    drain cfg s = drain cfg
      { s with
        conn := { s.conn with http := absorb cfg s.conn.http [] }
        effects := s.effects ++ [.postData http407Response,.lingerKill]
        pending := rest } := by
  obtain ⟨lines,tail,whole⟩ := blank_first bytes
  have handled : onData cfg s.conn s.pending = ⟨{ s.conn with http := absorb cfg s.conn.http [] },
      [.postData http407Response,.lingerKill],some 2⟩ := by
    rw [onData_standing standing whole,normalLines,if_pos ⟨rfl,clear⟩,absorb_nil clear]
    simp only [none,if_true,Nat.zero_add]
  rw [drain_call cfg (by simp [bytes]) standing.reading valid (n := 1) (by rw [handled]),handled]
  simp [bytes]

/-- The blank line of a head with credentials. -/
theorem drain_done {s : Stream} (standing : Standing s.conn) (valid : s.invalid = false)
    (clear : s.conn.http.httpHeaderLine = []) (some_ : s.conn.http.authNamePass ≠ []) {rest : Bytes}
    (bytes : s.pending = cr :: lf :: rest) :
    drain cfg s =
      { s with
        conn := { s.conn with
          http := absorb cfg s.conn.http []
          readingSuspended := true
          phase := .httpNormalWaitForAccountExchange }
        effects := s.effects ++ [.requestAuth s.conn.http.authNamePass]
        pending := rest } := by
  obtain ⟨lines,tail,whole⟩ := blank_first bytes
  have handled : onData cfg s.conn s.pending = ⟨{ s.conn with
      http := absorb cfg s.conn.http []
      readingSuspended := true
      phase := .httpNormalWaitForAccountExchange },
      [.requestAuth s.conn.http.authNamePass],some 2⟩ := by
    rw [onData_standing standing whole,normalLines,if_pos ⟨rfl,clear⟩,absorb_nil clear]
    simp only [some_,if_false,Nat.zero_add]
  rw [drain_call cfg (by simp [bytes]) standing.reading valid (n := 1) (by rw [handled]),handled]
  simp [drain,pump,bytes]

/-- A line that is taken note of. -/
theorem drain_line {s : Stream} (standing : Standing s.conn) (valid : s.invalid = false) {line rest : Bytes}
    (free : Lines.Free cr lf line) (bytes : s.pending = line ++ cr :: lf :: rest)
    (going : ¬ (line = [] ∧ s.conn.http.httpHeaderLine = [])) {http : Http}
    (handled : processLine cfg { s.conn.http with
      httpHeaderLine := s.conn.http.httpHeaderLine ++ line } line.length = .next http)
    {lines : List Bytes} {tail : Bytes} (split : Lines.Split cr lf rest lines tail)
    (formed : Formed cfg http.authNamePass lines) :
    drain cfg s = drain cfg
      { s with
        conn := { s.conn with http := { http with httpHeaderLine := [] } }
        pending := rest } := by
  have whole : Lines.Split cr lf s.pending (line :: lines) tail := by
    rw [bytes]
    exact split.cons free
  let c : ClientConnection := { s.conn with http := { http with httpHeaderLine := [] } }
  have standing' : Standing c := ⟨standing.phase,standing.reading⟩
  have size : s.pending.length = rest.length + (line.length + 2) := by
    rw [bytes,Lines.length_line,Nat.add_comm]
  have left (n : Nat) : s.pending.drop (n + (line.length + 2)) = rest.drop n := by
    rw [bytes,Nat.add_comm,← List.drop_drop,Lines.drop_line]
  have call : onData cfg s.conn s.pending =
      { onData cfg c rest with consumed := (onData cfg c rest).consumed.map (· + (line.length + 2)) } := by
    rw [onData_standing standing whole,onData_standing standing' split,normalLines,if_neg going]
    simp only [handled]
    rw [size]
    exact normalLines_shift cfg rest.length tail (c := c) rfl formed 0 (line.length + 2)
  have present : s.pending ≠ [] := by simp [bytes]
  by_cases empty : rest = []
  · subst empty
    have nothing : onData cfg c [] = ⟨c,[],some 0⟩ := by
      have none : Lines.Split cr lf [] [] [] := Lines.split_free rfl
      rw [onData_standing standing' none]
      simp [normalLines,c]
    rw [nothing] at call
    rw [drain_call cfg present standing.reading valid (n := line.length + 1) (by rw [call]; simp),call]
    have none : s.pending.drop (line.length + 1 + 1) = [] := by simpa using left 0
    simp only [none,List.append_nil]
    rfl
  · have consumes : ∃ m, (onData cfg c rest).consumed = some (m + 1) := by
      rw [onData_standing standing' split]
      exact normalLines_consumes cfg (List.length_pos_iff.mpr empty) tail rfl formed 0
    obtain ⟨m,consumed⟩ := consumes
    rw [drain_call cfg present standing.reading valid (n := m + (line.length + 2))
      (by rw [call,consumed]; simp only [Option.map_some]; congr 1; omega),call]
    have later := drain_call cfg (s := { s with conn := c, pending := rest }) empty standing.reading
      valid consumed
    rw [later]
    have drop : s.pending.drop (m + (line.length + 2) + 1) = rest.drop (m + 1) := by
      rw [← left]
      congr 1
      omega
    rw [drop]

/-! ## Lines of a stream -/

/-- The connection after these lines, and the key and the lines left if the header has ended. -/
def walk (cfg : Config) : ClientConnection → List Bytes → ClientConnection × Option (Bytes × List Bytes)
  | c, [] => (c,none)
  | c, line :: lines =>
    if line = [] ∧ c.http.authNamePass ≠ [] then
      ({ c with
          http := absorb cfg c.http line
          readingSuspended := true
          phase := .httpNormalWaitForAccountExchange },some (c.http.authNamePass,lines))
    else walk cfg { c with http := absorb cfg c.http line } lines

theorem absorb_clear (cfg : Config) (http : Http) (line : Bytes) :
    (absorb cfg http line).httpHeaderLine = [] := by
  unfold absorb
  split <;> rfl

theorem walk_open_append {c c' : ClientConnection} {lines : List Bytes}
    (open_ : walk cfg c lines = (c',none)) (more : List Bytes) :
    walk cfg c (lines ++ more) = walk cfg c' more := by
  induction lines generalizing c with
  | nil =>
    obtain rfl : c = c' := by simpa [walk] using open_
    rfl
  | cons line lines ih =>
    rw [walk] at open_
    rw [List.cons_append,walk]
    split at open_
    · simp at open_
    · rename_i going
      rw [if_neg going,ih open_]

theorem walk_done_append {c c' : ClientConnection} {lines left : List Bytes} {key : Bytes}
    (done : walk cfg c lines = (c',some (key,left))) (more : List Bytes) :
    walk cfg c (lines ++ more) = (c',some (key,left ++ more)) := by
  induction lines generalizing c with
  | nil => simp [walk] at done
  | cons line lines ih =>
    rw [walk] at done
    rw [List.cons_append,walk]
    split at done
    · rename_i blank
      rw [if_pos blank]
      simp only [Prod.mk.injEq,Option.some.injEq] at done ⊢
      obtain ⟨conn,pass,rfl⟩ := done
      exact ⟨conn,pass,rfl⟩
    · rename_i going
      rw [if_neg going,ih done]

theorem walk_standing {c c' : ClientConnection} {lines : List Bytes} (standing : Standing c)
    (clear : c.http.httpHeaderLine = []) (open_ : walk cfg c lines = (c',none)) :
    Standing c' ∧ c'.http.httpHeaderLine = [] := by
  induction lines generalizing c with
  | nil =>
    obtain rfl : c = c' := by simpa [walk] using open_
    exact ⟨standing,clear⟩
  | cons line lines ih =>
    rw [walk] at open_
    split at open_
    · simp at open_
    · exact ih (c := { c with http := absorb cfg c.http line }) ⟨standing.phase,standing.reading⟩
        (absorb_clear cfg _ _) open_

theorem walk_suspends {c c' : ClientConnection} {lines left : List Bytes} {key : Bytes}
    (done : walk cfg c lines = (c',some (key,left))) : c'.readingSuspended = true := by
  induction lines generalizing c with
  | nil => simp [walk] at done
  | cons line lines ih =>
    rw [walk] at done
    split at done
    · simp only [Prod.mk.injEq] at done
      rw [← done.1]
    · exact ih done

theorem absorb_pass (cfg : Config) (http : Http) {line : Bytes} (formed : isMalformed line = false) :
    (absorb cfg http line).authNamePass = nextCredentials cfg http.authNamePass line := by
  obtain ⟨-,-,-,pass⟩ := processLine_next cfg http formed (fun _ => rfl)
  exact pass

/-- Where the header goes on, the lines to come are reached from its last credentials. -/
theorem reached_append {c c' : ClientConnection} {lines late : List Bytes}
    (open_ : walk cfg c lines = (c',none)) (formed : Formed cfg c.http.authNamePass (lines ++ late)) :
    reached cfg c.http.authNamePass (lines ++ late) = lines ++ reached cfg c'.http.authNamePass late := by
  induction lines generalizing c with
  | nil =>
    obtain rfl : c = c' := by simpa [walk] using open_
    rfl
  | cons line lines ih =>
    rw [walk] at open_
    split at open_
    · simp at open_
    · rename_i going
      rw [List.cons_append] at formed ⊢
      obtain ⟨first,rest⟩ := (formed_cons going).mp formed
      rw [reached,if_neg going,← absorb_pass cfg c.http first] at *
      rw [ih open_ rest,List.cons_append]

theorem Formed.late {c c' : ClientConnection} {lines late : List Bytes}
    (open_ : walk cfg c lines = (c',none)) (formed : Formed cfg c.http.authNamePass (lines ++ late)) :
    Formed cfg c'.http.authNamePass late := by
  intro line member
  apply formed line
  rw [reached_append open_ formed]
  exact List.mem_append_right _ member

/-- Lines that are reached are reached without those behind them. -/
theorem Formed.left {np : Bytes} {lines more : List Bytes} (formed : Formed cfg np (lines ++ more)) :
    Formed cfg np lines := by
  induction lines generalizing np with
  | nil => simp [Formed,reached]
  | cons line lines ih =>
    by_cases blank : line = [] ∧ np ≠ []
    · rw [Formed,reached,if_pos blank,blank.1]
      simp [isMalformed,isCredentials]
    · rw [List.cons_append] at formed
      obtain ⟨first,rest⟩ := (formed_cons blank).mp formed
      exact (formed_cons blank).mpr ⟨first,ih rest⟩

/-- Where a connection and its bytes have come to after some lines and a part of one. -/
inductive Settled (cfg : Config) (c : ClientConnection) (lines : List Bytes) (tail : Bytes) :
    Stream → Prop where
  | reading (c' : ClientConnection) (effects : List Effect) (open_ : walk cfg c lines = (c',none))
      (silent : effects.filterMap Effect.key = []) :
      Settled cfg c lines tail
        ⟨{ c' with http := { c'.http with httpHeaderLine := tail } },[],effects,false⟩
  | done (c' : ClientConnection) (key : Bytes) (left : List Bytes) (effects : List Effect)
      (stopped : walk cfg c lines = (c',some (key,left))) (asked : effects.filterMap Effect.key = [key]) :
      Settled cfg c lines tail ⟨c',Lines.join cr lf left ++ tail,effects,false⟩

theorem Settled.prepend {c c' : ClientConnection} {before lines : List Bytes} {tail : Bytes} {s : Stream}
    (open_ : walk cfg c before = (c',none)) (settled : Settled cfg c' lines tail s) :
    Settled cfg c (before ++ lines) tail s := by
  have same := walk_open_append open_ lines
  cases settled with
  | reading c'' effects later silent => exact .reading c'' effects (same.trans later) silent
  | done c'' key left effects later asked => exact .done c'' key left effects (same.trans later) asked

theorem drain_lines {c : ClientConnection} (standing : Standing c) (clear : c.http.httpHeaderLine = [])
    {view tail : Bytes} {lines : List Bytes} (split : Lines.Split cr lf view lines tail)
    (formed : Formed cfg c.http.authNamePass lines) {effects : List Effect}
    (silent : effects.filterMap Effect.key = []) :
    Settled cfg c lines tail (drain cfg ⟨c,view,effects,false⟩) := by
  induction lines generalizing c view effects with
  | nil =>
    obtain rfl : view = tail := split.bytes
    rw [drain_tail standing rfl split.unfinished]
    dsimp only
    rw [clear,List.nil_append]
    exact .reading c effects rfl silent
  | cons line lines ih =>
    obtain ⟨free,bytes,later⟩ := split.uncons
    by_cases blank : line = [] ∧ c.http.authNamePass ≠ []
    · obtain ⟨rfl,some_⟩ := blank
      rw [drain_done standing rfl clear some_ bytes]
      refine .done _ c.http.authNamePass lines _ ?_ ?_
      · rw [walk,if_pos ⟨rfl,some_⟩]
      · rw [List.filterMap_append,silent]
        rfl
    · obtain ⟨first,rest⟩ := (formed_cons blank).mp formed
      rw [← absorb_pass cfg c.http first] at rest
      have one : walk cfg c [line] = ({ c with http := absorb cfg c.http line },none) := by
        rw [walk,if_neg blank,walk]
      have standing' : Standing { c with http := absorb cfg c.http line } :=
        ⟨standing.phase,standing.reading⟩
      have clear' : (absorb cfg c.http line).httpHeaderLine = [] := absorb_clear cfg _ _
      by_cases empty : line = []
      · subst empty
        have none : c.http.authNamePass = [] := by simpa using blank
        rw [drain_refused standing rfl clear none bytes]
        refine (ih standing' clear' later rest ?_).prepend one
        rw [List.filterMap_append,silent]
        rfl
      · obtain ⟨http,handled,same,-⟩ := absorbed cfg clear first
        have rest' : Formed cfg http.authNamePass lines := by
          have pass := congrArg Http.authNamePass same
          dsimp only at pass
          rwa [pass]
        rw [drain_line standing rfl free bytes (fun both => empty both.1) handled later rest']
        dsimp only
        rw [same]
        exact (ih standing' clear' later rest silent).prepend one

/-! ## Pieces of a stream -/

/-- A piece that goes on with a line that is not divided where it matters. -/
theorem drain_glued {c : ClientConnection} (standing : Standing c) (clear : c.http.httpHeaderLine = [])
    {part chunk tail : Bytes} {lines : List Bytes} (split : Lines.Split cr lf (part ++ chunk) lines tail)
    (fine : part = [] ∨ ∀ line more, lines = line :: more →
      isCredentials line = false ∧ ∃ left, line = part ++ left)
    (formed : Formed cfg c.http.authNamePass lines) {effects : List Effect}
    (silent : effects.filterMap Effect.key = []) :
    Settled cfg c lines tail
      (drain cfg ⟨{ c with http := { c.http with httpHeaderLine := part } },chunk,effects,false⟩) := by
  by_cases whole : part = []
  · subst whole
    rw [← clear]
    exact drain_lines standing clear split formed silent
  · have standing' : Standing { c with http := { c.http with httpHeaderLine := part } } :=
      ⟨standing.phase,standing.reading⟩
    cases lines with
    | nil =>
      have bytes : part ++ chunk = tail := split.bytes
      have unfinished : Lines.Free cr lf (part ++ chunk) := bytes ▸ split.unfinished
      rw [drain_tail standing' rfl unfinished.right]
      dsimp only
      rw [bytes]
      exact .reading c effects rfl silent
    | cons line lines =>
      obtain ⟨other,left,glued⟩ := fine.resolve_left whole line lines rfl
      obtain ⟨free,all,later⟩ := split.uncons
      have bytes : chunk = left ++ cr :: lf :: (Lines.join cr lf lines ++ tail) := by
        rwa [glued,List.append_assoc,List.append_cancel_left_eq] at all
      have filled : line ≠ [] := by
        rw [glued]
        simp [whole]
      have going : ¬ (line = [] ∧ c.http.authNamePass ≠ []) := fun both => filled both.1
      obtain ⟨first,rest⟩ := (formed_cons going).mp formed
      obtain ⟨http,handled,same,pass⟩ := processLine_next cfg c.http (n := left.length) first
        (fun named => absurd (other.symm.trans named) (by simp))
      have rest' : Formed cfg http.authNamePass lines := by
        have kept := congrArg Http.authNamePass same
        dsimp only at kept
        rwa [kept,pass]
      have free' : Lines.Free cr lf left := by
        rw [glued] at free
        exact free.right
      rw [glued] at handled
      rw [drain_line standing' rfl free' bytes (fun both => whole both.2) handled later rest']
      dsimp only
      rw [same]
      have one : walk cfg c [line] = ({ c with http := absorb cfg c.http line },none) := by
        rw [walk,if_neg going,walk]
      have after : Standing { c with http := absorb cfg c.http line } :=
        ⟨standing.phase,standing.reading⟩
      refine (drain_lines after (absorb_clear cfg _ _) later ?_ silent).prepend one
      rwa [pass]

/-- What a piece adds. -/
theorem settled_receive {c : ClientConnection} (standing : Standing c) (clear : c.http.httpHeaderLine = [])
    {view chunk rest tail last : Bytes} {lines all : List Bytes} {s : Stream}
    (settled : Settled cfg c lines tail s) (split : Lines.Split cr lf view lines tail)
    (whole : Lines.Split cr lf (view ++ chunk ++ rest) all last)
    (formed : Formed cfg c.http.authNamePass all) (filled : chunk ≠ [])
    (cut : Lines.CutAt (isCredentials · = false) view.length (reached cfg c.http.authNamePass all)) :
    ∃ lines' tail', Lines.Split cr lf (view ++ chunk) lines' tail' ∧
      Settled cfg c lines' tail' (receive cfg s chunk) := by
  obtain ⟨more,tail',later⟩ := Lines.exists_split (x := cr) (y := lf) (tail ++ chunk)
  have complete := split.append later
  obtain ⟨late,rfl,-⟩ := complete.rest cr_ne_lf whole
  refine ⟨lines ++ more,tail',complete,?_⟩
  rw [receive_eq s filled]
  cases settled with
  | done c' key left effects stopped asked =>
    have suspended := walk_suspends stopped
    have bytes : Lines.join cr lf left ++ tail ++ chunk = Lines.join cr lf (left ++ more) ++ tail' := by
      rw [List.append_assoc,later.bytes,Lines.join_append,List.append_assoc]
    simp only [drain,pump,suspended,or_true,true_or,if_true]
    rw [bytes]
    exact .done c' key (left ++ more) effects (walk_done_append stopped more) asked
  | reading c' effects open_ silent =>
    obtain ⟨standing',clear'⟩ := walk_standing standing clear open_
    rw [List.append_assoc] at formed cut
    refine Settled.prepend open_ (drain_glued standing' clear' later ?_ (formed.late open_).left silent)
    rw [reached_append open_ formed,split.bytes,List.length_append] at cut
    have here := (Lines.cutAt_append cr lf lines _ _).mp cut
    by_cases none : tail = []
    · exact .inl none
    · refine .inr ?_
      rintro line more' rfl
      have head : ∃ others, reached cfg c'.http.authNamePass (line :: more' ++ late) = line :: others := by
        rw [List.cons_append,reached]
        split <;> exact ⟨_,rfl⟩
      obtain ⟨others,same⟩ := head
      rw [same] at here
      obtain ⟨free,bytes,-⟩ := later.uncons
      exact (Lines.cut_in_line split.unfinished cr_ne_lf free bytes here).resolve_left none

/-! ## The request line -/

theorem digits_stop (acc : Nat) (front rest rest' : Bytes) :
    digits acc (front ++ slash :: rest) = digits acc (front ++ slash :: rest') := by
  induction front generalizing acc with
  | nil => rfl
  | cons b front ih =>
    simp only [List.cons_append,digits]
    split
    · exact ih _
    · rfl

/-- The number in front of a slash does not depend on what follows it. -/
theorem atoiPort_stop (front rest rest' : Bytes) :
    atoiPort (front ++ slash :: rest) = atoiPort (front ++ slash :: rest') := by
  induction front with
  | nil => rfl
  | cons b front ih =>
    by_cases blank : isSpace b = true
    · simpa [atoiPort,List.dropWhile_cons_of_pos blank] using ih
    · have number := digits_stop 0 front rest rest'
      have all := digits_stop 0 (b :: front) rest rest'
      simp only [List.cons_append] at all
      simp only [atoiPort,List.cons_append,List.dropWhile_cons_of_neg blank]
      by_cases minus : b = 45
      · subst minus
        simp only [number]
      · by_cases plus : b = 43
        · subst plus
          simp only [number]
        · split
          · rename_i same
            exact absurd (List.cons.inj same).1 minus
          · rename_i same
            exact absurd (List.cons.inj same).1 plus
          · split
            · rename_i same
              exact absurd (List.cons.inj same).1 minus
            · rename_i same
              exact absurd (List.cons.inj same).1 plus
            · rw [all]

theorem uriTarget_stop (range rest rest' host : Bytes) :
    uriTarget (range ++ [slash]) (range ++ slash :: rest) host =
      uriTarget (range ++ [slash]) (range ++ slash :: rest') host := by
  induction range generalizing host with
  | nil =>
    simp only [List.nil_append,uriTarget]
    rfl
  | cons b range ih =>
    simp only [List.cons_append,uriTarget]
    split
    · rw [atoiPort_stop]
    · split
      · rfl
      · exact ih _

/-- The host and port in front of the path do not depend on what follows the line. -/
theorem uriTarget_path {request : Bytes} {start path : Nat} (here : request[path]? = some slash)
    (near : start ≤ path + 1) (more more' : Bytes) :
    uriTarget ((request.take (path + 1)).drop start) ((request ++ more).drop start) [] =
      uriTarget ((request.take (path + 1)).drop start) ((request ++ more').drop start) [] := by
  obtain ⟨inside,value⟩ := List.getElem?_eq_some_iff.mp here
  have split : request = request.take path ++ slash :: request.drop (path + 1) := by
    rw [← value,List.getElem_cons_drop,List.take_append_drop]
  have size : (request.take path).length = path := by
    rw [List.length_take]; omega
  have range : request.take (path + 1) = request.take path ++ [slash] := by
    rw [List.take_add_one,here]; rfl
  generalize request.take path = front at *
  generalize request.drop (path + 1) = back at *
  subst size split
  rw [range]
  by_cases within : start ≤ front.length
  · simp only [List.append_assoc,List.cons_append,List.drop_append_of_le_length within]
    exact uriTarget_stop _ _ _ _
  · have none : (front ++ [slash]).drop start = [] := by
      rw [List.drop_eq_nil_iff,List.length_append,List.length_singleton]
      omega
    rw [none]
    rfl

theorem exists_findByte {byte : UInt8} {data : Bytes} {start : Nat} (member : byte ∈ data.drop start) :
    ∃ i, findByte byte data start = some i := by
  obtain ⟨i,found⟩ : ∃ i, (data.drop start).findIdx? (· == byte) = some i := by
    rw [← Option.isSome_iff_exists,List.findIdx?_isSome,List.any_eq_true]
    exact ⟨byte,member,by simp⟩
  exact ⟨i + start,by rw [findByte,found]; rfl⟩

def requestLine (method url version : Bytes) : Bytes := method ++ space :: (url ++ space :: version)

structure ForwardHead where
  method : Bytes
  url : Bytes
  version : Bytes
  headers : List Bytes
  token : space ∉ method ∧ method.head? ≠ some 0x05
  absolute : startsWithCI (ascii "http://") url = true ∨ startsWithCI (ascii "https://") url = true
  http : ascii "HTTP/" <+: version
  closed : space ∉ url
  other : startsWithCI (ascii "CONNECT ") (requestLine method url version) = false
  free : Lines.Free cr lf (requestLine method url version)
  fields : ∀ header ∈ headers, header ≠ [] ∧ Lines.Free cr lf header

namespace ForwardHead

def line (head : ForwardHead) : Bytes := requestLine head.method head.url head.version

/-- The header lines, the blank one included. -/
def rest (head : ForwardHead) : List Bytes := head.headers ++ [[]]

def bytes (head : ForwardHead) : Bytes := head.line ++ cr :: lf :: Lines.join cr lf head.rest

theorem line_free (head : ForwardHead) : Lines.Free cr lf head.line := head.free

theorem length_url (head : ForwardHead) : 7 ≤ head.url.length := by
  have long (text : Bytes) (starts : startsWithCI text head.url = true) : text.length ≤ head.url.length := by
    simp only [startsWithCI,ge_iff_le,Bool.and_eq_true,decide_eq_true_eq] at starts
    exact starts.1
  rcases head.absolute with http | https
  · exact long _ http
  · exact Nat.le_trans (by decide) (long _ https)

theorem length_line (head : ForwardHead) : 9 ≤ head.line.length := by
  have := head.length_url
  simp only [line,requestLine,List.length_append,List.length_cons]
  omega

theorem not_socks (head : ForwardHead) (view : Bytes) : (head.line ++ view).getD 0 0 ≠ 0x05 := by
  have other := head.token.2
  rw [line,requestLine]
  cases method : head.method with
  | nil => simp [space]
  | cons b rest =>
    rw [method] at other
    simpa using other

theorem drop_method (head : ForwardHead) (view : Bytes) :
    (head.line ++ view).drop (head.method.length + 1) = head.url ++ space :: head.version ++ view := by
  rw [line,requestLine,List.append_assoc,← List.drop_drop,List.drop_left]
  rfl

theorem method_end (head : ForwardHead) : findByte space head.line 0 = some head.method.length := by
  refine findByte_eq_some.mpr ⟨Nat.zero_le _,?_,?_⟩
  · rw [line,requestLine,List.getElem?_append_right (Nat.le_refl _),Nat.sub_self]
    rfl
  · intro j _ early found
    rw [line,requestLine,List.getElem?_append_left early] at found
    exact head.token.1 (List.mem_of_getElem? found)

theorem url_end (head : ForwardHead) : ∃ i, findByte space head.line (head.method.length + 1) = some i := by
  apply exists_findByte
  have rest := head.drop_method []
  rw [List.append_nil,List.append_nil] at rest
  rw [rest]
  simp

theorem skipScheme_line (head : ForwardHead) (view : Bytes) :
    ∃ start, skipScheme (head.line ++ view) (head.method.length + 1) =
        (start,head.method.length + 8) ∧ start ≤ head.method.length + 9 ∧
      ∀ view', skipScheme (head.line ++ view') (head.method.length + 1) =
        (start,head.method.length + 8) := by
  have long := head.length_url
  have compare (text : Bytes) (fits : text.length ≤ head.url.length) (view : Bytes) :
      startsWithCI text ((head.line ++ view).drop (head.method.length + 1)) = startsWithCI text head.url := by
    rw [drop_method,List.append_assoc,startsWithCI_append fits]
  simp only [skipScheme,compare (ascii "http://") long]
  by_cases http : startsWithCI (ascii "http://") head.url = true
  · simp only [http,if_true]
    exact ⟨_,rfl,by omega,fun _ => rfl⟩
  · have https := head.absolute.resolve_left http
    have fits : (ascii "https://").length ≤ head.url.length := by
      simp only [startsWithCI,ge_iff_le,Bool.and_eq_true,decide_eq_true_eq] at https
      exact https.1
    simp only [http,compare (ascii "https://") fits,https,if_true,Bool.false_eq_true,if_false]
    exact ⟨_,rfl,by omega,fun _ => rfl⟩

theorem path_start (head : ForwardHead) :
    ∃ path, findByte slash head.line (head.method.length + 8) = some path := by
  apply exists_findByte
  have rest := head.drop_method []
  rw [List.append_nil,List.append_nil] at rest
  obtain ⟨version,same⟩ := head.http
  have member : slash ∈ head.version := by
    rw [← same]
    exact List.mem_append_left _ (by decide)
  rw [← List.drop_drop (i := 7),rest,List.drop_append_of_le_length head.length_url]
  simp [member]

end ForwardHead

theorem onData_request (cfg : Config) (head : ForwardHead) {c : ClientConnection}
    (phase : c.phase = .unknown) :
    ∃ http, http.httpHeaderLine = c.http.httpHeaderLine ∧ http.authNamePass = c.http.authNamePass ∧
      ∀ view, onData cfg c (head.line ++ cr :: lf :: view) =
        ⟨{ c with http, phase := .httpNormalChallenge },[],some (head.line.length + 2)⟩ := by
  obtain ⟨start,-,near,scheme⟩ := head.skipScheme_line []
  obtain ⟨last,url⟩ := head.url_end
  obtain ⟨path,found⟩ := head.path_start
  obtain ⟨after,here,-⟩ := findByte_eq_some.mp found
  let target := uriTarget ((head.line.take (path + 1)).drop start) ((head.line ++ []).drop start) []
  refine ⟨{ c.http with
    targetHost := target.1
    targetPort := target.2
    rebuiltHttpHeader := c.http.rebuiltHttpHeader ++ head.line.take (head.method.length + 1) ++
      (head.line ++ [cr,lf]).drop path },rfl,rfl,?_⟩
  intro view
  have size : ¬ (head.line ++ cr :: lf :: view).length < 3 := by
    have := head.length_line
    rw [List.length_append]; omega
  have ends : findCrlf (head.line ++ cr :: lf :: view) = some head.line.length := by
    rw [findCrlf_eq,Lines.find_append cr_ne_lf head.line_free]
  obtain ⟨k,length⟩ : ∃ k, head.line.length = k + 1 :=
    ⟨head.line.length - 1,by have := head.length_line; omega⟩
  have other : startsWithCI (ascii "CONNECT ") (head.line ++ cr :: lf :: view) = false := by
    rw [startsWithCI_append (Nat.le_trans (by decide) head.length_line)]
    exact head.other
  have taken : (head.line ++ cr :: lf :: view).take (head.line.length + 2) = head.line ++ [cr,lf] := by
    rw [List.take_append,List.take_of_length_le (Nat.le_add_right _ 2),Nat.add_sub_cancel_left]
    rfl
  have same := uriTarget_path here (by omega : start ≤ path + 1) (cr :: lf :: view) []
  simp only [onData,phase,onChallenge,if_neg size,if_neg (head.not_socks _),onHttpChallenge,ends]
  rw [length]
  simp only [other,Bool.false_eq_true,if_false]
  rw [← length,List.take_left' rfl]
  simp only [head.method_end,url,scheme,found,taken,same]
  rfl

/-! ## Pieces of a head -/

/-- What became of a head and of the bytes behind it. -/
structure Forwarded where
  keys : List Bytes
  rebuiltHttpHeader : Bytes
  consumed : Nat
  deriving DecidableEq, Repr

/-- Of `total` bytes, those that are left were not consumed. -/
def Stream.forwarded (s : Stream) (total : Nat) : Forwarded where
  keys := s.effects.filterMap Effect.key
  rebuiltHttpHeader := s.conn.http.rebuiltHttpHeader
  consumed := total - s.pending.length

/-- The positions at which the pieces end. -/
def cuts : Nat → List Bytes → List Nat
  | _, [] => []
  | n, chunk :: chunks => (n + chunk.length) :: cuts (n + chunk.length) chunks

theorem mem_cuts (chunks : List Bytes) (some_ : chunks ≠ []) (later : List Bytes) (n : Nat) :
    n + chunks.flatten.length ∈ cuts n (chunks ++ later) := by
  induction chunks generalizing n with
  | nil => exact absurd rfl some_
  | cons chunk chunks ih =>
    rw [List.cons_append,cuts,List.flatten_cons,List.length_append]
    by_cases last : chunks = []
    · subst last
      exact List.mem_cons_self ..
    · rw [← Nat.add_assoc]
      exact List.mem_cons_of_mem _ (ih last _)

theorem cuts_left {chunks later : List Bytes} {n cut : Nat} (member : cut ∈ cuts n chunks) :
    cut ∈ cuts n (chunks ++ later) := by
  induction chunks generalizing n with
  | nil => simp [cuts] at member
  | cons chunk chunks ih =>
    rw [List.cons_append,cuts]
    rcases List.mem_cons.mp member with rfl | further
    · exact List.mem_cons_self ..
    · exact List.mem_cons_of_mem _ (ih further)

namespace ForwardHead

/-- The lines behind the first that the handler reads. -/
def reached (cfg : Config) (head : ForwardHead) (body : Bytes) : List Bytes :=
  Proxy.reached cfg [] (Lines.complete cr lf [] (Lines.join cr lf head.rest ++ body))

/-- All that follows the first line comes at once; or no credentials line is malformed, and no
piece ends within a credentials line or between the two bytes of an ending. -/
def Smooth (cfg : Config) (head : ForwardHead) (body : Bytes) (chunks : List Bytes) : Prop :=
  (∀ cut ∈ cuts 0 chunks, cut ≤ head.line.length + 2 ∨ cut = (head.bytes ++ body).length) ∨
    (∀ line ∈ head.reached cfg body, isMalformed line = false) ∧
      ∀ cut ∈ cuts 0 chunks, Lines.CutAt (isCredentials · = false) (cut - (head.line.length + 2))
        (head.reached cfg body)

end ForwardHead

/-- The connection that has read the first line. -/
structure FirstLine (cfg : Config) (head : ForwardHead) (c c' : ClientConnection) : Prop where
  phase : c.phase = .unknown
  idle : c.readingSuspended = false
  standing : Standing c'
  clear : c'.http.httpHeaderLine = []
  fresh : c'.http.authNamePass = []
  handled : ∀ view, onData cfg c (head.line ++ cr :: lf :: view) = ⟨c',[],some (head.line.length + 2)⟩

theorem exists_firstLine (cfg : Config) (head : ForwardHead) (id : Nat) (ip : Bytes) :
    ∃ c', FirstLine cfg head (newStream id ip).conn c' := by
  obtain ⟨http,clear,fresh,first⟩ := onData_request cfg head (c := (newStream id ip).conn) rfl
  exact ⟨_,rfl,rfl,⟨rfl,rfl⟩,clear,fresh,first⟩

section Pieces

variable {head : ForwardHead} {c c' : ClientConnection}

theorem receive_waiting (first : FirstLine cfg head c c') {seen chunk rest later : Bytes}
    (whole : seen ++ chunk ++ rest = head.line ++ cr :: lf :: later)
    (short : (seen ++ chunk).length < head.line.length + 2) :
    receive cfg ⟨c,seen,[],false⟩ chunk = ⟨c,seen ++ chunk,[],false⟩ := by
  by_cases empty : chunk = []
  · subst empty
    simp [receive]
  · rw [receive_eq _ empty]
    exact pump_waiting head.line_free head.not_socks first.phase whole short _

/-- The piece that ends the first line. -/
theorem receive_first (first : FirstLine cfg head c c') {seen chunk view : Bytes}
    (short : seen.length < head.line.length + 2) (whole : seen ++ chunk = head.line ++ cr :: lf :: view) :
    receive cfg ⟨c,seen,[],false⟩ chunk = drain cfg ⟨c',view,[],false⟩ := by
  have filled : chunk ≠ [] := by
    rintro rfl
    have size := congrArg List.length whole
    rw [List.append_nil,Lines.length_line] at size
    omega
  have handled : onData cfg c (seen ++ chunk) = ⟨c',[],some (head.line.length + 2)⟩ := by
    rw [whole]
    exact first.handled view
  have left : (seen ++ chunk).drop (head.line.length + 1 + 1) = view := by
    rw [whole,Nat.add_assoc,Lines.drop_line]
  have present : seen ++ chunk ≠ [] := by simp [filled]
  rw [receive_eq _ filled,drain_call cfg (n := head.line.length + 1) present first.idle rfl (by rw [handled])]
  simp only [handled,left,List.append_nil]

theorem drain_nil (cfg : Config) (c : ClientConnection) : drain cfg ⟨c,[],[],false⟩ = ⟨c,[],[],false⟩ :=
  pump_nil rfl _

/-- How far a head has come: its first line is not complete, or lines behind it were read. -/
def Heard (cfg : Config) (head : ForwardHead) (c c' : ClientConnection) (seen : Bytes) (s : Stream) : Prop :=
  (seen.length < head.line.length + 2 ∧ s = ⟨c,seen,[],false⟩) ∨
    ∃ view lines tail, seen = head.line ++ cr :: lf :: view ∧ Lines.Split cr lf view lines tail ∧
      Settled cfg c' lines tail s

theorem heard_receive (first : FirstLine cfg head c c') {seen chunk rest later last : Bytes}
    {all : List Bytes} {s : Stream} (heard : Heard cfg head c c' seen s)
    (whole : seen ++ chunk ++ rest = head.line ++ cr :: lf :: later)
    (split : Lines.Split cr lf later all last) (formed : Formed cfg [] all)
    (cut : Lines.CutAt (isCredentials · = false) (seen.length - (head.line.length + 2))
      (reached cfg [] all)) :
    Heard cfg head c c' (seen ++ chunk) (receive cfg s chunk) := by
  rw [← first.fresh] at formed cut
  rcases heard with ⟨short,rfl⟩ | ⟨view,lines,tail,rfl,part,settled⟩
  · by_cases still : (seen ++ chunk).length < head.line.length + 2
    · exact .inl ⟨still,receive_waiting first whole still⟩
    · obtain ⟨view,complete,stream⟩ := Lines.beyond_line whole (Nat.not_lt.mp still)
      obtain ⟨lines,tail,part⟩ := Lines.exists_split (x := cr) (y := lf) view
      rw [← stream] at split
      obtain ⟨late,rfl,-⟩ := part.rest cr_ne_lf split
      refine .inr ⟨view,lines,tail,complete,part,?_⟩
      rw [receive_first first short complete]
      exact drain_lines first.standing first.clear part formed.left rfl
  · by_cases empty : chunk = []
    · subst empty
      rw [List.append_nil,receive,if_pos rfl]
      exact .inr ⟨view,lines,tail,rfl,part,settled⟩
    · have stream : view ++ chunk ++ rest = later := by simpa using whole
      rw [← stream] at split
      rw [Lines.length_line,Nat.add_sub_cancel_left] at cut
      obtain ⟨lines',tail',part',settled'⟩ := settled_receive first.standing first.clear settled
        part split formed empty cut
      exact .inr ⟨view ++ chunk,lines',tail',by simp,part',settled'⟩

/-- Pieces that end where nothing is lost. -/
theorem heard_feed (first : FirstLine cfg head c c') {chunks : List Bytes} {rest later last : Bytes}
    {all : List Bytes} (whole : chunks.flatten ++ rest = head.line ++ cr :: lf :: later)
    (split : Lines.Split cr lf later all last) (formed : Formed cfg [] all)
    (fine : ∀ cut ∈ cuts 0 chunks, Lines.CutAt (isCredentials · = false)
      (cut - (head.line.length + 2)) (reached cfg [] all)) :
    Heard cfg head c c' chunks.flatten (feed cfg ⟨c,[],[],false⟩ chunks) := by
  induction chunks using List.reverseRecOn generalizing rest with
  | nil => exact .inl ⟨Nat.succ_pos _,rfl⟩
  | append_singleton chunks chunk ih =>
    rw [List.flatten_append,List.flatten_singleton] at whole ⊢
    rw [feed_append]
    have earlier : ∀ cut ∈ cuts 0 chunks, Lines.CutAt (isCredentials · = false)
        (cut - (head.line.length + 2)) (reached cfg [] all) :=
      fun cut member => fine cut (cuts_left member)
    have heard := ih (by rw [List.append_assoc] at whole; exact whole) earlier
    apply heard_receive first heard whole split formed
    by_cases none : chunks = []
    · subst none
      rw [List.flatten_nil,List.length_nil,Nat.zero_sub]
      exact Lines.cutAt_zero _ _
    · have member := mem_cuts chunks none [chunk] 0
      rw [Nat.zero_add] at member
      exact fine _ member

/-- Pieces of which the last holds all that follows the first line. -/
theorem feed_at_once (first : FirstLine cfg head c c') {chunks : List Bytes} {rest later : Bytes}
    (some_ : later ≠ []) (whole : chunks.flatten ++ rest = head.line ++ cr :: lf :: later)
    (fine : ∀ cut ∈ cuts 0 chunks, cut ≤ head.line.length + 2 ∨
      cut = (head.line ++ cr :: lf :: later).length) :
    let s := feed cfg ⟨c,[],[],false⟩ chunks
    (chunks.flatten.length < head.line.length + 2 ∧ s = ⟨c,chunks.flatten,[],false⟩) ∨
      (chunks.flatten = head.line ++ [cr,lf] ∧ s = ⟨c',[],[],false⟩) ∨
      (chunks.flatten = head.line ++ cr :: lf :: later ∧ s = drain cfg ⟨c',later,[],false⟩) := by
  induction chunks using List.reverseRecOn generalizing rest with
  | nil => exact .inl ⟨Nat.succ_pos _,rfl⟩
  | append_singleton chunks chunk ih =>
    rw [List.flatten_append,List.flatten_singleton] at whole ⊢
    rw [feed_append]
    have before := ih (by rw [List.append_assoc] at whole; exact whole)
      (fun cut member => fine cut (cuts_left member))
    have end_ : (chunks.flatten ++ chunk).length ≤ head.line.length + 2 ∨
        (chunks.flatten ++ chunk).length = (head.line ++ cr :: lf :: later).length := by
      apply fine _
      have member := mem_cuts (chunks ++ [chunk]) (by simp) [] 0
      rw [List.append_nil,Nat.zero_add,List.flatten_append,List.flatten_singleton] at member
      exact member
    by_cases empty : chunk = []
    · subst empty
      simpa [feed,receive] using before
    · have one (s : Stream) : feed cfg s [chunk] = receive cfg s chunk := rfl
      have grows : 0 < chunk.length := List.length_pos_iff.mpr empty
      rw [one]
      rcases before with ⟨short,same⟩ | ⟨here,same⟩ | ⟨done,same⟩
      · rw [same]
        by_cases still : (chunks.flatten ++ chunk).length < head.line.length + 2
        · exact .inl ⟨still,receive_waiting first whole still⟩
        · obtain ⟨view,complete,stream⟩ := Lines.beyond_line whole (Nat.not_lt.mp still)
          rw [receive_first first short complete]
          rw [complete] at end_ ⊢
          refine .inr ?_
          simp only [List.length_append,List.length_cons] at end_
          rcases end_ with last | last
          · obtain rfl : view = [] := List.length_eq_zero_iff.mp (by omega)
            exact .inl ⟨rfl,drain_nil cfg c'⟩
          · have size := congrArg List.length stream
            rw [List.length_append] at size
            obtain rfl : rest = [] := List.length_eq_zero_iff.mp (by omega)
            obtain rfl : view = later := by simpa using stream
            exact .inr ⟨rfl,rfl⟩
      · rw [here,List.append_assoc] at whole
        rw [here] at end_ ⊢
        have stream : chunk ++ rest = later := by simpa using whole
        have size := congrArg List.length stream
        simp only [List.length_append,List.length_cons,List.length_nil] at end_ size
        obtain rfl : rest = [] := List.length_eq_zero_iff.mp (by omega)
        obtain rfl : chunk = later := by simpa using stream
        refine .inr (.inr ⟨by simp,?_⟩)
        rw [same,receive_eq _ empty]
        rfl
      · have size := congrArg List.length whole
        rw [done] at size
        simp only [List.length_append,List.length_cons] at size
        omega

end Pieces

/-! ## Whole heads -/

theorem Settled.forwarded {c : ClientConnection} {lines : List Bytes} {tail : Bytes} {s s' : Stream}
    (settled : Settled cfg c lines tail s) (settled' : Settled cfg c lines tail s') (total : Nat) :
    s.forwarded total = s'.forwarded total := by
  cases settled with
  | reading c₁ effects open_ silent =>
    cases settled' with
    | reading c₂ effects' open' silent' =>
      obtain ⟨rfl,-⟩ := Prod.mk.inj (open_.symm.trans open')
      simp only [Stream.forwarded,silent,silent']
    | done c₂ key left effects' stopped asked =>
      have same := (Prod.mk.inj (open_.symm.trans stopped)).2
      cases same
  | done c₁ key left effects stopped asked =>
    cases settled' with
    | reading c₂ effects' open_ silent =>
      have same := (Prod.mk.inj (stopped.symm.trans open_)).2
      cases same
    | done c₂ key' left' effects' stopped' asked' =>
      have same := stopped.symm.trans stopped'
      simp only [Prod.mk.injEq,Option.some.injEq] at same
      obtain ⟨rfl,rfl,rfl⟩ := same
      simp only [Stream.forwarded,asked,asked']

/-- A head and its body are handled as if they came at once, if all that follows the first line
does, or if no credentials line is malformed and the pieces divide no credentials line and no
ending of a line. -/
theorem forward_segmentation (cfg : Config) (head : ForwardHead) (body : Bytes) (chunks : List Bytes)
    (id : Nat) (ip : Bytes) (whole : chunks.flatten = head.bytes ++ body)
    (smooth : head.Smooth cfg body chunks) :
    (feed cfg (newStream id ip) chunks).forwarded (head.bytes ++ body).length =
      (feed cfg (newStream id ip) [head.bytes ++ body]).forwarded (head.bytes ++ body).length := by
  obtain ⟨c',first⟩ := exists_firstLine cfg head id ip
  let later := Lines.join cr lf head.rest ++ body
  have bytes : head.bytes ++ body = head.line ++ cr :: lf :: later := by
    rw [ForwardHead.bytes,List.append_assoc]; rfl
  have present : later ≠ [] := by
    simp [later,ForwardHead.rest,Lines.join_append,Lines.join_cons]
  have unsplit : [] ++ (head.bytes ++ body) = head.line ++ cr :: lf :: later := bytes
  have once : feed cfg (newStream id ip) [head.bytes ++ body] = drain cfg ⟨c',later,[],false⟩ :=
    receive_first first (Nat.succ_pos _) unsplit
  have size : (head.bytes ++ body).length = head.line.length + 2 + later.length := by
    rw [bytes,Lines.length_line]
  have some_ : 0 < later.length := List.length_pos_iff.mpr present
  have stream : chunks.flatten ++ [] = head.line ++ cr :: lf :: later := by
    rw [List.append_nil,whole,bytes]
  rw [once]
  rcases smooth with atOnce | ⟨formed,fine⟩
  · rcases feed_at_once first present stream (by rw [← bytes]; exact atOnce) with
      ⟨short,-⟩ | ⟨line,-⟩ | ⟨-,same⟩
    · rw [whole] at short
      omega
    · have length := congrArg List.length line
      rw [whole,size] at length
      simp only [List.length_append,List.length_cons,List.length_nil] at length
      omega
    · exact congrArg (fun s : Stream => s.forwarded (head.bytes ++ body).length) same
  · obtain ⟨all,last,split⟩ := Lines.exists_split (x := cr) (y := lf) later
    have lines : head.reached cfg body = reached cfg [] all := by
      rw [ForwardHead.reached,split.complete cr_ne_lf]
    rw [lines] at formed fine
    rcases heard_feed first stream split formed fine with ⟨short,-⟩ | ⟨view,all',last',seen,split',settled⟩
    · rw [whole] at short
      omega
    · obtain rfl : view = later := by
        rw [whole,bytes] at seen
        simpa using seen.symm
      obtain ⟨rfl,rfl⟩ := split.unique cr_ne_lf split'
      have formed' : Formed cfg c'.http.authNamePass all := by rwa [first.fresh]
      exact settled.forwarded (drain_lines first.standing first.clear split formed' rfl) _

/-- A request with the account `u` and the password `p`. -/
def getHead : ForwardHead where
  method := ascii "GET"
  url := ascii "http://h/"
  version := ascii "HTTP/1.1"
  headers := [ascii "Host: h",ascii "Proxy-Authorization: Basic dTpw"]
  token := by decide
  absolute := by decide
  http := by decide
  closed := by decide
  other := by decide
  free := by decide
  fields := by decide

def getPieces (cut : Nat) : List Bytes := [getHead.bytes.take cut,getHead.bytes.drop cut]

/-- A cut in the first header line does not matter. -/
theorem forward_segmentation_between :
    (feed referenceConfig (newStream 1 []) (getPieces 27)).forwarded getHead.bytes.length =
      (feed referenceConfig (newStream 1 []) [getHead.bytes]).forwarded getHead.bytes.length := by
  have whole : (getPieces 27).flatten = getHead.bytes ++ [] := by simp [getPieces]
  have smooth : getHead.Smooth referenceConfig [] (getPieces 27) := .inr ⟨by decide,by decide⟩
  have same := forward_segmentation referenceConfig getHead [] (getPieces 27) 1 [] whole smooth
  simpa using same

/-- A cut in the line that holds the credentials does: the length of the key is taken from the
piece that ends the line. -/
theorem divided_credentials_lost :
    (getPieces 37).flatten = getHead.bytes ∧
      ((feed referenceConfig (newStream 1 []) [getHead.bytes]).forwarded getHead.bytes.length).keys =
        [ascii "u:p"] ∧
      ((feed referenceConfig (newStream 1 []) (getPieces 37)).forwarded getHead.bytes.length).keys =
        [] := by
  decide +kernel

end MiniPP.Proxy
