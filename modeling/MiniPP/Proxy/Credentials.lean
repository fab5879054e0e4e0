import MiniPP.Proxy.HeaderRewrite
import MiniPP.Proxy.History

/-! The credentials in header lines. Both handlers test the length and the scheme of the value
of a `Proxy-Authorization` line, with offsets from `LineEndIndex`; in forward mode that is an
index into the present chunk, of which the line may hold just the end. -/
namespace MiniPP.Proxy

variable {cfg : Config}

/-! ## One line -/

/-- The value begins with the name of the scheme. -/
def isBasic (line : Bytes) : Bool := startsWithCI (ascii "Basic ") (line.drop 21)

def authLength (lineEndIndex : Nat) : Nat := sub64 lineEndIndex 21

def base64Size (lineEndIndex : Nat) : Nat := sub64 (authLength lineEndIndex) 6

/-- The bytes at `Base64Start`. -/
def base64Text (p : Bytes × Nat) : Bytes := ((p.1.drop 21 ++ [0]).drop 6).take (base64Size p.2)

/-- What becomes of a line, given with the value of `LineEndIndex` at it. -/
inductive Fate where
  | noted
  | decoded
  | refused
  | outOfBounds
  deriving DecidableEq, Repr

/-- The value is taken for too short. -/
def isRefused (p : Bytes × Nat) : Bool := authLength p.2 < 6 && !isBasic p.1

def fate (p : Bytes × Nat) : Fate :=
  if isCredentials p.1 = false then .noted
  else if isRefused p then .refused
  else if base64Size p.2 ≤ ((p.1.drop 21).drop 6).length + 1 then .decoded
  else .outOfBounds

def Fate.halts : Fate → Bool
  | .refused | .outOfBounds => true
  | _ => false

/-- The credentials after the line, given those before it. -/
def nextKey (cfg : Config) (authNamePass : Bytes) (p : Bytes × Nat) : Bytes :=
  if fate p = .decoded then cfg.xel.base64Decode (base64Text p) else authNamePass

theorem processLine_named {http : Http} {line : Bytes} (named : isCredentials line = true) (n : Nat) :
    processLine cfg { http with httpHeaderLine := line } n =
      if isRefused (line,n) then .invalid
      else if base64Size n ≤ ((line.drop 21).drop 6).length + 1 then
        .next { http with
          httpHeaderLine := line
          authNamePass := cfg.xel.base64Decode (base64Text (line,n)) }
      else .outOfBounds := by
  obtain ⟨long,starts⟩ := isCredentials_iff.mp named
  obtain ⟨proxy,plain⟩ := credentials_only starts
  simp only [processLine,proxy,plain,starts,long,decide_true,Bool.and_false,Bool.and_true,
    Bool.false_eq_true,if_false,if_true,isRefused,isBasic,authLength,base64Size,base64Text]
  rfl

/-- What becomes of a line is what the handler does with it. -/
theorem processLine_fate (cfg : Config) (http : Http) (line : Bytes) (n : Nat) :
    (fate (line,n) = .refused ∧ processLine cfg { http with httpHeaderLine := line } n = .invalid) ∨
    (fate (line,n) = .outOfBounds ∧
      processLine cfg { http with httpHeaderLine := line } n = .outOfBounds) ∨
    (fate (line,n)).halts = false ∧ ∃ http',
      processLine cfg { http with httpHeaderLine := line } n = .next http' ∧
        http'.authNamePass = nextKey cfg http.authNamePass (line,n) := by
  cases named : isCredentials line with
  | false =>
    obtain ⟨rebuilt,left,next⟩ := processLine_other cfg http named n
    have noted : fate (line,n) = .noted := if_pos named
    refine .inr (.inr ⟨by rw [noted]; rfl,_,next,?_⟩)
    rw [nextKey,noted,if_neg (by decide)]
  | true =>
    have known : ¬ isCredentials line = false := by simp [named]
    rw [processLine_named named]
    by_cases refused : isRefused (line,n) = true
    · have here : fate (line,n) = .refused := by rw [fate,if_neg known,if_pos refused]
      exact .inl ⟨here,if_pos refused⟩
    · rw [if_neg refused]
      by_cases inside : base64Size n ≤ ((line.drop 21).drop 6).length + 1
      · have here : fate (line,n) = .decoded := by rw [fate,if_neg known,if_neg refused,if_pos inside]
        refine .inr (.inr ⟨by rw [here]; rfl,_,if_pos inside,?_⟩)
        rw [nextKey,if_pos here]
      · have here : fate (line,n) = .outOfBounds := by
          rw [fate,if_neg known,if_neg refused,if_neg inside]
        exact .inr (.inl ⟨here,if_neg inside⟩)

/-! ## Lines of a call -/

/-- The lines that a call handles. -/
def met : List (Bytes × Nat) → List (Bytes × Nat)
  | [] => []
  | p :: pieces =>
    if p.1 = [] then []
    else if (fate p).halts then [p]
    else p :: met pieces

/-- How a call ends: where no further line is complete, at a blank one, or at credentials. -/
inductive Ending where
  | unfinished
  | blank
  | refused
  | outOfBounds
  deriving DecidableEq, Repr

def ending : List (Bytes × Nat) → Ending
  | [] => .unfinished
  | p :: pieces =>
    if p.1 = [] then .blank
    else match fate p with
      | .refused => .refused
      | .outOfBounds => .outOfBounds
      | _ => ending pieces

/-- What a call that ends so does with the credentials. -/
def Ending.effects (authNamePass : Bytes) : Ending → List Effect
  | .unfinished => []
  | .blank =>
    if authNamePass = [] then [.postData http407Response,.lingerKill] else [.requestAuth authNamePass]
  | .refused => [.kill]
  | .outOfBounds => [.readOutOfBounds]

theorem ending_going {p : Bytes × Nat} (filled : p.1 ≠ []) (going : (fate p).halts = false)
    (pieces : List (Bytes × Nat)) : ending (p :: pieces) = ending pieces := by
  rw [ending,if_neg filled]
  cases here : fate p with
  | noted => rfl
  | decoded => rfl
  | refused => rw [here] at going; cases going
  | outOfBounds => rw [here] at going; cases going

theorem met_going {p : Bytes × Nat} (filled : p.1 ≠ []) (going : (fate p).halts = false)
    (pieces : List (Bytes × Nat)) : met (p :: pieces) = p :: met pieces := by
  rw [met,if_neg filled,going]
  rfl

/-- A call that does not end at credentials goes on after its first line. -/
theorem going_of_ending {p : Bytes × Nat} {pieces : List (Bytes × Nat)} (filled : p.1 ≠ [])
    (last : ending (p :: pieces) = .unfinished ∨ ending (p :: pieces) = .blank) :
    (fate p).halts = false := by
  rw [ending,if_neg filled] at last
  cases here : fate p with
  | noted => rfl
  | decoded => rfl
  | refused => simp [here] at last
  | outOfBounds => simp [here] at last

theorem nextKey_halted {p : Bytes × Nat} (halted : (fate p).halts = true) (np : Bytes) :
    nextKey cfg np p = np := by
  refine if_neg (fun decoded => ?_)
  rw [decoded] at halted
  cases halted

/-- What the handler in forward mode leaves of the lines it is given. -/
structure Handled (cfg : Config) (c : ClientConnection) (pieces : List (Bytes × Nat)) (reading : Reading) :
    Prop where
  pass : reading.conn.http.authNamePass = (met pieces).foldl (nextKey cfg) c.http.authNamePass
  effects : reading.effects = (ending pieces).effects ((met pieces).foldl (nextKey cfg) c.http.authNamePass)
  goes_on : reading.conn.phase = .httpNormalChallenge → ending pieces = .blank →
    (met pieces).foldl (nextKey cfg) c.http.authNamePass = []

theorem handled_halted (cfg : Config) {c : ClientConnection} (conn : ClientConnection) {p : Bytes × Nat}
    (pieces : List (Bytes × Nat)) (filled : p.1 ≠ []) (halted : (fate p).halts = true)
    (same : conn.http.authNamePass = c.http.authNamePass) (consumed : Option Nat) :
    Handled cfg c (p :: pieces) ⟨conn,(ending (p :: pieces)).effects c.http.authNamePass,consumed⟩ := by
  have single : met (p :: pieces) = [p] := by rw [met,if_neg filled,if_pos halted]
  have kept : (met (p :: pieces)).foldl (nextKey cfg) c.http.authNamePass = c.http.authNamePass := by
    rw [single,List.foldl_cons,List.foldl_nil,nextKey_halted halted]
  refine ⟨by rw [kept]; exact same,by rw [kept],fun _ blank => ?_⟩
  rw [ending,if_neg filled] at blank
  cases here : fate p with
  | noted => rw [here] at halted; cases halted
  | decoded => rw [here] at halted; cases halted
  | refused => simp [here] at blank
  | outOfBounds => simp [here] at blank

theorem held_filled {held line : Bytes} : held ++ line ≠ [] ↔ ¬ (line = [] ∧ held = []) := by
  rw [Ne,List.append_eq_nil_iff,and_comm]

/-- A line at which the handler in forward mode stops. -/
theorem normalLines_halted (cfg : Config) (size : Nat) (tail : Bytes) {c : ClientConnection} {line : Bytes}
    (lines : List Bytes) (n : Nat) (filled : c.http.httpHeaderLine ++ line ≠ [])
    (halted : (fate (c.http.httpHeaderLine ++ line,line.length)).halts = true) :
    normalLines cfg size tail c (line :: lines) n =
      ⟨{ c with http := { c.http with httpHeaderLine := c.http.httpHeaderLine ++ line } },
        (ending ((c.http.httpHeaderLine ++ line,line.length) :: Lines.carried [] lines)).effects
          c.http.authNamePass,some 0⟩ := by
  rw [normalLines,if_neg (held_filled.mp filled),ending,if_neg filled]
  dsimp only
  rcases processLine_fate cfg c.http (c.http.httpHeaderLine ++ line) line.length with
    ⟨here,handled⟩ | ⟨here,handled⟩ | ⟨going,-⟩
  · rw [handled,here]
    rfl
  · rw [handled,here]
    rfl
  · rw [halted] at going
    cases going

/-- A line after which it goes on. -/
theorem normalLines_going (cfg : Config) (size : Nat) (tail : Bytes) {c : ClientConnection} {line : Bytes}
    (lines : List Bytes) (n : Nat) (filled : c.http.httpHeaderLine ++ line ≠ [])
    (going : (fate (c.http.httpHeaderLine ++ line,line.length)).halts = false) :
    ∃ http, processLine cfg { c.http with httpHeaderLine := c.http.httpHeaderLine ++ line } line.length =
        .next http ∧
      http.authNamePass =
        nextKey cfg c.http.authNamePass (c.http.httpHeaderLine ++ line,line.length) ∧
      normalLines cfg size tail c (line :: lines) n = normalLines cfg size tail
        { c with http := { http with httpHeaderLine := [] } } lines (n + (line.length + 2)) := by
  rw [normalLines,if_neg (held_filled.mp filled)]
  dsimp only
  rcases processLine_fate cfg c.http (c.http.httpHeaderLine ++ line) line.length with
    ⟨here,-⟩ | ⟨here,-⟩ | ⟨-,http,handled,pass⟩
  · rw [here] at going
    cases going
  · rw [here] at going
    cases going
  · rw [handled]
    exact ⟨http,rfl,pass,rfl⟩

theorem normalLines_handled (cfg : Config) (size : Nat) (tail : Bytes) (c : ClientConnection)
    (lines : List Bytes) (n : Nat) :
    Handled cfg c (Lines.carried c.http.httpHeaderLine lines) (normalLines cfg size tail c lines n) := by
  induction lines generalizing c n with
  | nil => exact ⟨rfl,rfl,fun _ blank => by cases blank⟩
  | cons line lines ih =>
    rw [Lines.carried_cons]
    by_cases blank : line = [] ∧ c.http.httpHeaderLine = []
    · obtain ⟨rfl,clear⟩ := blank
      rw [normalLines,if_pos ⟨rfl,clear⟩,clear]
      dsimp only
      split
      · rename_i none
        exact ⟨rfl,by simp [ending,met,Ending.effects,none],fun _ _ => none⟩
      · rename_i some_
        exact ⟨rfl,by simp [ending,met,Ending.effects,some_],fun here => by cases here⟩
    · have filled : c.http.httpHeaderLine ++ line ≠ [] := held_filled.mpr blank
      cases going : (fate (c.http.httpHeaderLine ++ line,line.length)).halts with
      | true =>
        rw [normalLines_halted cfg size tail lines n filled going]
        apply handled_halted cfg (c := c) _ _ filled going
        rfl
      | false =>
        obtain ⟨http,-,pass,next⟩ := normalLines_going cfg size tail lines n filled going
        have later := ih { c with http := { http with httpHeaderLine := [] } } (n + (line.length + 2))
        rw [next]
        constructor
        · rw [met_going filled going,List.foldl_cons,← pass]
          exact later.pass
        · rw [met_going filled going,ending_going filled going,List.foldl_cons,← pass]
          exact later.effects
        · rw [met_going filled going,ending_going filled going,List.foldl_cons,← pass]
          exact later.goes_on

/-- A line that came in one piece. -/
theorem fate_malformed {line : Bytes} (malformed : isMalformed line = true) :
    fate (line,line.length) = .refused := by
  have named : isCredentials line = true := by
    simp only [isMalformed,Bool.and_eq_true] at malformed
    exact malformed.1
  have handled : processLine referenceConfig { ({} : Http) with httpHeaderLine := line } line.length =
      .invalid := (processLine_credentials named).trans (if_pos malformed)
  rcases processLine_fate referenceConfig {} line line.length with ⟨here,-⟩ | ⟨-,other⟩ | ⟨-,http,other,-⟩
  · exact here
  · rw [handled] at other
    cases other
  · rw [handled] at other
    cases other

theorem fate_formed (cfg : Config) {line : Bytes} (formed : isMalformed line = false) (np : Bytes) :
    (fate (line,line.length)).halts = false ∧
      nextKey cfg np (line,line.length) = nextCredentials cfg np line := by
  obtain ⟨http,next,same,pass⟩ := processLine_next cfg { authNamePass := np } formed (fun _ => rfl)
  rcases processLine_fate cfg { authNamePass := np } line line.length with
    ⟨-,other⟩ | ⟨-,other⟩ | ⟨going,http',other,key⟩
  · rw [next] at other
    cases other
  · rw [next] at other
    cases other
  · rw [next] at other
    obtain rfl := LineVerdict.next.inj other
    refine ⟨going,key.symm.trans ?_⟩
    rw [← pass,← same]

theorem rawLines_handled (cfg : Config) (c : ClientConnection) (lines : List Bytes) (np : Bytes) (n : Nat) :
    (rawLines cfg c lines np n).effects = (ending (Lines.carried [] lines)).effects
      ((met (Lines.carried [] lines)).foldl (nextKey cfg) np) := by
  induction lines generalizing np n with
  | nil => rfl
  | cons line lines ih =>
    rw [Lines.carried_cons,List.nil_append,rawLines]
    by_cases blank : line = []
    · rw [if_pos blank,ending,if_pos blank,met,if_pos blank]
      by_cases none : np = []
      · simp [Ending.effects,none]
      · simp [Ending.effects,none]
    · rw [if_neg blank]
      cases formed : isMalformed line with
      | true => rw [if_pos rfl,ending,if_neg blank,fate_malformed formed]; rfl
      | false =>
        obtain ⟨going,key⟩ := fate_formed cfg formed np
        rw [if_neg (by simp),ih,met_going blank going,ending_going blank going,List.foldl_cons,key]

/-! ## Calls -/

/-- The lines that the bytes complete. -/
def completed (c : ClientConnection) (data : Bytes) : List (Bytes × Nat) :=
  Lines.carried (if c.phase = .httpNormalChallenge then c.http.httpHeaderLine else [])
    (Lines.complete cr lf [] data)

theorem normalChallenge_handled {c : ClientConnection} (phase : c.phase = .httpNormalChallenge)
    (data : Bytes) : Handled cfg c (completed c data) (onHttpNormalChallenge cfg c data) := by
  obtain ⟨lines,tail,split⟩ := Lines.exists_split (x := cr) (y := lf) data
  rw [onHttpNormalChallenge,normalLoop_lines cfg _ c split 0 (Nat.lt_succ_self _),completed,if_pos phase,
    split.complete cr_ne_lf]
  exact normalLines_handled cfg _ _ c lines 0

theorem rawChallenge_handled {c : ClientConnection} (phase : c.phase = .httpRawChallenge) (data : Bytes) :
    (onHttpRawChallenge cfg c data).effects =
      (ending (completed c data)).effects ((met (completed c data)).foldl (nextKey cfg) []) := by
  obtain ⟨lines,tail,split⟩ := Lines.exists_split (x := cr) (y := lf) data
  rw [onHttpRawChallenge,rawLoop_lines cfg c split [] 0 (Nat.lt_succ_self _),completed,
    if_neg (by simp [phase]),split.complete cr_ne_lf]
  exact rawLines_handled cfg c lines [] 0

theorem met_subset {pieces : List (Bytes × Nat)} {p : Bytes × Nat} (member : p ∈ met pieces) : p ∈ pieces := by
  induction pieces with
  | nil => cases member
  | cons q pieces ih =>
    rw [met] at member
    split at member
    · cases member
    · split at member
      · exact List.mem_cons.mpr (.inl (List.mem_singleton.mp member))
      · rcases List.mem_cons.mp member with rfl | later
        · simp
        · exact List.mem_cons_of_mem _ (ih later)

/-! ## Offsets -/

/-- `LineEndIndex - 21` does not wrap, and where the value is decoded, nor does `AuthLength - 6`,
and the range lies in the line. -/
def Inside (p : Bytes × Nat) : Prop :=
  21 ≤ p.2 ∧ (isRefused p = false → 6 ≤ authLength p.2 ∧ 27 + base64Size p.2 ≤ p.1.length)

theorem inside_iff {p : Bytes × Nat} (part : p.2 ≤ p.1.length) :
    Inside p ↔ 27 ≤ p.2 ∨ 21 ≤ p.2 ∧ isBasic p.1 = false := by
  constructor
  · rintro ⟨some_,decoded⟩
    have size : authLength p.2 = p.2 - 21 := sub64_of_le some_
    by_cases long : 27 ≤ p.2
    · exact .inl long
    · refine .inr ⟨some_,?_⟩
      by_contra other
      have basic : isBasic p.1 = true := by simpa using other
      have taken : isRefused p = false := by simp [isRefused,basic]
      have six := (decoded taken).1
      omega
  · intro long
    have some_ : 21 ≤ p.2 := by omega
    have size : authLength p.2 = p.2 - 21 := sub64_of_le some_
    refine ⟨some_,fun decoded => ?_⟩
    have six : 6 ≤ authLength p.2 := by
      rcases long with long | ⟨-,other⟩
      · omega
      · by_contra few
        have refused : isRefused p = true := by simp [isRefused,other]; omega
        rw [decoded] at refused
        cases refused
    have text : base64Size p.2 = authLength p.2 - 6 := sub64_of_le six
    exact ⟨six,by omega⟩

/-- The value of a line is too short for the name of a scheme. -/
theorem isBasic_short {line : Bytes} (short : line.length < 27) : isBasic line = false := by
  have few : ¬ (line.drop 21).length ≥ (ascii "Basic ").length := by
    rw [List.length_drop]
    have six : (ascii "Basic ").length = 6 := rfl
    omega
  rw [isBasic,startsWithCI,decide_eq_false few,Bool.false_and]

theorem inside_whole {line : Bytes} (named : isCredentials line = true) : Inside (line,line.length) := by
  have long := (isCredentials_iff.mp named).1
  apply (inside_iff (Nat.le_refl _)).mpr
  by_cases short : line.length < 27
  · exact .inr ⟨Nat.le_of_lt long,isBasic_short short⟩
  · exact .inl (Nat.not_lt.mp short)

/-- The credentials lines that a callback handles. -/
def credentialsMet (c : ClientConnection) : ConnEvent → List (Bytes × Nat)
  | .data data =>
    if c.phase = .httpRawChallenge ∨ c.phase = .httpNormalChallenge then
      (met (completed c data)).filter (fun p => isCredentials p.1)
    else []
  | _ => []

/-- A credentials line that ends in the present chunk has enough bytes there. -/
def LongPiece (c : ClientConnection) (data : Bytes) : Prop :=
  ∀ n, findCrlf data = some n → isCredentials (c.http.httpHeaderLine ++ data.take n) = true →
    27 ≤ n ∨ 21 ≤ n ∧ isBasic (c.http.httpHeaderLine ++ data.take n) = false

theorem inside_raw {c : ClientConnection} (phase : c.phase = .httpRawChallenge) (data : Bytes) :
    ∀ p ∈ credentialsMet c (.data data), Inside p := by
  intro p member
  rw [credentialsMet,if_pos (.inl phase),completed,if_neg (by simp [phase])] at member
  obtain ⟨handled,named⟩ := List.mem_filter.mp member
  have piece := met_subset handled
  rw [Lines.carried_nil] at piece
  obtain ⟨line,-,rfl⟩ := List.mem_map.mp piece
  exact inside_whole named

theorem inside_normal {c : ClientConnection} (phase : c.phase = .httpNormalChallenge) (data : Bytes) :
    (∀ p ∈ credentialsMet c (.data data), Inside p) ↔ LongPiece c data := by
  obtain ⟨lines,tail,split⟩ := Lines.exists_split (x := cr) (y := lf) data
  have pieces : completed c data = Lines.carried c.http.httpHeaderLine lines := by
    rw [completed,if_pos phase,split.complete cr_ne_lf]
  rw [credentialsMet,if_pos (.inr phase),pieces,LongPiece]
  cases lines with
  | nil =>
    obtain rfl : data = tail := split.bytes
    have none : findCrlf data = none := (findCrlf_eq data).trans split.unfinished
    simp [Lines.carried,met,none]
  | cons line lines =>
    obtain ⟨free,bytes,-⟩ := split.uncons
    have found : findCrlf data = some line.length := by
      rw [findCrlf_eq,bytes,Lines.find_append cr_ne_lf free]
    have first : data.take line.length = line := by rw [bytes,List.take_left]
    constructor
    · intro inside n here named
      obtain rfl := Option.some.inj (found.symm.trans here)
      rw [first] at named ⊢
      have filled : c.http.httpHeaderLine ++ line ≠ [] := by
        intro empty
        rw [empty] at named
        cases named
      have member : (c.http.httpHeaderLine ++ line,line.length) ∈
          met (Lines.carried c.http.httpHeaderLine (line :: lines)) := by
        rw [Lines.carried_cons,met,if_neg filled]
        split <;> simp
      have within := inside _ (List.mem_filter.mpr ⟨member,named⟩)
      exact (inside_iff (by simp)).mp within
    · intro long p member
      obtain ⟨handled,named⟩ := List.mem_filter.mp member
      have piece := met_subset handled
      rw [Lines.carried_cons,Lines.carried_nil] at piece
      rcases List.mem_cons.mp piece with rfl | later
      · have enough := long line.length found
        rw [first] at enough
        exact (inside_iff (by simp)).mpr (enough named)
      · obtain ⟨other,-,rfl⟩ := List.mem_map.mp later
        exact inside_whole named

/-- In every run, each credentials line is handled inside its bounds just when each that ends in
the chunk that is read in forward mode has 27 bytes there, or 21 if its value does not begin
with "Basic ". -/
theorem decode_inside (cfg : Config) (id : Nat) (ip : Bytes) (es : List ConnEvent) :
    (connectionMachine cfg).Allowed (fun c _ e => ∀ p ∈ credentialsMet c e, Inside p)
        { connectionId := id, remoteIp := ip } [] es ↔
      (connectionMachine cfg).Allowed
        (fun c _ e => ∀ data, e = .data data → c.phase = .httpNormalChallenge → LongPiece c data)
        { connectionId := id, remoteIp := ip } [] es := by
  refine Machine.allowed_iff (m := connectionMachine cfg) (fun c _ e _ => ?_) (.start ⟨id,ip,rfl⟩) es
  cases e with
  | data data =>
    by_cases normal : c.phase = .httpNormalChallenge
    · rw [inside_normal normal]
      exact ⟨fun long _ same _ => ConnEvent.data.inj same ▸ long,fun long => long data rfl normal⟩
    · refine ⟨fun _ _ _ here => absurd here normal,fun _ => ?_⟩
      by_cases raw : c.phase = .httpRawChallenge
      · exact inside_raw raw data
      · simp [credentialsMet,normal,raw]
  | _ => simp [credentialsMet]

/-- Credentials of which seven bytes come later than the others. -/
def dividedCredentials : List ConnEvent :=
  [.data (ascii "GET http://h/ HTTP/1.1\r\n"),.data (ascii "Proxy-Authorization: Bas"),
    .data (ascii "ic dTpw\r\n")]

/-- `LineEndIndex - 21` wraps, and memory beyond the line is read. -/
theorem divided_credentials_outside :
    ¬ (connectionMachine referenceConfig).Allowed (fun c _ e => ∀ p ∈ credentialsMet c e, Inside p)
        { connectionId := 1, remoteIp := [] } [] dividedCredentials ∧
      .did .readOutOfBounds ∈ ((connectionMachine referenceConfig).run
        { connectionId := 1, remoteIp := [] } dividedCredentials).2 := by
  constructor
  · rintro ⟨-,-,inside,-⟩
    have first := inside (ascii "Proxy-Authorization: Basic dTpw",7) (by decide +kernel)
    exact absurd first.1 (by decide)
  · decide +kernel

/-! ## The scheme -/

/-- A line with credentials of the scheme Basic. -/
def isBasicLine (line : Bytes) : Bool := startsWithCI (ascii "Proxy-Authorization: Basic ") line

/-- The lines of the header that came before those that are read, with what is read now. -/
def watchHeader (c : ClientConnection) (e : ConnEvent) (header : List (Bytes × Nat)) : List (Bytes × Nat) :=
  match e with
  | .data data =>
    if c.phase = .httpRawChallenge then
      -- Otherwise no byte of the call was consumed.
      if ending (completed c data) = .unfinished then header ++ met (completed c data) else header
    else if c.phase = .httpNormalChallenge then
      if ending (completed c data) = .blank then [] else header ++ met (completed c data)
    else header
  | _ => header

theorem foldl_nextKey (cfg : Config) (pieces : List (Bytes × Nat)) (np : Bytes) :
    pieces.foldl (nextKey cfg) np =
      ((pieces.filter (fun p => fate p = .decoded)).getLast?.map
        (fun p => cfg.xel.base64Decode (base64Text p))).getD np := by
  induction pieces using List.reverseRecOn with
  | nil => rfl
  | append_singleton pieces p ih =>
    rw [List.foldl_append,List.foldl_cons,List.foldl_nil,List.filter_append,nextKey]
    by_cases here : fate p = .decoded
    · simp [here]
    · simp [here,ih]

theorem base64Text_whole {line : Bytes} (long : 27 ≤ line.length) :
    base64Text (line,line.length) = line.drop 27 := by
  have size : authLength line.length = line.length - 21 := sub64_of_le (by omega)
  have text : base64Size line.length = line.length - 27 := by
    rw [base64Size,size,sub64_of_le (by omega)]
    omega
  have value : 6 ≤ (line.drop 21).length := by rw [List.length_drop]; omega
  rw [base64Text,text,List.drop_append_of_le_length value,List.drop_drop]
  exact List.take_left' (by rw [List.length_drop])

/-! ### What the header leaves -/

theorem challenge_pass (c : ClientConnection) (data : Bytes) :
    (onChallenge c data).conn.http.authNamePass = c.http.authNamePass := by
  have branch := challenge_branch c data
  generalize onChallenge c data = reading at branch ⊢
  cases branch with
  | waits | matched | unmatched => rfl
  | killed _ pass | connect _ pass | forward _ pass => exact pass

theorem openRemote_http (cfg : Config) (c : ClientConnection) (address : NetAddress) (hostname : Bytes) :
    (onOpenRemoteConnection cfg c address hostname).conn.http = c.http := by
  have branch := open_branch cfg c address hostname
  generalize onOpenRemoteConnection cfg c address hostname = act at branch ⊢
  cases branch <;> rfl

theorem tryUpdate_http (cfg : Config) (c : ClientConnection) (up down : Nat) :
    (tryUpdateDataTransferSize cfg c up down).conn.http = c.http := by
  have branch := update_branch cfg c up down
  generalize tryUpdateDataTransferSize cfg c up down = act at branch ⊢
  cases branch <;> rfl

theorem uploadData_http (cfg : Config) (c : ClientConnection) (data : Bytes) :
    (onUploadData cfg c data).conn.http = c.http := by
  rcases uploadData_conn cfg c data with same | counted
  · rw [same]
  · rw [counted,tryUpdate_http]

/-- Callbacks that bring no bytes leave the header alone. -/
theorem handle_http (cfg : Config) (c : ClientConnection) {e : ConnEvent} (other : ∀ data, e ≠ .data data) :
    (handle cfg c e).conn.http = c.http := by
  cases e with
  | data data => exact absurd rfl (other data)
  | peerClose =>
    simp only [handle,onPeerClose]
    split <;> rfl
  | authResult result =>
    cases result <;> simp only [handle,onAuthResult] <;> split <;> rfl
  | deviceSelected result =>
    simp only [handle,onDeviceSelected]
    split
    · split <;> rfl
    · exact openRemote_http cfg (useDevice c result) _ _
    · exact openRemote_http cfg (useDevice c result) _ _
    · rfl
  | relayState n pendingWrites =>
    simp only [handle,onRelaySideConnectionStateChange]
    repeat' split
    all_goals first | rfl | exact uploadData_http cfg _ _
  | relayDestroy pendingWrites =>
    simp only [handle,onDestroyConnection]
    split <;> rfl
  | relayPush payload size => exact tryUpdate_http cfg c 0 size

/-- A callback after which header lines are read in forward mode. -/
theorem handle_pass {c : ClientConnection} {e : ConnEvent}
    (reads : (handle cfg c e).conn.phase = .httpNormalChallenge) :
    (c.phase = .unknown ∨ c.phase = .httpNormalChallenge ∧ ∀ data, e ≠ .data data) ∧
        (handle cfg c e).conn.http.authNamePass = c.http.authNamePass ∨
      ∃ data, e = .data data ∧ c.phase = .httpNormalChallenge ∧
        Handled cfg c (completed c data) (onHttpNormalChallenge cfg c data) := by
  by_cases opening : c.phase = .unknown ∧ ∃ data, e = .data data
  · obtain ⟨phase,data,rfl⟩ := opening
    refine .inl ⟨.inl phase,?_⟩
    simp only [handle,onData,phase]
    exact challenge_pass c data
  · have kept := handle_kept cfg c e (fun data same unknown => opening ⟨unknown,data,same⟩)
    have later := (handle_move cfg c e).frame.phase
    have here : c.phase = .httpNormalChallenge := by
      have entrance := (kept.entrance .httpNormalChallenge (by rw [reads]; rfl)).1
      rw [reads] at later
      revert entrance later
      cases c.phase <;> decide
    by_cases bytes : ∃ data, e = .data data
    · obtain ⟨data,rfl⟩ := bytes
      exact .inr ⟨data,rfl,here,normalChallenge_handled here data⟩
    · have other : ∀ data, e ≠ .data data := fun data same => bytes ⟨data,same⟩
      exact .inl ⟨.inr ⟨here,other⟩,congrArg Http.authNamePass (handle_http cfg c other)⟩

/-- The credentials found in forward mode are those of the last line decoded. -/
structure HeaderKept (cfg : Config) (c : ClientConnection) (header : List (Bytes × Nat)) : Prop where
  unknown : c.phase = .unknown → c.http.authNamePass = [] ∧ header = []
  reading : c.phase = .httpNormalChallenge → c.http.authNamePass = header.foldl (nextKey cfg) []

theorem watchHeader_unknown {c : ClientConnection} (phase : c.phase = .unknown) (e : ConnEvent)
    (header : List (Bytes × Nat)) : watchHeader c e header = header := by
  cases e <;> simp [watchHeader,phase]

theorem watchHeader_other {e : ConnEvent} (other : ∀ data, e ≠ .data data) (c : ClientConnection)
    (header : List (Bytes × Nat)) : watchHeader c e header = header := by
  cases e with
  | data data => exact absurd rfl (other data)
  | _ => rfl

theorem headerKept_step {c : ClientConnection} {header : List (Bytes × Nat)}
    (kept : HeaderKept cfg c header) (e : ConnEvent) :
    HeaderKept cfg (handle cfg c e).conn (watchHeader c e header) := by
  constructor
  · intro unknown
    by_cases opening : c.phase = .unknown ∧ ∃ data, e = .data data
    · obtain ⟨phase,data,rfl⟩ := opening
      obtain ⟨pass,none⟩ := kept.unknown phase
      rw [watchHeader_unknown phase]
      refine ⟨?_,none⟩
      simp only [handle,onData,phase]
      exact (challenge_pass c data).trans pass
    · have before := (handle_kept cfg c e (fun data same first => opening ⟨first,data,same⟩)).unknown unknown
      obtain ⟨pass,none⟩ := kept.unknown before
      have other : ∀ data, e ≠ .data data := fun data same => opening ⟨before,data,same⟩
      rw [watchHeader_unknown before,handle_http cfg c other]
      exact ⟨pass,none⟩
  · intro reads
    rcases handle_pass reads with ⟨phase | ⟨phase,other⟩,same⟩ | ⟨data,rfl,phase,handled⟩
    · obtain ⟨pass,none⟩ := kept.unknown phase
      rw [watchHeader_unknown phase,same,pass,none]
      rfl
    · rw [watchHeader_other other,same]
      exact kept.reading phase
    · have raw : ¬ c.phase = .httpRawChallenge := by simp [phase]
      have call : (handle cfg c (.data data)).conn = (onHttpNormalChallenge cfg c data).conn := by
        simp only [handle,onData,phase]
      rw [call] at reads ⊢
      rw [handled.pass,watchHeader,if_neg raw,if_pos phase]
      by_cases blank : ending (completed c data) = .blank
      · rw [if_pos blank]
        exact handled.goes_on reads blank
      · rw [if_neg blank,List.foldl_append,← kept.reading phase]

def headerMachine (cfg : Config) : Machine (ClientConnection × List (Bytes × Nat)) ConnEvent Entry :=
  (connectionMachine cfg).withGhost [] watchHeader

theorem headerKept_reach {ok : ClientConnection × List (Bytes × Nat) → List Entry → ConnEvent → Prop}
    {s : ClientConnection × List (Bytes × Nat)} {log : List Entry}
    (reach : (headerMachine cfg).Reach ok s log) : HeaderKept cfg s.1 s.2 := by
  apply reach.invariant (I := fun s _ => HeaderKept cfg s.1 s.2)
  · rintro ⟨c,header⟩ ⟨⟨id,ip,rfl⟩,rfl⟩
    exact ⟨fun _ => ⟨rfl,rfl⟩,fun _ => rfl⟩
  · intro s log e _ _ kept
    exact headerKept_step kept e

/-! ### Which key is asked for -/

/-- The line that the credentials come from. In a tunnel those of earlier calls are forgotten. -/
def source (c : ClientConnection) (header : List (Bytes × Nat)) (data : Bytes) : Option (Bytes × Nat) :=
  (((if c.phase = .httpNormalChallenge then header else []) ++ met (completed c data)).filter
    (fun p => fate p = .decoded)).getLast?

theorem source_mem {c : ClientConnection} {header : List (Bytes × Nat)} {data : Bytes} {p : Bytes × Nat}
    (last : source c header data = some p) : p ∈ header ++ met (completed c data) := by
  have member := (List.mem_filter.mp (List.mem_of_getLast? last)).1
  rcases List.mem_append.mp member with before | now
  · split at before
    · exact List.mem_append_left _ before
    · cases before
  · exact List.mem_append_right _ now

theorem Ending.requestAuth_mem {last : Ending} {np key : Bytes} :
    .requestAuth key ∈ last.effects np ↔ last = .blank ∧ np ≠ [] ∧ key = np := by
  cases last with
  | blank =>
    by_cases none : np = []
    · simp [Ending.effects,none]
    · simp [Ending.effects,none]
  | _ => simp [Ending.effects]

/-- The key is what the last line decoded gives. -/
theorem key_source {c : ClientConnection} {header : List (Bytes × Nat)} (kept : HeaderKept cfg c header)
    (reads : c.phase = .httpRawChallenge ∨ c.phase = .httpNormalChallenge) (data key : Bytes) :
    .requestAuth key ∈ (handle cfg c (.data data)).effects ↔
      ending (completed c data) = .blank ∧ key ≠ [] ∧
        ∃ p, source c header data = some p ∧ key = cfg.xel.base64Decode (base64Text p) := by
  have effects : (handle cfg c (.data data)).effects = (ending (completed c data)).effects
      (((source c header data).map (fun p => cfg.xel.base64Decode (base64Text p))).getD []) := by
    rcases reads with raw | normal
    · have other : ¬ c.phase = .httpNormalChallenge := by simp [raw]
      simp only [handle,onData,raw]
      rw [rawChallenge_handled raw,foldl_nextKey,source,if_neg other,List.nil_append]
    · simp only [handle,onData,normal]
      rw [(normalChallenge_handled normal data).effects,kept.reading normal,← List.foldl_append,
        foldl_nextKey,source,if_pos normal]
  rw [effects,Ending.requestAuth_mem]
  refine and_congr_right (fun _ => ?_)
  cases source c header data with
  | none => simp
  | some p =>
    simp only [Option.map_some,Option.getD_some,Option.some.injEq,exists_eq_left']
    constructor
    · rintro ⟨some_,rfl⟩
      exact ⟨some_,rfl⟩
    · rintro ⟨some_,rfl⟩
      exact ⟨some_,rfl⟩

/-- The key is the decoded token of a line of the header with the scheme Basic. -/
def BasicKey (cfg : Config) (header : List (Bytes × Nat)) (key : Bytes) : Prop :=
  ∃ p ∈ header, isBasicLine p.1 = true ∧ key = cfg.xel.base64Decode (p.1.drop 27)

/-- Any key that is asked for at the end of a header is one of its Basic lines'. -/
def OnlyBasic (cfg : Config) (c : ClientConnection) (header : List (Bytes × Nat)) (e : ConnEvent) : Prop :=
  ∀ data key, e = .data data → c.phase = .httpRawChallenge ∨ c.phase = .httpNormalChallenge →
    .requestAuth key ∈ (handle cfg c e).effects → BasicKey cfg (header ++ met (completed c data)) key

/-- Whenever a header ends, each of its credentials lines with a value of at least six bytes has the
scheme Basic and came in one piece. -/
def SchemeKept (c : ClientConnection) (header : List (Bytes × Nat)) (e : ConnEvent) : Prop :=
  ∀ data, e = .data data → c.phase = .httpRawChallenge ∨ c.phase = .httpNormalChallenge →
    ending (completed c data) = .blank → ∀ p ∈ header ++ met (completed c data),
      isCredentials p.1 = true → 27 ≤ p.1.length → isBasicLine p.1 = true ∧ p.2 = p.1.length

/-- Whenever a header ends of which no line has the scheme Basic, the last value that was decoded
gives nothing. -/
def SchemeMissed (cfg : Config) (c : ClientConnection) (header : List (Bytes × Nat)) (e : ConnEvent) : Prop :=
  ∀ data p, e = .data data → c.phase = .httpRawChallenge ∨ c.phase = .httpNormalChallenge →
    ending (completed c data) = .blank →
    (∀ q ∈ header ++ met (completed c data), isBasicLine q.1 = false) →
      source c header data = some p → cfg.xel.base64Decode (base64Text p) = []

/-- Only a line that is long enough is decoded. -/
theorem decoded_long {p : Bytes × Nat} (decoded : fate p = .decoded) (part : p.2 ≤ p.1.length) :
    isCredentials p.1 = true ∧ 27 ≤ p.1.length := by
  rw [fate] at decoded
  split at decoded
  · cases decoded
  rename_i named
  refine ⟨by simpa using named,?_⟩
  split at decoded
  · cases decoded
  rename_i formed
  by_contra short
  have other : isBasic p.1 = false := isBasic_short (by omega)
  have size : ¬ authLength p.2 < 6 := by
    intro few
    simp [isRefused,other,few] at formed
  by_cases wraps : 21 ≤ p.2
  · have here : authLength p.2 = p.2 - 21 := sub64_of_le wraps
    omega
  · have far : authLength p.2 = 2^64 + p.2 - 21 := by rw [authLength,sub64,if_neg wraps]
    have text : base64Size p.2 = authLength p.2 - 6 := sub64_of_le (by omega)
    have none : ((p.1.drop 21).drop 6).length = 0 := by
      rw [List.length_drop,List.length_drop]
      omega
    rw [if_neg (by omega)] at decoded
    cases decoded

theorem met_part {c : ClientConnection} {data : Bytes} {p : Bytes × Nat} (member : p ∈ met (completed c data)) :
    p.2 ≤ p.1.length := Lines.carried_part (met_subset member)

theorem watchHeader_part {c : ClientConnection} {header : List (Bytes × Nat)}
    (parts : ∀ p ∈ header, p.2 ≤ p.1.length) (e : ConnEvent) : ∀ p ∈ watchHeader c e header, p.2 ≤ p.1.length := by
  cases e with
  | data data =>
    have longer : ∀ p ∈ header ++ met (completed c data), p.2 ≤ p.1.length := fun p member =>
      (List.mem_append.mp member).elim (parts p) met_part
    rw [watchHeader]
    split
    · split
      · exact longer
      · exact parts
    · split
      · split
        · simp
        · exact longer
      · exact parts
  | _ => exact parts

theorem parts_reach {ok : ClientConnection × List (Bytes × Nat) → List Entry → ConnEvent → Prop}
    {s : ClientConnection × List (Bytes × Nat)} {log : List Entry}
    (reach : (headerMachine cfg).Reach ok s log) : ∀ p ∈ s.2, p.2 ≤ p.1.length := by
  apply reach.invariant (I := fun s _ => ∀ p ∈ s.2, p.2 ≤ p.1.length)
  · rintro ⟨c,header⟩ ⟨-,rfl⟩
    simp
  · intro s log e _ _ parts
    exact watchHeader_part parts e

section Steps

variable {c : ClientConnection} {header : List (Bytes × Nat)} {e : ConnEvent}

theorem onlyBasic_of (kept : HeaderKept cfg c header) (parts : ∀ p ∈ header, p.2 ≤ p.1.length)
    (scheme : SchemeKept c header e) : OnlyBasic cfg c header e := by
  rintro data key rfl reads asked
  obtain ⟨blank,-,p,last,rfl⟩ := (key_source kept reads data key).mp asked
  have member := source_mem last
  have decoded : fate p = .decoded := by simpa using (List.mem_filter.mp (List.mem_of_getLast? last)).2
  have part : p.2 ≤ p.1.length := (List.mem_append.mp member).elim (parts p) met_part
  obtain ⟨named,long⟩ := decoded_long decoded part
  obtain ⟨basic,whole⟩ := scheme data rfl reads blank p member named long
  refine ⟨p,member,basic,?_⟩
  obtain ⟨line,n⟩ := p
  obtain rfl : n = line.length := whole
  rw [base64Text_whole long]

theorem schemeMissed_of (kept : HeaderKept cfg c header) (only : OnlyBasic cfg c header e) :
    SchemeMissed cfg c header e := by
  rintro data p rfl reads blank none last
  by_contra some_
  obtain ⟨q,member,basic,-⟩ :=
    only data _ rfl reads ((key_source kept reads data _).mpr ⟨blank,some_,p,last,rfl⟩)
  rw [none q member] at basic
  cases basic

end Steps

/-- A login whose header has another field, in two chunks, and whose credentials come in one. -/
def basicLogin : List ConnEvent :=
  [.data (ascii "GET http://h/ HTTP/1.1\r\n"),.data (ascii "Accept: tex"),
    .data (ascii "t\r\nProxy-Authorization: Basic dTpw\r\n\r\n")]

def tokenHeader : Bytes := ascii "Proxy-Authorization: Token dTpw\r\n\r\n"

end MiniPP.Proxy
