import Mathlib.Algebra.Order.BigOperators.Group.List
import Mathlib.Algebra.Order.Group.Nat
import MiniPP.Proxy.Credentials

/-! What of the credentials reaches the target. A header line is dropped by the text it starts
with, and it is taken together from the chunks, in each of which its ending is looked for alone. -/
namespace MiniPP.Proxy

variable {cfg : Config}

/-! ## One chunk -/

theorem normalLines_unfinished (cfg : Config) (size : Nat) (tail : Bytes) (c : ClientConnection)
    (lines : List Bytes) (n : Nat)
    (last : ending (Lines.carried c.http.httpHeaderLine lines) = .unfinished) :
    (∀ p ∈ Lines.carried c.http.httpHeaderLine lines, p.1 ≠ []) ∧
      ∃ http, normalLines cfg size tail c lines n = ⟨{ c with http },[],some size⟩ ∧
        http.rebuiltHttpHeader = c.http.rebuiltHttpHeader ++ Lines.join cr lf
          ((Lines.carried c.http.httpHeaderLine lines).flatMap (fun p => rewritten p.1)) ∧
        http.httpHeaderLine = if lines = [] then c.http.httpHeaderLine ++ tail else tail := by
  induction lines generalizing c n with
  | nil => exact ⟨by simp [Lines.carried],_,rfl,by simp [Lines.carried],rfl⟩
  | cons line lines ih =>
    rw [Lines.carried_cons] at last ⊢
    have filled : c.http.httpHeaderLine ++ line ≠ [] := by
      intro empty
      rw [ending,if_pos empty] at last
      cases last
    have going := going_of_ending filled (.inl last)
    rw [ending_going filled going] at last
    obtain ⟨http,handled,-,next⟩ := normalLines_going cfg size tail lines n filled going
    obtain ⟨later,http',reading,rebuilt,left⟩ :=
      ih { c with http := { http with httpHeaderLine := [] } } (n + (line.length + 2)) last
    rw [next]
    refine ⟨?_,http',reading,?_,?_⟩
    · intro p member
      rcases List.mem_cons.mp member with rfl | member
      · exact filled
      · exact later p member
    · have first := processLine_rebuilt handled
      rw [rebuilt,List.flatMap_cons,Lines.join_append,← List.append_assoc,← first]
    · rw [left]
      simp

theorem normalLines_blank (cfg : Config) (size : Nat) (tail : Bytes) (c : ClientConnection)
    (lines : List Bytes) (n : Nat) (last : ending (Lines.carried c.http.httpHeaderLine lines) = .blank) :
    ∃ before after, lines = before ++ [] :: after ∧ (before = [] → c.http.httpHeaderLine = []) ∧
      (∀ p ∈ Lines.carried c.http.httpHeaderLine before, p.1 ≠ []) ∧
      (normalLines cfg size tail c lines n).conn.http.rebuiltHttpHeader =
        c.http.rebuiltHttpHeader ++ Lines.join cr lf
          ((Lines.carried c.http.httpHeaderLine before).flatMap (fun p => rewritten p.1)) ++ crlf ∧
      (normalLines cfg size tail c lines n).consumed =
        some (n + (Lines.join cr lf before).length + 2) ∧
      ((normalLines cfg size tail c lines n).effects = [.postData http407Response,.lingerKill] ∨
        (normalLines cfg size tail c lines n).conn.readingSuspended = true) := by
  induction lines generalizing c n with
  | nil => cases last
  | cons line lines ih =>
    rw [Lines.carried_cons] at last
    by_cases blank : line = [] ∧ c.http.httpHeaderLine = []
    · obtain ⟨rfl,clear⟩ := blank
      refine ⟨[],lines,rfl,fun _ => clear,by simp [Lines.carried],?_⟩
      rw [normalLines,if_pos ⟨rfl,clear⟩]
      dsimp only
      split
      · exact ⟨by simp [Lines.carried],rfl,.inl rfl⟩
      · exact ⟨by simp [Lines.carried],rfl,.inr rfl⟩
    · have filled : c.http.httpHeaderLine ++ line ≠ [] := held_filled.mpr blank
      have going := going_of_ending filled (.inr last)
      rw [ending_going filled going] at last
      obtain ⟨http,handled,-,next⟩ := normalLines_going cfg size tail lines n filled going
      obtain ⟨before,after,split,-,later,rebuilt,consumed,answer⟩ :=
        ih { c with http := { http with httpHeaderLine := [] } } (n + (line.length + 2)) last
      rw [next]
      refine ⟨line :: before,after,by rw [split]; rfl,by simp,?_,?_,?_,answer⟩
      · intro p member
        rw [Lines.carried_cons] at member
        rcases List.mem_cons.mp member with rfl | member
        · exact filled
        · exact later p member
      · have first := processLine_rebuilt handled
        rw [rebuilt,Lines.carried_cons,List.flatMap_cons,Lines.join_append,
          ← List.append_assoc c.http.rebuiltHttpHeader,← first]
      · rw [consumed,Lines.join_cons,Lines.length_line]
        congr 1
        omega

/-! ## Chunks -/

theorem pump_grows (cfg : Config) (fuel : Nat) (s : Stream) : s.effects <+: (pump cfg fuel s).effects := by
  induction fuel generalizing s with
  | zero => exact List.prefix_rfl
  | succ fuel ih =>
    rw [pump]
    split
    · exact List.prefix_rfl
    · dsimp only
      split
      · exact List.prefix_append _ _
      · exact List.prefix_append _ _
      · refine List.IsPrefix.trans ?_ (ih _)
        exact List.prefix_append _ _

theorem feed_grows (cfg : Config) (s : Stream) (chunks : List Bytes) :
    s.effects <+: (feed cfg s chunks).effects := by
  induction chunks generalizing s with
  | nil => exact List.prefix_rfl
  | cons chunk chunks ih =>
    refine List.IsPrefix.trans ?_ (ih (receive cfg s chunk))
    unfold receive
    split
    · exact List.prefix_rfl
    · exact pump_grows cfg _ { s with pending := s.pending ++ chunk }

/-- What comes while reading is suspended is kept. -/
theorem feed_suspended (cfg : Config) {s : Stream} (suspended : s.conn.readingSuspended = true)
    (chunks : List Bytes) : feed cfg s chunks = { s with pending := s.pending ++ chunks.flatten } := by
  induction chunks generalizing s with
  | nil => simp [feed]
  | cons chunk chunks ih =>
    have kept : receive cfg s chunk = { s with pending := s.pending ++ chunk } := by
      rw [receive]
      split
      · rename_i empty
        simp [empty]
      · rw [pump,if_pos (.inr (.inl suspended))]
    have later := ih (s := { s with pending := s.pending ++ chunk }) suspended
    rw [← kept] at later
    rw [feed,List.foldl_cons]
    apply later.trans
    rw [kept]
    simp

/-- The stream from a connection on. -/
def fresh (c : ClientConnection) : Stream := ⟨c,[],[],false⟩

/-- A chunk that leaves the header unfinished is read to its end. -/
theorem receive_unfinished (cfg : Config) {c : ClientConnection} (standing : Standing c) {chunk : Bytes}
    (filled : chunk ≠ []) {http : Http}
    (reading : onData cfg c chunk = ⟨{ c with http },[],some chunk.length⟩) :
    receive cfg (fresh c) chunk = fresh { c with http } := by
  obtain ⟨n,size⟩ := Nat.exists_eq_succ_of_ne_zero (Nat.ne_of_gt (List.length_pos_iff.mpr filled))
  rw [receive_eq _ filled]
  dsimp only [fresh]
  rw [List.nil_append,drain_call cfg filled standing.reading rfl (n := n) (by rw [reading,size]),reading]
  dsimp only
  rw [← Nat.succ_eq_add_one,← size,List.drop_length]
  exact pump_nil rfl _

/-- Of a chunk that does not, what is not consumed is left. -/
theorem receive_blank (cfg : Config) {c : ClientConnection} (standing : Standing c) {chunk : Bytes}
    (filled : chunk ≠ []) {n : Nat} (consumed : (onData cfg c chunk).consumed = some (n + 1))
    (suspended : (onData cfg c chunk).conn.readingSuspended = true) :
    receive cfg (fresh c) chunk =
      ⟨(onData cfg c chunk).conn,chunk.drop (n + 1),(onData cfg c chunk).effects,false⟩ := by
  rw [receive_eq _ filled]
  dsimp only [fresh]
  rw [List.nil_append,drain_call cfg filled standing.reading rfl consumed]
  dsimp only [List.nil_append]
  rw [drain,pump,if_pos (.inr (.inl suspended))]

/-- A call's effects are the first of the stream. -/
theorem receive_effects (cfg : Config) {c : ClientConnection} (standing : Standing c) {chunk : Bytes}
    (filled : chunk ≠ []) : (onData cfg c chunk).effects <+: (receive cfg (fresh c) chunk).effects := by
  have going : ¬ (chunk = [] ∨ c.readingSuspended = true ∨ false = true) := by
    simp [filled,standing.reading]
  rw [receive,if_neg filled]
  dsimp only [fresh]
  rw [List.nil_append,pump,if_neg going]
  dsimp only
  split
  · exact List.prefix_rfl
  · exact List.prefix_rfl
  · refine List.IsPrefix.trans ?_ (pump_grows cfg _ _)
    exact List.prefix_rfl

/-- What becomes of a header whose credentials are asked about, from the lines that are taken
together from its chunks. -/
structure HeaderPassed (c : ClientConnection) (chunks lines : List Bytes) (s : Stream) : Prop where
  assembled : ∃ later, Lines.assembled cr lf c.http.httpHeaderLine chunks = lines ++ [] :: later
  filled : ∀ line ∈ lines, line ≠ []
  rebuilt : s.conn.http.rebuiltHttpHeader =
    c.http.rebuiltHttpHeader ++ Lines.join cr lf (lines.flatMap rewritten) ++ crlf
  bytes : c.http.httpHeaderLine ++ chunks.flatten = Lines.join cr lf lines ++ crlf ++ s.pending

theorem passed_later {c : ClientConnection} {chunk tail : Bytes} {chunks lines more : List Bytes} {http : Http}
    {s : Stream} (split : Lines.Split cr lf chunk lines tail)
    (filled : ∀ p ∈ Lines.carried c.http.httpHeaderLine lines, p.1 ≠ [])
    (rebuilt : http.rebuiltHttpHeader = c.http.rebuiltHttpHeader ++ Lines.join cr lf
      ((Lines.carried c.http.httpHeaderLine lines).flatMap (fun p => rewritten p.1)))
    (line : http.httpHeaderLine = if lines = [] then c.http.httpHeaderLine ++ tail else tail)
    (passed : HeaderPassed { c with http } chunks more s) :
    HeaderPassed c (chunk :: chunks) ((Lines.carried c.http.httpHeaderLine lines).map Prod.fst ++ more) s := by
  obtain ⟨whole,left⟩ := split.held cr_ne_lf c.http.httpHeaderLine
  constructor
  · obtain ⟨after,assembled⟩ := passed.assembled
    refine ⟨after,?_⟩
    rw [Lines.assembled,whole,left,← line,assembled,List.append_assoc]
  · intro other member
    rcases List.mem_append.mp member with now | member
    · obtain ⟨p,piece,rfl⟩ := List.mem_map.mp now
      exact filled p piece
    · exact passed.filled other member
  · rw [passed.rebuilt,rebuilt,List.flatMap_append,List.flatMap_map,Lines.join_append,
      List.append_assoc c.http.rebuiltHttpHeader]
  · have held := passed.bytes
    rw [List.flatten_cons,Lines.join_append,← List.append_assoc,split.bytes,Lines.carried_bytes,← line,
      List.append_assoc,held]
    simp only [List.append_assoc]

theorem passed_now {c : ClientConnection} {chunk tail : Bytes} {chunks before after : List Bytes} {s : Stream}
    (split : Lines.Split cr lf chunk (before ++ [] :: after) tail)
    (clear : before = [] → c.http.httpHeaderLine = [])
    (filled : ∀ p ∈ Lines.carried c.http.httpHeaderLine before, p.1 ≠ [])
    (rebuilt : s.conn.http.rebuiltHttpHeader = c.http.rebuiltHttpHeader ++ Lines.join cr lf
      ((Lines.carried c.http.httpHeaderLine before).flatMap (fun p => rewritten p.1)) ++ crlf)
    (left : s.pending = Lines.join cr lf after ++ tail ++ chunks.flatten) :
    HeaderPassed c (chunk :: chunks) ((Lines.carried c.http.httpHeaderLine before).map Prod.fst) s := by
  obtain ⟨whole,-⟩ := split.held cr_ne_lf c.http.httpHeaderLine
  constructor
  · refine ⟨after ++ Lines.assembled cr lf (Lines.remainder cr lf c.http.httpHeaderLine chunk) chunks,?_⟩
    rw [Lines.assembled,whole,Lines.carried_append clear,Lines.carried_cons,List.map_append,List.map_cons,
      Lines.carried_whole,List.append_assoc]
    rfl
  · intro other member
    obtain ⟨p,piece,rfl⟩ := List.mem_map.mp member
    exact filled p piece
  · rw [rebuilt,List.flatMap_map]
  · have held : c.http.httpHeaderLine ++ (Lines.join cr lf before ++ crlf) =
        Lines.join cr lf ((Lines.carried c.http.httpHeaderLine before).map Prod.fst) ++ crlf := by
      rw [Lines.carried_bytes]
      by_cases none : before = []
      · rw [if_pos none,clear none]
        rfl
      · rw [if_neg none]
    rw [left,List.flatten_cons,split.bytes,Lines.join_append,Lines.join_cons,← held]
    simp [crlf]

theorem feed_passed (cfg : Config) {c : ClientConnection} (standing : Standing c) {chunks : List Bytes} {key : Bytes}
    (asked : (feed cfg (fresh c) chunks).effects = [.requestAuth key]) :
    ∃ lines, HeaderPassed c chunks lines (feed cfg (fresh c) chunks) := by
  induction chunks generalizing c with
  | nil => cases asked
  | cons chunk chunks ih =>
    have next : feed cfg (fresh c) (chunk :: chunks) = feed cfg (receive cfg (fresh c) chunk) chunks := rfl
    rw [next] at asked ⊢
    by_cases filled : chunk = []
    · subst filled
      have same : receive cfg (fresh c) [] = fresh c := if_pos rfl
      rw [same] at asked ⊢
      obtain ⟨lines,passed⟩ := ih standing asked
      exact ⟨lines,passed.assembled,passed.filled,passed.rebuilt,passed.bytes⟩
    · obtain ⟨lines,tail,split⟩ := Lines.exists_split (x := cr) (y := lf) chunk
      have call : onData cfg c chunk = normalLines cfg chunk.length tail c lines 0 := onData_standing standing split
      have first : (onData cfg c chunk).effects <+: [.requestAuth key] := by
        rw [← asked]
        exact (receive_effects cfg standing filled).trans (feed_grows cfg _ chunks)
      have handled := normalLines_handled cfg chunk.length tail c lines 0
      cases last : ending (Lines.carried c.http.httpHeaderLine lines) with
      | unfinished =>
        obtain ⟨later,http,reading,rebuilt,line⟩ := normalLines_unfinished cfg chunk.length tail c lines 0 last
        rw [receive_unfinished cfg standing filled (call.trans reading)] at asked ⊢
        obtain ⟨more,passed⟩ := ih (c := { c with http }) ⟨standing.phase,standing.reading⟩ asked
        exact ⟨_,passed_later split later rebuilt line passed⟩
      | blank =>
        obtain ⟨before,after,rfl,clear,later,rebuilt,consumed,answer⟩ :=
          normalLines_blank cfg chunk.length tail c lines 0 last
        rw [← call] at rebuilt consumed answer
        rcases answer with refused | suspended
        · rw [refused] at first
          exact absurd first.length_le (by simp)
        · have size : 0 + (Lines.join cr lf before).length + 2 =
            (Lines.join cr lf before).length + 1 + 1 := by omega
          have rest : chunk.drop ((Lines.join cr lf before).length + 1 + 1) =
              Lines.join cr lf after ++ tail := by
            rw [split.bytes,Lines.join_append,Lines.join_cons,List.append_assoc,Nat.add_assoc,
              ← List.drop_drop,List.drop_left]
            rfl
          rw [size] at consumed
          rw [receive_blank cfg standing filled consumed suspended,feed_suspended cfg suspended]
          exact ⟨_,passed_now split clear later rebuilt (by rw [rest])⟩
      | refused =>
        rw [call,handled.effects,last] at first
        have member : Effect.kill ∈ [Effect.requestAuth key] := first.subset (by simp [Ending.effects])
        exact absurd member (by simp)
      | outOfBounds =>
        rw [call,handled.effects,last] at first
        have member : Effect.readOutOfBounds ∈ [Effect.requestAuth key] :=
          first.subset (by simp [Ending.effects])
        exact absurd member (by simp)

/-! ## Lines -/

/-- What is to go to the target for a header line. -/
def hidden (line : Bytes) : List Bytes :=
  if hasName (ascii "Proxy-Authorization") line then [] else rewritten line

/-- What goes to the target for a line that was taken together, in lines. -/
def passes (line : Bytes) : List Bytes :=
  if isRecognised line then rewritten line else Lines.parts cr lf line

/-- Nothing is to be changed. -/
def Untouched (field : Bytes) : Prop :=
  hasName (ascii "Proxy-Authorization") field = false ∧
    (isRecognised field = false ∨ field = connectionClose)

def Dropped (field : Bytes) : Prop :=
  hasName (ascii "Proxy-Authorization") field = true ∨ isProxyConnection field = true

instance (field : Bytes) : Decidable (Untouched field) := inferInstanceAs (Decidable (_ ∧ _))

instance (field : Bytes) : Decidable (Dropped field) := inferInstanceAs (Decidable (_ ∨ _))

/-- Only the first is to be replaced, the others are to be dropped. -/
def ReplacedFirst : List Bytes → Prop
  | [] => False
  | field :: rest => isConnection field = true ∧ ∀ other ∈ rest, Dropped other

instance : (fields : List Bytes) → Decidable (ReplacedFirst fields)
  | [] => inferInstanceAs (Decidable False)
  | _ :: _ => inferInstanceAs (Decidable (_ ∧ _))

/-- Whatever is copied, dropped or replaced together with the line is to be. -/
def Heeded (line : Bytes) : Prop :=
  if isRecognised line = false then ∀ field ∈ Lines.parts cr lf line, Untouched field
  else if hasName (ascii "Connection") line = false then ∀ field ∈ Lines.parts cr lf line, Dropped field
  else ReplacedFirst (Lines.parts cr lf line)

instance (line : Bytes) : Decidable (Heeded line) :=
  inferInstanceAs (Decidable (if isRecognised line = false then
      ∀ field ∈ Lines.parts cr lf line, Untouched field
    else if hasName (ascii "Connection") line = false then ∀ field ∈ Lines.parts cr lf line, Dropped field
    else ReplacedFirst (Lines.parts cr lf line)))

theorem hidden_cases (field : Bytes) :
    (Dropped field ∧ hidden field = []) ∨ (isConnection field = true ∧ hidden field = [connectionClose]) ∨
      (isRecognised field = false ∧ hasName (ascii "Proxy-Authorization") field = false ∧
        hidden field = [field]) := by
  cases named : hasName (ascii "Proxy-Authorization") field with
  | true => exact .inl ⟨.inl named,if_pos named⟩
  | false =>
    have same : hidden field = rewritten field := if_neg (by simp [named])
    cases proxy : isProxyConnection field with
    | true => exact .inl ⟨.inr proxy,by rw [same,rewritten,if_pos proxy]⟩
    | false =>
      cases plain : isConnection field with
      | true => exact .inr (.inl ⟨rfl,by simp [same,rewritten,proxy,plain]⟩)
      | false =>
        have other : isCredentials field = false := by
          rw [Bool.eq_false_iff]
          intro credentials
          rw [hasName_credentials credentials] at named
          cases named
        have copied : isRecognised field = false := by simp [isRecognised,proxy,plain,other]
        exact .inr (.inr ⟨copied,rfl,by rw [same,rewritten_copied copied]⟩)

/-- Neither of the kinds of line that are dropped. -/
theorem connection_not_dropped {field : Bytes} (named : hasName (ascii "Connection") field = true) :
    ¬ Dropped field := by
  rintro (credentials | proxy)
  · have other : hasName (ascii "Proxy-Authorization") field = false :=
      hasName_differ (i := 0) (t := 67) (u := 80) named (by decide) (by decide) (by decide)
    rw [other] at credentials
    cases credentials
  · have other : hasName (ascii "Proxy-Connection") field = false :=
      hasName_differ (i := 0) (t := 67) (u := 80) named (by decide) (by decide) (by decide)
    rw [hasName_proxyConnection proxy] at other
    cases other

theorem length_hidden (field : Bytes) : (hidden field).length ≤ 1 := by
  rcases hidden_cases field with ⟨-,same⟩ | ⟨-,same⟩ | ⟨-,-,same⟩ <;> simp [same]

theorem hidden_nil (field : Bytes) : hidden field = [] ↔ Dropped field := by
  constructor
  · intro none
    rcases hidden_cases field with ⟨dropped,-⟩ | ⟨-,same⟩ | ⟨-,-,same⟩
    · exact dropped
    · rw [none] at same
      cases same
    · rw [none] at same
      cases same
  · rintro (named | proxy)
    · exact if_pos named
    · have other : hasName (ascii "Proxy-Authorization") field = false :=
        hasName_differ (i := 6) (t := 67) (u := 65) (hasName_proxyConnection proxy) (by decide) (by decide)
          (by decide)
      rw [hidden,if_neg (by simp [other]),rewritten,if_pos proxy]

theorem hidden_self (field : Bytes) : hidden field = [field] ↔ Untouched field := by
  constructor
  · intro same
    have kept : ¬ Dropped field := by
      rw [← hidden_nil,same]
      simp
    have unnamed : hasName (ascii "Proxy-Authorization") field = false := by
      rw [Bool.eq_false_iff]
      exact fun named => kept (.inl named)
    rcases hidden_cases field with ⟨dropped,-⟩ | ⟨-,closed⟩ | ⟨copied,-,-⟩
    · exact absurd dropped kept
    · exact ⟨unnamed,.inr (List.singleton_inj.mp (same.symm.trans closed))⟩
    · exact ⟨unnamed,.inl copied⟩
  · rintro ⟨unnamed,copied | rfl⟩
    · rw [hidden,if_neg (by simp [unnamed]),rewritten_copied copied]
    · decide

/-- What is let through is not one of the lines that are dropped. -/
theorem hidden_mem {field other : Bytes} (member : other ∈ hidden field) : ¬ Dropped other := by
  rcases hidden_cases field with ⟨-,same⟩ | ⟨-,same⟩ | ⟨copied,unnamed,same⟩
  · rw [same] at member
    cases member
  · rw [same,List.mem_singleton] at member
    rw [member]
    exact connection_not_dropped (by decide)
  · rw [same,List.mem_singleton] at member
    rw [member]
    rintro (named | proxy)
    · rw [unnamed] at named
      cases named
    · simp only [isRecognised,proxy,Bool.true_or] at copied
      cases copied

theorem length_hidden_kept {field : Bytes} (kept : ¬ Dropped field) : (hidden field).length = 1 := by
  have some_ : hidden field ≠ [] := fun none => kept ((hidden_nil field).mp none)
  have one := length_hidden field
  have positive := List.length_pos_iff.mpr some_
  omega

/-! ## Lines that are taken together -/

theorem flatMap_inj {α β : Type*} {f g : α → List β} {list : List α}
    (shorter : ∀ a ∈ list, (f a).length ≤ (g a).length) (same : list.flatMap f = list.flatMap g) :
    ∀ a ∈ list, f a = g a := by
  induction list with
  | nil => simp
  | cons a list ih =>
    rw [List.flatMap_cons,List.flatMap_cons] at same
    have later : ∀ b ∈ list, (f b).length ≤ (g b).length := fun b member => shorter b (by simp [member])
    have rest : (list.flatMap f).length ≤ (list.flatMap g).length := by
      rw [List.length_flatMap,List.length_flatMap]
      exact List.sum_le_sum later
    have total := congrArg List.length same
    rw [List.length_append,List.length_append] at total
    have here := shorter a (by simp)
    obtain ⟨first,tails⟩ := List.append_inj same (by omega)
    intro b member
    rcases List.mem_cons.mp member with rfl | member
    · exact first
    · exact ih later tails b member

/-- The first line begins as all of them do. -/
theorem parts_start {text line : Bytes} (starts : startsWithCI text line = true)
    (foreign : toLower cr ∉ text.map toLower) :
    ∃ field rest, Lines.parts cr lf line = field :: rest ∧ startsWithCI text field = true := by
  obtain ⟨field,rest,split,bytes⟩ := Lines.parts_cons cr_ne_lf line
  refine ⟨field,rest,split,?_⟩
  have long : text.length ≤ line.length := by
    simp only [startsWithCI,Bool.and_eq_true,decide_eq_true_eq] at starts
    exact starts.1
  have whole : startsWithCI text (field ++ cr :: lf :: Lines.join cr lf rest) = true := by
    rw [bytes,startsWithCI_append long]
    exact starts
  by_cases short : field.length < text.length
  · rw [startsWithCI_stop short foreign] at whole
    cases whole
  · rwa [startsWithCI_append (Nat.not_lt.mp short)] at whole

theorem passes_recognised {line : Bytes} (recognised : isRecognised line = true) :
    passes line = if hasName (ascii "Connection") line then [connectionClose] else [] := by
  rw [passes,if_pos recognised,rewritten_hop recognised]

theorem passes_copied {line : Bytes} (copied : isRecognised line = false) :
    passes line = Lines.parts cr lf line := by
  rw [passes,copied]
  rfl

theorem heeded_iff (line : Bytes) :
    Heeded line ↔ passes line = (Lines.parts cr lf line).flatMap hidden := by
  cases recognised : isRecognised line with
  | false =>
    rw [Heeded,if_pos recognised,passes_copied recognised]
    constructor
    · intro untouched
      have single : (Lines.parts cr lf line).flatMap hidden = (Lines.parts cr lf line).flatMap (fun f => [f]) :=
        List.flatMap_congr (fun field member => (hidden_self field).mpr (untouched field member))
      rw [single,List.flatMap_singleton']
    · intro same field member
      rw [← hidden_self]
      refine flatMap_inj (g := fun f => [f]) (fun other _ => length_hidden other) ?_ field member
      rw [← same,List.flatMap_singleton']
  | true =>
    rw [Heeded,if_neg (by simp [recognised]),passes_recognised recognised]
    cases named : hasName (ascii "Connection") line with
    | false =>
      rw [if_pos rfl,if_neg (by simp),eq_comm,List.flatMap_eq_nil_iff]
      exact forall_congr' (fun field => imp_congr_right (fun _ => (hidden_nil field).symm))
    | true =>
      rw [if_neg (by simp),if_pos rfl]
      obtain ⟨field,rest,split,starts⟩ := parts_start named (by decide)
      rw [split]
      constructor
      · rintro ⟨plain,dropped⟩
        have last : rest.flatMap hidden = [] :=
          List.flatMap_eq_nil_iff.mpr (fun other member => (hidden_nil other).mpr (dropped other member))
        rw [List.flatMap_cons,last]
        rcases hidden_cases field with ⟨out,-⟩ | ⟨-,same⟩ | ⟨copied,-,-⟩
        · exact absurd out (connection_not_dropped (hasName_connection plain))
        · rw [same]
          rfl
        · simp [isRecognised,plain] at copied
      · intro same
        rw [List.flatMap_cons] at same
        have one := length_hidden_kept (connection_not_dropped starts)
        have total := congrArg List.length same
        simp only [List.length_singleton,List.length_append] at total
        have none : rest.flatMap hidden = [] := List.length_eq_zero_iff.mp (by omega)
        rw [none,List.append_nil] at same
        refine ⟨?_,fun other member => ?_⟩
        · rcases hidden_cases field with ⟨-,out⟩ | ⟨plain,-⟩ | ⟨-,-,self⟩
          · rw [out] at same
            cases same
          · exact plain
          · obtain rfl : connectionClose = field := List.singleton_inj.mp (same.trans self)
            decide
        · exact (hidden_nil other).mp (List.flatMap_eq_nil_iff.mp none other member)

/-- What is let through has no more lines than it should have, if none is let through that should
be dropped. -/
theorem length_passes {line : Bytes}
    (kept : isRecognised line = false → ∀ field ∈ Lines.parts cr lf line, ¬ Dropped field) :
    (passes line).length ≤ ((Lines.parts cr lf line).flatMap hidden).length := by
  cases recognised : isRecognised line with
  | false =>
    have one : (Lines.parts cr lf line).map (fun field => (hidden field).length) =
        (Lines.parts cr lf line).map (fun _ => 1) :=
      List.map_congr_left (fun field member => length_hidden_kept (kept recognised field member))
    rw [passes_copied recognised,List.length_flatMap,one]
    simp
  | true =>
    rw [passes_recognised recognised]
    cases named : hasName (ascii "Connection") line with
    | false => simp
    | true =>
      obtain ⟨field,rest,split,starts⟩ := parts_start named (by decide)
      have one := length_hidden_kept (connection_not_dropped starts)
      rw [split,List.flatMap_cons,List.length_append,one,if_pos rfl]
      exact Nat.le_add_right 1 _

theorem all_heeded (lines : List Bytes) :
    lines.flatMap passes = (lines.flatMap (Lines.parts cr lf)).flatMap hidden ↔
      ∀ line ∈ lines, Heeded line := by
  rw [List.flatMap_assoc]
  constructor
  · intro same
    have kept (line : Bytes) (member : line ∈ lines) (copied : isRecognised line = false) :
        ∀ field ∈ Lines.parts cr lf line, ¬ Dropped field := by
      intro field part
      have out : field ∈ lines.flatMap passes :=
        List.mem_flatMap.mpr ⟨line,member,by rw [passes_copied copied]; exact part⟩
      rw [same] at out
      obtain ⟨group,-,inner⟩ := List.mem_flatMap.mp out
      obtain ⟨origin,-,let_through⟩ := List.mem_flatMap.mp inner
      exact hidden_mem let_through
    intro line member
    rw [heeded_iff]
    exact flatMap_inj (fun other inside => length_passes (kept other inside)) same line member
  · intro heeded
    exact List.flatMap_congr (fun line member => (heeded_iff line).mp (heeded line member))

/-! ## Two headers -/

/-- A header that arrives in chunks, with what comes behind it. -/
structure Delivery where
  block : HeaderBlock
  chunks : List Bytes
  rest : Bytes
  whole : chunks.flatten = block.bytes ++ rest

namespace Delivery

def outcome (d : Delivery) (cfg : Config) (c : ClientConnection) : Stream := feed cfg (fresh c) d.chunks

/-- What is to go to the target. -/
def sent (d : Delivery) (cfg : Config) (c : ClientConnection) : Bytes :=
  (d.outcome cfg c).conn.http.rebuiltHttpHeader

/-- At the end of the header the credentials are asked about. -/
def Proceeds (d : Delivery) (cfg : Config) (c : ClientConnection) : Prop :=
  (d.outcome cfg c).pending = d.rest ∧ ∃ key, (d.outcome cfg c).effects = [.requestAuth key]

/-- The lines as they are taken together, up to the blank one. -/
def lines (d : Delivery) : List Bytes := (Lines.assembled cr lf [] d.chunks).takeWhile (· ≠ [])

def AllHeeded (d : Delivery) : Prop := ∀ line ∈ d.lines, Heeded line

instance (d : Delivery) : Decidable d.AllHeeded := inferInstanceAs (Decidable (∀ line ∈ d.lines, Heeded line))

end Delivery

/-- Fields that are the same, or have the name of the credentials both. -/
def AlikeFields (field other : Bytes) : Prop :=
  field = other ∨ hasName (ascii "Proxy-Authorization") field = true ∧
    hasName (ascii "Proxy-Authorization") other = true

/-- Headers that differ only in the values of such fields. -/
def Alike (block other : HeaderBlock) : Prop := List.Forall₂ AlikeFields block.lines other.lines

theorem join_rewritten (lines : List Bytes) :
    Lines.join cr lf (lines.flatMap rewritten) = Lines.join cr lf (lines.flatMap passes) := by
  induction lines with
  | nil => rfl
  | cons line lines ih =>
    rw [List.flatMap_cons,List.flatMap_cons,Lines.join_append,Lines.join_append,ih]
    congr 1
    cases recognised : isRecognised line with
    | true => rw [passes,if_pos recognised]
    | false =>
      rw [passes_copied recognised,rewritten_copied recognised,Lines.join_parts cr_ne_lf,Lines.join_cons]
      rfl

theorem passes_free {line field : Bytes} (member : field ∈ passes line) : Lines.Free cr lf field := by
  cases recognised : isRecognised line with
  | true =>
    rw [passes_recognised recognised] at member
    split at member
    · rw [List.mem_singleton.mp member]
      exact connectionClose_free
    · cases member
  | false =>
    rw [passes_copied recognised] at member
    exact (Lines.split_parts cr_ne_lf line).free field member

theorem takeWhile_filled {lines later : List Bytes} (filled : ∀ line ∈ lines, line ≠ []) :
    (lines ++ [] :: later).takeWhile (· ≠ []) = lines := by
  induction lines with
  | nil => rfl
  | cons line lines ih =>
    rw [List.cons_append,List.takeWhile_cons_of_pos (by simpa using filled line (by simp)),
      ih (fun other member => filled other (by simp [member]))]

/-- The header from the lines that are taken together. -/
theorem sent_eq {c : ClientConnection} (standing : Standing c) (clear : c.http.httpHeaderLine = [])
    {d : Delivery} (proceeds : d.Proceeds cfg c) :
    d.sent cfg c = c.http.rebuiltHttpHeader ++ Lines.join cr lf (d.lines.flatMap passes) ++ crlf ∧
      d.block.lines = d.lines.flatMap (Lines.parts cr lf) := by
  obtain ⟨left,key,asked⟩ := proceeds
  obtain ⟨lines,passed⟩ := feed_passed cfg standing asked
  obtain ⟨later,assembled⟩ := passed.assembled
  have same : d.lines = lines := by
    rw [clear] at assembled
    rw [Delivery.lines,assembled,takeWhile_filled passed.filled]
  have bytes := passed.bytes
  rw [clear,List.nil_append,d.whole,HeaderBlock.bytes] at bytes
  have pending : (feed cfg (fresh c) d.chunks).pending = d.rest := left
  rw [pending,List.append_cancel_right_eq,List.append_cancel_right_eq] at bytes
  rw [same]
  refine ⟨passed.rebuilt.trans (by rw [join_rewritten]),?_⟩
  have split : Lines.Split cr lf (Lines.join cr lf lines) d.block.lines [] :=
    ⟨by rw [bytes,List.append_nil],fun field member => (d.block.fields field member).2,Lines.free_nil⟩
  exact (split.unique cr_ne_lf (Lines.split_join cr_ne_lf lines)).1

theorem alike_hidden {lines others : List Bytes} (alike : List.Forall₂ AlikeFields lines others) :
    lines.flatMap hidden = others.flatMap hidden := by
  induction alike with
  | nil => rfl
  | cons head _ ih =>
    rw [List.flatMap_cons,List.flatMap_cons,ih]
    rcases head with rfl | ⟨named,named'⟩
    · rfl
    · rw [hidden,if_pos named,hidden,if_pos named']

theorem sent_iff {c : ClientConnection} (standing : Standing c) (clear : c.http.httpHeaderLine = [])
    {x y : Delivery} (px : x.Proceeds cfg c) (py : y.Proceeds cfg c) :
    x.sent cfg c = y.sent cfg c ↔ x.lines.flatMap passes = y.lines.flatMap passes := by
  rw [(sent_eq standing clear px).1,(sent_eq standing clear py).1,List.append_cancel_right_eq,
    List.append_cancel_left_eq]
  refine ⟨join_injective ?_ ?_,fun same => by rw [same]⟩
  · intro field member
    obtain ⟨line,-,inner⟩ := List.mem_flatMap.mp member
    exact passes_free inner
  · intro field member
    obtain ⟨line,-,inner⟩ := List.mem_flatMap.mp member
    exact passes_free inner

/-- Two headers that differ only in the credentials give the same bytes to the target if the lines of
both are heeded, and do not if the lines of just one are. -/
theorem credentials_hidden (cfg : Config) {c : ClientConnection} (standing : Standing c)
    (clear : c.http.httpHeaderLine = []) {x y : Delivery} (alike : Alike x.block y.block)
    (px : x.Proceeds cfg c) (py : y.Proceeds cfg c) :
    (x.AllHeeded ∧ y.AllHeeded → x.sent cfg c = y.sent cfg c) ∧
      (x.sent cfg c = y.sent cfg c → (x.AllHeeded ↔ y.AllHeeded)) := by
  have hx : x.lines.flatMap passes = x.block.lines.flatMap hidden ↔ x.AllHeeded := by
    rw [(sent_eq standing clear px).2]
    exact all_heeded x.lines
  have hy : y.lines.flatMap passes = x.block.lines.flatMap hidden ↔ y.AllHeeded := by
    rw [alike_hidden alike,(sent_eq standing clear py).2]
    exact all_heeded y.lines
  rw [sent_iff standing clear px py,← hx,← hy]
  constructor
  · rintro ⟨left,right⟩
    exact left.trans right.symm
  · intro same
    rw [same]

/-- A connection that has sent its request line. -/
def requested : ClientConnection :=
  (onChallenge { connectionId := 1, remoteIp := [] } (ascii "GET http://h/ HTTP/1.1\r\n")).conn

/-- A header with this field, in one chunk. -/
def fieldHeader (field : Bytes) (fine : field ≠ [] ∧ Lines.Free cr lf field) : Delivery where
  block :=
    { lines := [field,ascii "Proxy-Authorization: Basic dTpw"]
      fields := by
        have other : ascii "Proxy-Authorization: Basic dTpw" ≠ [] ∧
          Lines.Free cr lf (ascii "Proxy-Authorization: Basic dTpw") := by decide
        intro line member
        rcases List.mem_cons.mp member with rfl | member
        · exact fine
        · rw [List.mem_singleton.mp member]
          exact other }
  chunks := [Lines.join cr lf [field,ascii "Proxy-Authorization: Basic dTpw"] ++ crlf]
  rest := []
  whole := by simp [HeaderBlock.bytes]

theorem fieldHeader_alike {field other : Bytes} (fine : field ≠ [] ∧ Lines.Free cr lf field)
    (fine' : other ≠ [] ∧ Lines.Free cr lf other)
    (named : hasName (ascii "Proxy-Authorization") field = true)
    (named' : hasName (ascii "Proxy-Authorization") other = true) :
    Alike (fieldHeader field fine).block (fieldHeader other fine').block :=
  .cons (.inr ⟨named,named'⟩) (.cons (.inl rfl) .nil)

theorem credentials_hidden_basic :
    (fieldHeader (ascii "Proxy-Authorization: Basic eDp5") (by decide)).sent referenceConfig requested =
      (fieldHeader (ascii "Proxy-Authorization: Basic ejp6") (by decide)).sent referenceConfig requested :=
  (credentials_hidden referenceConfig (c := requested) ⟨by decide +kernel,by decide +kernel⟩ (by decide +kernel)
    (fieldHeader_alike _ _ (by decide) (by decide)) ⟨by decide +kernel,ascii "u:p",by decide +kernel⟩
    ⟨by decide +kernel,ascii "u:p",by decide +kernel⟩).1 ⟨by decide +kernel,by decide +kernel⟩

/-- Without a blank behind the colon, the value goes to the target. -/
theorem credentials_leak :
    Alike (fieldHeader (ascii "Proxy-Authorization:x") (by decide)).block
        (fieldHeader (ascii "Proxy-Authorization:y") (by decide)).block ∧
      (fieldHeader (ascii "Proxy-Authorization:x") (by decide)).Proceeds referenceConfig requested ∧
      (fieldHeader (ascii "Proxy-Authorization:y") (by decide)).Proceeds referenceConfig requested ∧
      (fieldHeader (ascii "Proxy-Authorization:x") (by decide)).sent referenceConfig requested ≠
        (fieldHeader (ascii "Proxy-Authorization:y") (by decide)).sent referenceConfig requested :=
  ⟨fieldHeader_alike _ _ (by decide) (by decide),⟨by decide +kernel,ascii "u:p",by decide +kernel⟩,
    ⟨by decide +kernel,ascii "u:p",by decide +kernel⟩,by decide +kernel⟩

end MiniPP.Proxy
