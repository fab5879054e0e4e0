import Mathlib.Data.List.Induction
import MiniPP.Proxy.Feed

/-! A CONNECT head that arrives in pieces. Each call of the handler forgets the credentials
that the lines of earlier calls held, so what counts is where the last piece begins. -/
namespace MiniPP.Proxy

variable {cfg : Config}

structure ConnectHead where
  line : Bytes
  headers : List Bytes
  connect : startsWithCI (ascii "CONNECT ") line = true
  free : Lines.Free cr lf line
  fields : ∀ header ∈ headers, header ≠ [] ∧ Lines.Free cr lf header

namespace ConnectHead

/-- The lines after the first, the blank one included. -/
def rest (head : ConnectHead) : List Bytes := head.headers ++ [[]]

def bytes (head : ConnectHead) : Bytes := head.line ++ cr :: lf :: Lines.join cr lf head.rest

/-- What the line names before the first colon or blank. -/
def host (head : ConnectHead) : Bytes := (connectTarget (head.line.drop 8) (head.line.drop 8) []).1

end ConnectHead

/-- What became of a head: the keys presented, whether it was refused or killed, and the phase. -/
structure Outcome where
  keys : List Bytes := []
  refused : Bool := false
  killed : Bool := false
  phase : Phase
  deriving DecidableEq, Repr

def Stream.outcome (s : Stream) : Outcome where
  keys := s.effects.filterMap Effect.key
  refused := .postData http407Response ∈ s.effects
  killed := .kill ∈ s.effects
  phase := s.conn.phase

/-- The outcome when the last piece begins after `cut` bytes. -/
def ConnectHead.outcome (cfg : Config) (head : ConnectHead) (cut : Nat) : Outcome :=
  if head.host = [] then { killed := true, phase := .unknown }
  else if head.headers.any isMalformed then { killed := true, phase := .httpRawChallenge }
  else
    let late := Lines.after (cut - (head.line.length + 2)) head.rest
    if lastCredentials cfg late = [] then { refused := true, phase := .httpRawChallenge }
    else { keys := [lastCredentials cfg late], phase := .httpRawWaitForAccountExchange }

/-! ## Calls -/

/-- The state of a connection between two pieces of the header. -/
structure Between (s : Stream) : Prop where
  phase : s.conn.phase = .httpRawChallenge
  reading : s.conn.readingSuspended = false
  valid : s.invalid = false

/-- It depends neither on the bytes at hand nor on what was done before. -/
theorem Between.update {s : Stream} (between : Between s) (pending : Bytes) (effects : List Effect) :
    Between { s with pending, effects } := ⟨between.phase,between.reading,between.valid⟩

theorem onData_between {s : Stream} (between : Between s) {lines : List Bytes} {tail : Bytes}
    (split : Lines.Split cr lf s.pending lines tail) :
    onData cfg s.conn s.pending = rawLines cfg s.conn lines [] 0 := by
  rw [← rawLoop_lines cfg s.conn split [] 0 (Nat.lt_succ_self _)]
  simp only [onData,between.phase,onHttpRawChallenge]

/-- Nothing happens as long as a line is not complete. -/
theorem pump_unfinished {s : Stream} (between : Between s) (unfinished : Lines.Free cr lf s.pending)
    (fuel : Nat) : pump cfg fuel s = s := by
  cases fuel with
  | zero => rfl
  | succ fuel =>
    by_cases present : s.pending = []
    · simp [pump,present]
    · have handled : onData cfg s.conn s.pending = ⟨s.conn,[],some 0⟩ :=
        onData_between between (Lines.split_free unfinished)
      rw [pump_stop present between.reading between.valid (by rw [handled]),handled]
      simp

/-- Plain lines are consumed, and forgotten. -/
theorem pump_plain {s : Stream} (between : Between s) {lines : List Bytes} {tail : Bytes}
    (split : Lines.Split cr lf s.pending lines tail) (plain : ∀ line ∈ lines, Plain line) {fuel : Nat}
    (enough : s.pending.length < fuel) : pump cfg fuel s = { s with pending := tail } := by
  cases lines with
  | nil =>
    obtain same : s.pending = tail := split.bytes
    rw [pump_unfinished between (same ▸ split.unfinished),← same]
  | cons line lines =>
    obtain ⟨fuel,rfl⟩ := Nat.exists_eq_succ_of_ne_zero (Nat.ne_zero_of_lt enough)
    have handled : onData cfg s.conn s.pending =
        ⟨s.conn,[],some (Lines.join cr lf (line :: lines)).length⟩ := by
      rw [onData_between between split]
      have all : rawLines cfg s.conn (line :: lines ++ []) [] 0 = _ := rawLines_plain cfg s.conn plain [] [] 0
      rwa [List.append_nil,Nat.zero_add] at all
    obtain ⟨n,positive⟩ : ∃ n, (Lines.join cr lf (line :: lines)).length = n + 1 := by
      rw [Lines.join_cons,List.length_append,List.length_cons]
      exact ⟨_,rfl⟩
    have present : s.pending ≠ [] := by
      rw [split.bytes,Lines.join_cons]
      simp
    rw [pump_more present between.reading between.valid (by rw [handled,positive]),handled]
    have left : s.pending.drop (n + 1) = tail := by
      rw [← positive,split.bytes,List.drop_left]
    simp only [left,List.append_nil]
    exact pump_unfinished (between.update tail s.effects) split.unfinished fuel

/-- A malformed line is not consumed, and neither are the lines before it. -/
theorem pump_bad {s : Stream} (between : Between s) {lines more : List Bytes} {bad tail : Bytes}
    (split : Lines.Split cr lf s.pending (lines ++ bad :: more) tail)
    (plain : ∀ line ∈ lines, Plain line) (filled : bad ≠ []) (malformed : isMalformed bad = true)
    {fuel : Nat} (enough : s.pending.length < fuel) :
    pump cfg fuel s = { s with effects := s.effects ++ [.kill] } := by
  obtain ⟨fuel,rfl⟩ := Nat.exists_eq_succ_of_ne_zero (Nat.ne_zero_of_lt enough)
  have handled : onData cfg s.conn s.pending = ⟨s.conn,[.kill],some 0⟩ := by
    rw [onData_between between split,rawLines_bad cfg s.conn plain filled malformed]
  have present : s.pending ≠ [] := by
    rw [split.bytes,Lines.join_append,Lines.join_cons]
    simp
  rw [pump_stop present between.reading between.valid (by rw [handled]),handled]

/-- The blank line, with the credentials of the lines before it that came in this call. -/
theorem pump_blank (cfg : Config) {s : Stream} (between : Between s) {lines : List Bytes}
    (split : Lines.Split cr lf s.pending (lines ++ [[]]) []) (plain : ∀ line ∈ lines, Plain line)
    {fuel : Nat} (enough : s.pending.length < fuel) :
    (pump cfg fuel s).effects = s.effects ++
        (if lastCredentials cfg lines = [] then [.postData http407Response,.lingerKill]
          else [.requestAuth (lastCredentials cfg lines)]) ∧
      (pump cfg fuel s).conn.phase =
        (if lastCredentials cfg lines = [] then .httpRawChallenge else .httpRawWaitForAccountExchange) := by
  obtain ⟨fuel,rfl⟩ := Nat.exists_eq_succ_of_ne_zero (Nat.ne_zero_of_lt enough)
  have handled : onData cfg s.conn s.pending =
      rawLines cfg s.conn [[]] (lastCredentials cfg lines) (Lines.join cr lf lines).length := by
    rw [onData_between between split,rawLines_plain cfg s.conn plain,Nat.zero_add,lastCredentials]
  have present : s.pending ≠ [] := by
    rw [split.bytes,Lines.join_append,Lines.join_cons]
    simp
  simp only [rawLines,if_true] at handled
  by_cases empty : lastCredentials cfg lines = []
  · rw [if_pos empty] at handled
    rw [pump_stop present between.reading between.valid (by rw [handled]),handled,if_pos empty,
      if_pos empty]
    exact ⟨rfl,between.phase⟩
  · rw [if_neg empty] at handled
    rw [pump_more present between.reading between.valid (by rw [handled]),handled,if_neg empty,
      if_neg empty]
    cases fuel <;> simp [pump]

/-! ## The first line -/

/-- The host does not depend on what follows the line. -/
theorem connectTarget_host (line buffer host : Bytes) (long : line.length ≤ buffer.length) :
    (connectTarget line buffer host).1 = (connectTarget line line host).1 := by
  induction line generalizing buffer host with
  | nil => cases buffer <;> rfl
  | cons b line ih =>
    cases buffer with
    | nil => simp at long
    | cons b' buffer =>
      simp only [connectTarget]
      split
      · rfl
      · split
        · rfl
        · exact ih _ _ (by simpa using long)

theorem ConnectHead.length_line (head : ConnectHead) : 8 ≤ head.line.length := by
  have connect := head.connect
  simp only [startsWithCI,ge_iff_le,Bool.and_eq_true,decide_eq_true_eq] at connect
  exact connect.1

/-- The line does not begin like a SOCKS5 greeting. -/
theorem ConnectHead.not_socks (head : ConnectHead) (view : Bytes) :
    (head.line ++ view).getD 0 0 ≠ 0x05 := by
  have connect := head.connect
  have long := head.length_line
  obtain ⟨b,line,split⟩ := List.exists_cons_of_length_pos (Nat.lt_of_lt_of_le (by decide) long)
  rw [split] at connect ⊢
  simp only [startsWithCI,Bool.and_eq_true,beq_iff_eq] at connect
  intro socks
  obtain rfl : b = 0x05 := by simpa using socks
  have first : some (toLower 0x05) = some (toLower 67) := congrArg List.head? connect.2
  exact absurd first (by decide)

theorem onData_first (cfg : Config) (head : ConnectHead) {c : ClientConnection} (phase : c.phase = .unknown)
    (view : Bytes) : ∃ port, onData cfg c (head.line ++ cr :: lf :: view) =
      if head.host = [] then ⟨c,[.kill],some 0⟩
      else
        ⟨{ c with
            http := { c.http with targetHost := head.host, targetPort := port }
            phase := .httpRawChallenge },[],some (head.line.length + 2)⟩ := by
  have long := head.length_line
  have size : ¬ (head.line ++ cr :: lf :: view).length < 3 := by
    rw [List.length_append]; omega
  have ends : findCrlf (head.line ++ cr :: lf :: view) = some head.line.length := by
    rw [findCrlf_eq,Lines.find_append cr_ne_lf head.free]
  obtain ⟨k,length⟩ : ∃ k, head.line.length = k + 1 := ⟨head.line.length - 1,by omega⟩
  have named : startsWithCI (ascii "CONNECT ") (head.line ++ cr :: lf :: view) = true := by
    have fits : (ascii "CONNECT ").length ≤ head.line.length := long
    rw [startsWithCI_append fits,head.connect]
  have host : (connectTarget (head.line.drop 8) ((head.line ++ cr :: lf :: view).drop 8) []).1 =
      head.host := by
    apply connectTarget_host _ _ _
    rw [List.length_drop,List.length_drop,List.length_append]
    omega
  refine ⟨(connectTarget (head.line.drop 8) ((head.line ++ cr :: lf :: view).drop 8) []).2,?_⟩
  simp only [onData,phase,onChallenge,if_neg size,if_neg (head.not_socks _),onHttpChallenge,ends]
  rw [length]
  simp only [named,if_true]
  rw [← length,List.take_left' rfl]
  simp only [host,List.length_eq_zero_iff]

theorem pump_refused (head : ConnectHead) {s : Stream} (phase : s.conn.phase = .unknown)
    (reading : s.conn.readingSuspended = false) (valid : s.invalid = false) {view : Bytes}
    (complete : s.pending = head.line ++ cr :: lf :: view) (none : head.host = []) (fuel : Nat) :
    pump cfg (fuel + 1) s = { s with effects := s.effects ++ [.kill] } := by
  obtain ⟨port,first⟩ := onData_first cfg head phase view
  rw [if_pos none,← complete] at first
  rw [pump_stop (by simp [complete]) reading valid (by rw [first]),first]

theorem pump_first (cfg : Config) (head : ConnectHead) {s : Stream} (phase : s.conn.phase = .unknown)
    (reading : s.conn.readingSuspended = false) (valid : s.invalid = false) {view : Bytes}
    (complete : s.pending = head.line ++ cr :: lf :: view) (named : head.host ≠ []) (fuel : Nat) :
    ∃ http, pump cfg (fuel + 1) s = pump cfg fuel
      { s with conn := { s.conn with http, phase := .httpRawChallenge }, pending := view } := by
  obtain ⟨port,first⟩ := onData_first cfg head phase view
  rw [if_neg named,← complete] at first
  have left : s.pending.drop (head.line.length + 1 + 1) = view := by
    rw [complete,Nat.add_assoc,Lines.drop_line]
  refine ⟨{ s.conn.http with targetHost := head.host, targetPort := port },?_⟩
  rw [pump_more (n := head.line.length + 1) (by simp [complete]) reading valid (by rw [first]),first,left]
  simp only [List.append_nil]

/-! ## Pieces of a head -/

/-- The connection and its bytes when this much of the head has come. -/
inductive HeadProgress (cfg : Config) (c : ClientConnection) (head : ConnectHead) (seen : Bytes) :
    Stream → Prop where
  | waiting (short : seen.length < head.line.length + 2) : HeadProgress cfg c head seen ⟨c,seen,[],false⟩
  | refused (view : Bytes) (effects : List Effect) (none : head.host = [])
      (complete : seen = head.line ++ cr :: lf :: view) (killed : ∀ x ∈ effects, x = .kill) :
      HeadProgress cfg c head seen ⟨c,seen,effects,false⟩
  | reading (s : Stream) (view : Bytes) (lines : List Bytes) (named : head.host ≠ [])
      (complete : seen = head.line ++ cr :: lf :: view) (between : Between s) (silent : s.effects = [])
      (split : Lines.Split cr lf view lines s.pending) (plain : ∀ line ∈ lines, Plain line) :
      HeadProgress cfg c head seen s
  | broken (s : Stream) (view : Bytes) (gone lines more : List Bytes) (bad tail : Bytes)
      (named : head.host ≠ []) (complete : seen = head.line ++ cr :: lf :: view) (between : Between s)
      (killed : ∀ x ∈ s.effects, x = .kill)
      (split : Lines.Split cr lf view (gone ++ (lines ++ bad :: more)) tail)
      (pending : Lines.Split cr lf s.pending (lines ++ bad :: more) tail)
      (plain : ∀ line ∈ lines, Plain line) (filled : bad ≠ []) (malformed : isMalformed bad = true) :
      HeadProgress cfg c head seen s

namespace ConnectHead

theorem rest_free (head : ConnectHead) : ∀ line ∈ head.rest, Lines.Free cr lf line := by
  intro line member
  rcases List.mem_append.mp member with header | blank
  · exact (head.fields line header).2
  · exact List.mem_singleton.mp blank ▸ Lines.free_nil

/-- Up to the last line, only headers are complete. -/
theorem headers_of_rest (head : ConnectHead) {lines late : List Bytes} (split : head.rest = lines ++ late)
    (more : late ≠ []) : ∃ left, head.headers = lines ++ left ∧ late = left ++ [[]] := by
  rcases List.eq_nil_or_concat late with none | ⟨left,last,rfl⟩
  · exact absurd none more
  · rw [List.concat_eq_append,← List.append_assoc,rest] at split
    obtain ⟨same,blank⟩ := List.append_inj' split rfl
    exact ⟨left,same,by rw [List.concat_eq_append,← List.singleton_inj.mp blank]⟩

/-- Bytes of a head that go beyond its first line. -/
theorem complete_line (head : ConnectHead) {seen rest : Bytes} (whole : seen ++ rest = head.bytes)
    (long : head.line.length + 2 ≤ seen.length) :
    ∃ view, seen = head.line ++ cr :: lf :: view ∧ view ++ rest = Lines.join cr lf head.rest :=
  Lines.beyond_line whole long

/-- Bytes after the first line. -/
theorem rest_of_whole (head : ConnectHead) {view rest : Bytes}
    (whole : head.line ++ cr :: lf :: view ++ rest = head.bytes) :
    view ++ rest = Lines.join cr lf head.rest := by
  rw [bytes] at whole
  simpa using whole

end ConnectHead

theorem killed_append {effects : List Effect} (killed : ∀ x ∈ effects, x = .kill) :
    ∀ x ∈ effects ++ [.kill], x = .kill := by
  intro x member
  rcases List.mem_append.mp member with old | new
  · exact killed x old
  · exact List.mem_singleton.mp new

/-- What a piece does to a connection that reads the header, short of its end. -/
theorem progress_between {c : ClientConnection} {head : ConnectHead} {s : Stream} {view chunk rest : Bytes}
    {lines : List Bytes} (named : head.host ≠ []) (between : Between s) (silent : s.effects = [])
    (split : Lines.Split cr lf view lines s.pending) (plain : ∀ line ∈ lines, Plain line)
    (whole : view ++ chunk ++ rest = Lines.join cr lf head.rest) (unfinished : rest ≠ []) {fuel : Nat}
    (enough : (s.pending ++ chunk).length < fuel) :
    HeadProgress cfg c head (head.line ++ cr :: lf :: (view ++ chunk))
      (pump cfg fuel { s with pending := s.pending ++ chunk }) := by
  obtain ⟨more,tail,later⟩ := Lines.exists_split (s.pending ++ chunk)
  have complete := split.append later
  obtain ⟨order,left⟩ := Lines.after_split cr_ne_lf complete head.rest_free whole
  obtain ⟨left,headers,-⟩ := head.headers_of_rest order (left.ne_nil unfinished)
  have filled (line : Bytes) (member : line ∈ more) : line ≠ [] :=
    (head.fields line (by simp [headers,member])).1
  have between' := between.update (s.pending ++ chunk) s.effects
  rcases plain_or_bad filled with allPlain | ⟨pre,bad,post,rfl,prePlain,badFilled,malformed⟩
  · rw [pump_plain between' later allPlain enough]
    refine .reading _ (view ++ chunk) (lines ++ more) named rfl (between.update _ _) silent
      complete ?_
    intro line member
    rcases List.mem_append.mp member with old | new
    · exact plain line old
    · exact allPlain line new
  · rw [pump_bad between' later prePlain badFilled malformed enough]
    exact .broken _ (view ++ chunk) lines pre post bad tail named rfl (between.update _ _)
      (by simp [silent]) complete later prePlain badFilled malformed

/-- A piece that does not end the head. -/
theorem progress_receive {c : ClientConnection} (phase : c.phase = .unknown)
    (idle : c.readingSuspended = false) {head : ConnectHead} {seen chunk rest : Bytes} {s : Stream}
    (progress : HeadProgress cfg c head seen s) (whole : seen ++ chunk ++ rest = head.bytes)
    (some : chunk ≠ []) (unfinished : rest ≠ []) :
    HeadProgress cfg c head (seen ++ chunk) (receive cfg s chunk) := by
  rw [receive,if_neg some]
  cases progress with
  | waiting short =>
    dsimp only
    by_cases still : (seen ++ chunk).length < head.line.length + 2
    · rw [pump_waiting head.free head.not_socks phase whole still]
      exact .waiting still
    · obtain ⟨view,complete,tail⟩ := head.complete_line whole (Nat.not_lt.mp still)
      by_cases none : head.host = []
      · rw [pump_refused head phase idle rfl complete none]
        exact .refused view _ none complete (by simp)
      · let start : Stream := ⟨c,seen ++ chunk,[],false⟩
        obtain ⟨http,first⟩ := pump_first cfg head (s := start) phase idle rfl complete none
          (seen ++ chunk).length
        rw [first,complete]
        let s : Stream := ⟨{ c with http, phase := .httpRawChallenge },[],[],false⟩
        have between : Between s := ⟨rfl,idle,rfl⟩
        have fits : view.length < (head.line ++ cr :: lf :: view).length := by
          rw [Lines.length_line]
          omega
        have start : Lines.Split cr lf [] [] s.pending := Lines.split_free rfl
        exact progress_between none between rfl start (by simp) tail unfinished fits
  | refused view effects none complete killed =>
    dsimp only
    have complete' : seen ++ chunk = head.line ++ cr :: lf :: (view ++ chunk) := by simp [complete]
    rw [pump_refused head phase idle rfl complete' none]
    exact .refused _ _ none complete' (killed_append killed)
  | reading _ view lines named complete between silent split plain =>
    subst complete
    rw [List.append_assoc] at whole
    have later := head.rest_of_whole whole
    rw [← List.append_assoc] at later
    have progress : HeadProgress cfg c head (head.line ++ cr :: lf :: (view ++ chunk)) _ :=
      progress_between named between silent split plain later unfinished (Nat.lt_succ_self _)
    simpa using progress
  | broken _ view gone lines more bad tail named complete between killed split pending plain filled
      malformed =>
    obtain ⟨new,tail',later⟩ := Lines.exists_split (tail ++ chunk)
    have all := pending.append later
    have seen' := split.append later
    simp only [List.append_assoc,List.cons_append] at all seen'
    have between' := between.update (s.pending ++ chunk) s.effects
    rw [pump_bad between' all plain filled malformed (Nat.lt_succ_self _)]
    exact .broken _ (view ++ chunk) gone lines (more ++ new) bad tail' named (by simp [complete])
      (between.update _ _) (killed_append killed) seen' all plain filled malformed

/-- What the last piece does to a connection that reads the header. -/
theorem outcome_between {head : ConnectHead} {s : Stream} {view chunk : Bytes} {lines : List Bytes}
    (named : head.host ≠ []) (between : Between s) (silent : s.effects = [])
    (split : Lines.Split cr lf view lines s.pending) (plain : ∀ line ∈ lines, Plain line)
    (whole : view ++ chunk = Lines.join cr lf head.rest) (some : chunk ≠ []) {fuel : Nat}
    (enough : (s.pending ++ chunk).length < fuel) :
    (pump cfg fuel { s with pending := s.pending ++ chunk }).outcome =
      head.outcome cfg (head.line.length + 2 + view.length) := by
  obtain ⟨order,left⟩ := Lines.after_split cr_ne_lf split head.rest_free whole
  obtain ⟨late,headers,split⟩ := head.headers_of_rest order (left.ne_nil some)
  rw [split] at left
  have between' := between.update (s.pending ++ chunk) s.effects
  have filled (line : Bytes) (member : line ∈ late) : line ≠ [] :=
    (head.fields line (by simp [headers,member])).1
  rw [ConnectHead.outcome,if_neg named]
  rcases plain_or_bad filled with latePlain | ⟨pre,bad,post,rfl,prePlain,badFilled,malformed⟩
  · have formed : head.headers.any isMalformed = false := by
      rw [List.any_eq_false,headers]
      intro line member
      rcases List.mem_append.mp member with old | new
      · simp [(plain line old).2]
      · simp [(latePlain line new).2]
    have same : lastCredentials cfg (late ++ [[]]) = lastCredentials cfg late := by
      simp [lastCredentials,nextCredentials,isCredentials_nil]
    obtain ⟨effects,phase⟩ := pump_blank cfg between' left latePlain enough
    simp only [formed,Bool.false_eq_true,if_false,Nat.add_sub_cancel_left,split,same]
    rw [Stream.outcome,effects,phase,silent]
    by_cases empty : lastCredentials cfg late = []
    · simp [empty,Effect.key]
    · simp [empty,Effect.key]
  · have broken : head.headers.any isMalformed = true := by
      rw [List.any_eq_true]
      exact ⟨bad,by simp [headers],malformed⟩
    have left' : Lines.Split cr lf (s.pending ++ chunk) (pre ++ bad :: (post ++ [[]])) [] := by
      simpa using left
    rw [pump_bad between' left' prePlain badFilled malformed enough,if_pos broken]
    simp [Stream.outcome,silent,Effect.key,between.phase]

theorem outcome_killed {s : Stream} (killed : ∀ x ∈ s.effects, x = .kill) :
    ({ s with effects := s.effects ++ [.kill] } : Stream).outcome =
      { killed := true, phase := s.conn.phase } := by
  have none : s.effects.filterMap Effect.key = [] :=
    List.filterMap_eq_nil_iff.mpr fun x member => by rw [killed x member]; rfl
  have quiet : .postData http407Response ∉ s.effects :=
    fun member => absurd (killed _ member) (by simp)
  simp [Stream.outcome,none,quiet,Effect.key]

/-- The piece that ends the head decides on the lines that it completes. -/
theorem outcome_receive {c : ClientConnection} (phase : c.phase = .unknown)
    (idle : c.readingSuspended = false) {head : ConnectHead} {seen chunk : Bytes} {s : Stream}
    (progress : HeadProgress cfg c head seen s) (whole : seen ++ chunk = head.bytes) (some : chunk ≠ []) :
    (receive cfg s chunk).outcome = head.outcome cfg seen.length := by
  rw [receive,if_neg some]
  cases progress with
  | waiting short =>
    dsimp only
    have early : head.outcome cfg seen.length = head.outcome cfg (head.line.length + 2) := by
      simp only [ConnectHead.outcome,Nat.sub_self,Nat.sub_eq_zero_of_le (Nat.le_of_lt short)]
    rw [early]
    by_cases none : head.host = []
    · rw [pump_refused head phase idle rfl whole none,outcome_killed (by simp),ConnectHead.outcome,
        if_pos none,phase]
    · let start : Stream := ⟨c,seen ++ chunk,[],false⟩
      obtain ⟨http,first⟩ := pump_first cfg head (s := start) phase idle rfl whole none
        (seen ++ chunk).length
      rw [first,whole]
      let s : Stream := ⟨{ c with http, phase := .httpRawChallenge },[],[],false⟩
      have between : Between s := ⟨rfl,idle,rfl⟩
      have fits : (Lines.join cr lf head.rest).length < head.bytes.length := by
        rw [ConnectHead.bytes,Lines.length_line]
        omega
      have start : Lines.Split cr lf [] [] s.pending := Lines.split_free rfl
      have present : Lines.join cr lf head.rest ≠ [] := by
        simp [ConnectHead.rest,Lines.join_append,Lines.join_cons]
      exact outcome_between none between rfl start (by simp) rfl present fits
  | refused view effects none complete killed =>
    dsimp only
    have complete' : seen ++ chunk = head.line ++ cr :: lf :: (view ++ chunk) := by simp [complete]
    rw [pump_refused head phase idle rfl complete' none,outcome_killed killed,ConnectHead.outcome,
      if_pos none,phase]
  | reading _ view lines named complete between silent split plain =>
    subst complete
    rw [Lines.length_line]
    exact outcome_between named between silent split plain (head.rest_of_whole whole) some
      (Nat.lt_succ_self _)
  | broken _ view gone lines more bad tail named complete between killed split pending plain filled
      malformed =>
    obtain ⟨new,tail',later⟩ := Lines.exists_split (tail ++ chunk)
    have all := pending.append later
    simp only [List.append_assoc,List.cons_append] at all
    have between' := between.update (s.pending ++ chunk) s.effects
    subst complete
    obtain ⟨order,-⟩ := Lines.after_split cr_ne_lf split head.rest_free (head.rest_of_whole whole)
    have header : bad ∈ head.headers := by
      have member : bad ∈ head.rest := by rw [order]; simp
      rcases List.mem_append.mp member with header | blank
      · exact header
      · exact absurd (List.mem_singleton.mp blank) filled
    have broken : head.headers.any isMalformed = true := List.any_eq_true.mpr ⟨bad,header,malformed⟩
    have result := outcome_killed (s := { s with pending := s.pending ++ chunk }) killed
    rw [pump_bad between' all plain filled malformed (Nat.lt_succ_self _),result,ConnectHead.outcome,
      if_neg named,if_pos broken,between.phase]

/-! ## Whole heads -/

/-- How many bytes come before the last chunk that is not empty. -/
def lastCut (chunks : List Bytes) : Nat := (chunks.filter (· ≠ [])).dropLast.flatten.length

theorem progress_feed {head : ConnectHead} {chunks : List Bytes} {rest : Bytes} (id : Nat) (ip : Bytes)
    (some : ∀ chunk ∈ chunks, chunk ≠ []) (whole : chunks.flatten ++ rest = head.bytes)
    (unfinished : rest ≠ []) :
    HeadProgress cfg (newStream id ip).conn head chunks.flatten (feed cfg (newStream id ip) chunks) := by
  induction chunks using List.reverseRecOn generalizing rest with
  | nil => exact .waiting (by simp)
  | append_singleton chunks chunk ih =>
    rw [List.flatten_append,List.flatten_singleton,List.append_assoc] at whole
    have before := ih (fun c member => some c (by simp [member])) whole
      (by simp [some chunk (by simp)])
    rw [feed_append,List.flatten_append,List.flatten_singleton]
    rw [← List.append_assoc] at whole
    exact progress_receive rfl rfl before whole (some chunk (by simp)) unfinished

theorem feed_outcome (cfg : Config) {head : ConnectHead} {chunks : List Bytes} (id : Nat) (ip : Bytes)
    (whole : chunks.flatten = head.bytes) :
    (feed cfg (newStream id ip) chunks).outcome = head.outcome cfg (lastCut chunks) := by
  rw [← feed_filter,lastCut]
  have filtered : (chunks.filter (· ≠ [])).flatten = head.bytes := by
    rw [← whole,List.flatten_filter_ne_nil]
  have filled : ∀ chunk ∈ chunks.filter (· ≠ []), chunk ≠ [] := by simp
  revert filtered filled
  generalize chunks.filter (· ≠ []) = chunks
  intro whole filled
  rcases List.eq_nil_or_concat chunks with rfl | ⟨before,last,rfl⟩
  · simp [ConnectHead.bytes] at whole
  · rw [List.concat_eq_append] at whole filled ⊢
    rw [List.flatten_append,List.flatten_singleton] at whole
    rw [feed_append,List.dropLast_concat]
    have present : last ≠ [] := filled last (by simp)
    have progress : HeadProgress cfg (newStream id ip).conn head before.flatten
        (feed cfg (newStream id ip) before) :=
      progress_feed id ip (fun chunk member => filled chunk (by simp [member])) whole present
    exact outcome_receive rfl rfl progress whole present

/-! ## The last credentials -/

/-- The lines before a credentials line do not matter. -/
theorem foldl_credentials {lines : List Bytes} (named : ∃ line ∈ lines, isCredentials line = true)
    (before before' : Bytes) :
    lines.foldl (nextCredentials cfg) before = lines.foldl (nextCredentials cfg) before' := by
  induction lines generalizing before before' with
  | nil => simp at named
  | cons line lines ih =>
    rw [List.foldl_cons,List.foldl_cons]
    by_cases here : isCredentials line = true
    · simp only [nextCredentials,here,if_true]
    · have later : ∃ line ∈ lines, isCredentials line = true := by simpa [here] using named
      exact ih later _ _

theorem foldl_other {lines : List Bytes} (other : ¬ ∃ line ∈ lines, isCredentials line = true)
    (before : Bytes) : lines.foldl (nextCredentials cfg) before = before := by
  induction lines with
  | nil => rfl
  | cons line lines ih =>
    simp only [List.mem_cons,exists_eq_or_imp,not_or] at other
    rw [List.foldl_cons,nextCredentials,if_neg other.1,ih other.2]

theorem lastCredentials_late (cfg : Config) (done late : List Bytes) :
    lastCredentials cfg late = lastCredentials cfg (done ++ late) ↔
      lastCredentials cfg (done ++ late) = [] ∨ ∃ line ∈ late, isCredentials line = true := by
  have split : lastCredentials cfg (done ++ late) =
      late.foldl (nextCredentials cfg) (lastCredentials cfg done) := List.foldl_append
  by_cases named : ∃ line ∈ late, isCredentials line = true
  · have same : lastCredentials cfg late = lastCredentials cfg (done ++ late) := by
      rw [split]
      exact foldl_credentials named _ _
    exact ⟨fun _ => .inr named,fun _ => same⟩
  · have none : lastCredentials cfg late = [] := foldl_other named []
    rw [none,eq_comm]
    exact ⟨.inl,fun one => one.resolve_right named⟩

theorem ConnectHead.lastCredentials_rest (head : ConnectHead) :
    lastCredentials cfg head.rest = lastCredentials cfg head.headers := by
  simp [rest,lastCredentials,nextCredentials,isCredentials_nil]

/-- Outcomes differ only where the credentials differ. -/
theorem ConnectHead.outcome_eq (head : ConnectHead) (cut : Nat) :
    head.outcome cfg cut = head.outcome cfg 0 ↔
      head.host = [] ∨ head.headers.any isMalformed = true ∨
        lastCredentials cfg (Lines.after (cut - (head.line.length + 2)) head.rest) =
          lastCredentials cfg head.rest := by
  simp only [ConnectHead.outcome,Nat.zero_sub,Lines.after_zero]
  by_cases unnamed : head.host = []
  · simp [unnamed]
  · by_cases broken : head.headers.any isMalformed = true
    · simp [broken]
    · rw [if_neg unnamed,if_neg unnamed,if_neg broken,if_neg broken]
      simp only [unnamed,broken,false_or]
      split <;> split <;> simp_all

/-- A head is handled as if it came at once just when its first line names no host, one of its
credentials lines is malformed, its last credentials are empty, or a credentials line ends in
the last chunk. -/
theorem connect_segmentation (cfg : Config) (head : ConnectHead) (chunks : List Bytes) (id : Nat)
    (ip : Bytes) (whole : chunks.flatten = head.bytes) :
    (feed cfg (newStream id ip) chunks).outcome = (feed cfg (newStream id ip) [head.bytes]).outcome ↔
      head.host = [] ∨ (∃ header ∈ head.headers, isMalformed header = true) ∨
        lastCredentials cfg head.headers = [] ∨
        ∃ line ∈ Lines.after (lastCut chunks - (head.line.length + 2)) head.rest,
          isCredentials line = true := by
  have once : lastCut [head.bytes] = 0 := by
    have present : head.bytes ≠ [] := by simp [ConnectHead.bytes]
    simp [lastCut,present]
  have single : [head.bytes].flatten = head.bytes := List.append_nil _
  rw [feed_outcome cfg id ip whole,feed_outcome cfg id ip single,once,head.outcome_eq,
    List.any_eq_true]
  obtain ⟨done,order⟩ := Lines.after_suffix (lastCut chunks - (head.line.length + 2)) head.rest
  have late := lastCredentials_late cfg done
    (Lines.after (lastCut chunks - (head.line.length + 2)) head.rest)
  rw [order,head.lastCredentials_rest] at late
  rw [head.lastCredentials_rest,late]

/-- A login with the account `u` and the password `p`. -/
def loginHead : ConnectHead where
  line := ascii "CONNECT h:80"
  headers := [ascii "Proxy-Authorization: Basic dTpw"]
  connect := by decide
  free := by decide
  fields := by decide

def loginPieces (cut : Nat) : List Bytes := [loginHead.bytes.take cut,loginHead.bytes.drop cut]

/-- A cut in the line that holds the credentials does not matter. -/
theorem connect_segmentation_early :
    (feed referenceConfig (newStream 1 []) (loginPieces 20)).outcome =
      (feed referenceConfig (newStream 1 []) [loginHead.bytes]).outcome :=
  (connect_segmentation referenceConfig loginHead (loginPieces 20) 1 []
    (by simp [loginPieces])).mpr (.inr (.inr (.inr (by decide))))

/-- A cut behind it does: the blank line comes in a call that has seen no credentials. -/
theorem late_blank_line_refused :
    (loginPieces 47).flatten = loginHead.bytes ∧
      (feed referenceConfig (newStream 1 []) [loginHead.bytes]).outcome =
        { keys := [ascii "u:p"], phase := .httpRawWaitForAccountExchange } ∧
      (feed referenceConfig (newStream 1 []) (loginPieces 47)).outcome =
        { refused := true, phase := .httpRawChallenge } := by
  decide +kernel

end MiniPP.Proxy
