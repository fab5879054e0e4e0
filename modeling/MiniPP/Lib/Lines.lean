import Mathlib.Data.List.Basic

/-! Lines that end in a pair of distinct symbols, and streams of them that arrive in
pieces: where a stream is cut does not matter as long as the unfinished line is kept. -/
namespace MiniPP.Lines

variable {α : Type*} [DecidableEq α] {x y : α}

/-- The position of the first `x` that is followed by `y`. -/
def find (x y : α) : List α → Option Nat
  | [] => none
  | [_] => none
  | a :: b :: rest => if a = x ∧ b = y then some 0 else (find x y (b :: rest)).map (· + 1)

/-- No line ends in the list. -/
def Free (x y : α) (list : List α) : Prop := find x y list = none

instance (list : List α) : Decidable (Free x y list) :=
  inferInstanceAs (Decidable (find x y list = none))

@[simp] theorem free_nil : Free x y [] := rfl

theorem free_cons_cons {a b : α} {rest : List α} :
    Free x y (a :: b :: rest) ↔ ¬ (a = x ∧ b = y) ∧ Free x y (b :: rest) := by
  simp only [Free,find]
  split <;> simp_all

theorem find_append (distinct : x ≠ y) {line : List α} (free : Free x y line) (rest : List α) :
    find x y (line ++ x :: y :: rest) = some line.length := by
  induction line with
  | nil => simp [find]
  | cons a line ih =>
    cases line with
    | nil => simp [find,distinct]
    | cons b line =>
      obtain ⟨apart,free⟩ := free_cons_cons.mp free
      have later := ih free
      simp only [List.cons_append] at later
      simp only [List.cons_append,find,if_neg apart,later,Option.map_some,List.length_cons]

theorem append_inj (distinct : x ≠ y) {line line' rest rest' : List α} (free : Free x y line)
    (free' : Free x y line') (same : line ++ x :: y :: rest = line' ++ x :: y :: rest') :
    line = line' ∧ rest = rest' := by
  have here := find_append distinct free rest
  rw [same,find_append distinct free'] at here
  obtain ⟨rfl,tails⟩ := List.append_inj same (Option.some.inj here).symm
  simp only [List.cons.injEq,true_and] at tails
  exact ⟨rfl,tails⟩

theorem find_spec {list : List α} {n : Nat} (found : find x y list = some n) :
    ∃ line rest, list = line ++ x :: y :: rest ∧ line.length = n ∧ Free x y line := by
  induction list generalizing n with
  | nil => simp [find] at found
  | cons a list ih =>
    cases list with
    | nil => simp [find] at found
    | cons b list =>
      rw [find] at found
      split at found
      · rename_i here
        obtain rfl := Option.some.inj found
        exact ⟨[],list,by simp [here],rfl,free_nil⟩
      · rename_i apart
        obtain ⟨m,later,rfl⟩ := Option.map_eq_some_iff.mp found
        obtain ⟨line,rest,split,length,free⟩ := ih later
        refine ⟨a :: line,rest,by rw [split]; rfl,by rw [List.length_cons,length],?_⟩
        cases line with
        | nil => rfl
        | cons c line =>
          obtain ⟨rfl,-⟩ := List.cons.inj split
          exact free_cons_cons.mpr ⟨apart,free⟩

theorem Free.left {list rest : List α} (free : Free x y (list ++ rest)) : Free x y list := by
  induction list with
  | nil => rfl
  | cons a list ih =>
    cases list with
    | nil => rfl
    | cons b list =>
      obtain ⟨apart,free⟩ := free_cons_cons.mp free
      exact free_cons_cons.mpr ⟨apart,ih free⟩

/-- The first half of an ending is not one. -/
theorem Free.concat (distinct : x ≠ y) {line : List α} (free : Free x y line) : Free x y (line ++ [x]) := by
  induction line with
  | nil => rfl
  | cons a line ih =>
    cases line with
    | nil => exact free_cons_cons.mpr ⟨fun both => distinct both.2,rfl⟩
    | cons b line =>
      obtain ⟨apart,free⟩ := free_cons_cons.mp free
      exact free_cons_cons.mpr ⟨apart,ih free⟩

/-! ## Joined lines -/

section Join

omit [DecidableEq α]

def join (x y : α) (lines : List (List α)) : List α := lines.flatMap (· ++ [x,y])

@[simp] theorem join_nil : join x y [] = [] := rfl

theorem join_cons (line : List α) (lines : List (List α)) :
    join x y (line :: lines) = line ++ x :: y :: join x y lines := by
  simp [join]

theorem join_append (lines more : List (List α)) :
    join x y (lines ++ more) = join x y lines ++ join x y more := List.flatMap_append

theorem length_line (line rest : List α) :
    (line ++ x :: y :: rest).length = line.length + 2 + rest.length := by
  simp only [List.length_append,List.length_cons]
  omega

theorem drop_line (line rest : List α) : (line ++ x :: y :: rest).drop (line.length + 2) = rest := by
  rw [← List.drop_drop,List.drop_left]
  rfl

/-- What goes beyond a line holds it and its ending. -/
theorem beyond_line {line seen rest later : List α} (whole : seen ++ rest = line ++ x :: y :: later)
    (long : line.length + 2 ≤ seen.length) :
    ∃ view, seen = line ++ x :: y :: view ∧ view ++ rest = later := by
  have front : line ++ [x,y] <+: seen ++ rest := ⟨later,by simp [whole]⟩
  have within : (line ++ [x,y]).length ≤ seen.length := by simpa using long
  obtain ⟨view,split⟩ := List.prefix_of_prefix_length_le front (List.prefix_append _ _) within
  refine ⟨view,by rw [← split]; simp,?_⟩
  rw [← split] at whole
  simpa using whole

/-- The lines that are not complete within the first `cut` symbols. -/
def after (cut : Nat) : List (List α) → List (List α)
  | [] => []
  | line :: lines =>
    if line.length + 2 ≤ cut then after (cut - (line.length + 2)) lines else line :: lines

@[simp] theorem after_zero (lines : List (List α)) : after 0 lines = lines := by
  cases lines <;> simp [after]

/-- What is not complete comes last. -/
theorem after_suffix (cut : Nat) (lines : List (List α)) : after cut lines <:+ lines := by
  induction lines generalizing cut with
  | nil => exact List.suffix_rfl
  | cons line lines ih =>
    rw [after]
    split
    · exact (ih _).trans (List.suffix_cons _ _)
    · exact List.suffix_rfl

end Join

/-- The list is these lines, and an unfinished one. -/
structure Split (x y : α) (list : List α) (lines : List (List α)) (tail : List α) : Prop where
  bytes : list = join x y lines ++ tail
  free : ∀ line ∈ lines, Free x y line
  unfinished : Free x y tail

theorem split_free {tail : List α} (free : Free x y tail) : Split x y tail [] tail :=
  ⟨rfl,by simp,free⟩

theorem Split.cons {list : List α} {lines : List (List α)} {tail line : List α}
    (split : Split x y list lines tail) (free : Free x y line) :
    Split x y (line ++ x :: y :: list) (line :: lines) tail := by
  refine ⟨by rw [join_cons,split.bytes]; simp,?_,split.unfinished⟩
  intro other member
  rcases List.mem_cons.mp member with rfl | later
  · exact free
  · exact split.free other later

/-- The first line, and the rest behind its ending. -/
theorem Split.uncons {list : List α} {lines : List (List α)} {tail line : List α}
    (split : Split x y list (line :: lines) tail) :
    Free x y line ∧ list = line ++ x :: y :: (join x y lines ++ tail) ∧
      Split x y (join x y lines ++ tail) lines tail := by
  refine ⟨split.free line (by simp),?_,rfl,fun other member => ?_,split.unfinished⟩
  · rw [split.bytes,join_cons,List.append_assoc]
    rfl
  · exact split.free other (List.mem_cons_of_mem _ member)

theorem exists_split (list : List α) : ∃ lines tail, Split x y list lines tail := by
  generalize size : list.length = n
  induction n using Nat.strongRecOn generalizing list with
  | ind n ih =>
    cases found : find x y list with
    | none => exact ⟨[],list,split_free found⟩
    | some m =>
      obtain ⟨line,rest,rfl,-,free⟩ := find_spec found
      simp only [List.length_append,List.length_cons] at size
      obtain ⟨lines,tail,split⟩ := ih rest.length (by omega) rest rfl
      exact ⟨line :: lines,tail,split.cons free⟩

theorem Split.unique (distinct : x ≠ y) {list : List α} {lines lines' : List (List α)}
    {tail tail' : List α} (split : Split x y list lines tail) (split' : Split x y list lines' tail') :
    lines = lines' ∧ tail = tail' := by
  induction lines generalizing list lines' with
  | nil =>
    cases lines' with
    | nil => exact ⟨rfl,split.bytes.symm.trans split'.bytes⟩
    | cons line' lines' =>
      obtain ⟨free',bytes',-⟩ := split'.uncons
      have none : find x y list = none := by rw [split.bytes]; exact split.unfinished
      rw [bytes',find_append distinct free'] at none
      exact absurd none (by simp)
  | cons line lines ih =>
    obtain ⟨free,bytes,later⟩ := split.uncons
    cases lines' with
    | nil =>
      have none : find x y list = none := by rw [split'.bytes]; exact split'.unfinished
      rw [bytes,find_append distinct free] at none
      exact absurd none (by simp)
    | cons line' lines' =>
      obtain ⟨free',bytes',later'⟩ := split'.uncons
      obtain ⟨rfl,rest⟩ := append_inj distinct free free' (bytes.symm.trans bytes')
      rw [← rest] at later'
      obtain ⟨rfl,rfl⟩ := ih later later'
      exact ⟨rfl,rfl⟩

/-- What holds of the lines of some split holds of those of the split. -/
theorem Split.exists_iff (distinct : x ≠ y) {P : List (List α) → Prop} {list : List α} {lines : List (List α)}
    {tail : List α} (split : Split x y list lines tail) :
    (∃ lines tail, Split x y list lines tail ∧ P lines) ↔ P lines := by
  constructor
  · rintro ⟨lines',tail',split',holds⟩
    obtain ⟨rfl,rfl⟩ := split.unique distinct split'
    exact holds
  · exact fun holds => ⟨lines,tail,split,holds⟩

/-- What comes later completes the unfinished line. -/
theorem Split.append {list rest : List α} {lines more : List (List α)} {tail tail' : List α}
    (split : Split x y list lines tail) (later : Split x y (tail ++ rest) more tail') :
    Split x y (list ++ rest) (lines ++ more) tail' := by
  refine ⟨?_,?_,later.unfinished⟩
  · rw [split.bytes,List.append_assoc,later.bytes,join_append,List.append_assoc]
  · intro line member
    rcases List.mem_append.mp member with old | new
    · exact split.free line old
    · exact later.free line new

/-- A list in which no line ends does not go beyond one. -/
theorem short_of_line (distinct : x ≠ y) {line list rest later : List α} (unfinished : Free x y list)
    (free : Free x y line) (whole : list ++ rest = line ++ x :: y :: later) :
    ¬ line.length + 2 ≤ list.length := by
  intro long
  obtain ⟨view,rfl,-⟩ := beyond_line whole long
  have some := find_append distinct free view
  exact absurd (unfinished.symm.trans some) (by simp)

/-- What comes behind an unfinished line and leaves none completes some. -/
theorem Split.ne_nil {tail rest : List α} {lines : List (List α)}
    (split : Split x y (tail ++ rest) lines []) (some : rest ≠ []) : lines ≠ [] := by
  rintro rfl
  exact some (List.append_eq_nil_iff.mp split.bytes).2

/-- Of joined lines, those not complete within a prefix are those that its rest completes. -/
theorem after_split (distinct : x ≠ y) {list rest : List α} {lines all : List (List α)} {tail : List α}
    (split : Split x y list lines tail) (free : ∀ line ∈ all, Free x y line)
    (whole : list ++ rest = join x y all) :
    all = lines ++ after list.length all ∧ Split x y (tail ++ rest) (after list.length all) [] := by
  induction lines generalizing list all with
  | nil =>
    obtain rfl : list = tail := split.bytes
    have open_ : after list.length all = all := by
      cases all with
      | nil => rfl
      | cons line all =>
        rw [join_cons] at whole
        exact if_neg (short_of_line distinct split.unfinished (free line (by simp)) whole)
    rw [open_]
    exact ⟨rfl,by rw [whole]; simp,free,free_nil⟩
  | cons line lines ih =>
    obtain ⟨first,bytes,later⟩ := split.uncons
    cases all with
    | nil => simp [bytes] at whole
    | cons line' all =>
      rw [bytes,join_cons,List.append_assoc,List.cons_append,List.cons_append] at whole
      obtain ⟨rfl,inner⟩ := append_inj distinct first (free line' (by simp)) whole
      obtain ⟨all',rest'⟩ := ih later (fun other member => free other (by simp [member])) inner
      have skip : after list.length (line :: all) = after (join x y lines ++ tail).length all := by
        rw [bytes,length_line,after,if_pos (Nat.le_add_right _ _),Nat.add_sub_cancel_left]
      rw [skip]
      exact ⟨by rw [List.cons_append,← all'],rest'⟩

theorem Free.right {list rest : List α} (free : Free x y (list ++ rest)) : Free x y rest := by
  induction list with
  | nil => exact free
  | cons a list ih =>
    apply ih
    cases whole : list ++ rest with
    | nil => rfl
    | cons b more =>
      rw [List.cons_append,whole] at free
      exact (free_cons_cons.mp free).2

/-- What a longer list has more, its unfinished line and the rest have. -/
theorem Split.rest (distinct : x ≠ y) {list rest : List α} {lines all : List (List α)}
    {tail last : List α} (split : Split x y list lines tail) (whole : Split x y (list ++ rest) all last) :
    ∃ late, all = lines ++ late ∧ Split x y (tail ++ rest) late last := by
  obtain ⟨late,last',later⟩ := exists_split (x := x) (y := y) (tail ++ rest)
  obtain ⟨rfl,rfl⟩ := whole.unique distinct (split.append later)
  exact ⟨late,rfl,later⟩

/-! ## The lines of a list -/

/-- The complete lines, the first one behind what is given of it. -/
def complete (x y : α) : List α → List α → List (List α)
  | _, [] => []
  | _, [_] => []
  | line, a :: b :: rest =>
    if a = x ∧ b = y then line :: complete x y [] rest else complete x y (line ++ [a]) (b :: rest)

theorem complete_free {list : List α} (free : Free x y list) (line : List α) :
    complete x y line list = [] := by
  induction list generalizing line with
  | nil => rfl
  | cons a list ih =>
    cases list with
    | nil => rfl
    | cons b list =>
      obtain ⟨apart,free⟩ := free_cons_cons.mp free
      rw [complete,if_neg apart]
      exact ih free _

theorem complete_append (distinct : x ≠ y) {list : List α} (free : Free x y list) (line rest : List α) :
    complete x y line (list ++ x :: y :: rest) = (line ++ list) :: complete x y [] rest := by
  induction list generalizing line with
  | nil => simp [complete]
  | cons a list ih =>
    cases list with
    | nil => simp [complete,distinct]
    | cons b list =>
      obtain ⟨apart,free⟩ := free_cons_cons.mp free
      have later := ih free (line ++ [a])
      simp only [List.cons_append] at later
      simp only [List.cons_append,complete,if_neg apart,later,List.append_assoc,List.nil_append]

theorem Split.complete (distinct : x ≠ y) {list : List α} {lines : List (List α)} {tail : List α}
    (split : Split x y list lines tail) : Lines.complete x y [] list = lines := by
  obtain ⟨rfl,free,unfinished⟩ := split
  induction lines with
  | nil => exact complete_free unfinished []
  | cons line lines ih =>
    have later := ih (fun other member => free other (by simp [member]))
    rw [join_cons,List.append_assoc,List.cons_append,List.cons_append,
      complete_append distinct (free line (by simp)),later]
    rfl

/-! ## Cuts -/

section Cut

omit [DecidableEq α]

/-- The cut divides no ending, and only lines that may be divided. -/
def CutAt (ok : List α → Prop) : Nat → List (List α) → Prop
  | _, [] => True
  | cut, line :: lines =>
    if line.length + 2 ≤ cut then CutAt ok (cut - (line.length + 2)) lines
    else cut = 0 ∨ cut ≤ line.length ∧ ok line

instance decidableCutAt (ok : List α → Prop) [DecidablePred ok] :
    (cut : Nat) → (lines : List (List α)) → Decidable (CutAt ok cut lines)
  | _, [] => isTrue trivial
  | cut, line :: lines =>
    have := decidableCutAt ok (cut - (line.length + 2)) lines
    if long : line.length + 2 ≤ cut then
      decidable_of_iff (CutAt ok (cut - (line.length + 2)) lines) (by rw [CutAt,if_pos long])
    else
      decidable_of_iff (cut = 0 ∨ cut ≤ line.length ∧ ok line) (by rw [CutAt,if_neg long])

theorem cutAt_zero (ok : List α → Prop) (lines : List (List α)) : CutAt ok 0 lines := by
  cases lines with
  | nil => trivial
  | cons line lines =>
    rw [CutAt,if_neg (by omega)]
    exact .inl rfl

theorem cutAt_append {ok : List α → Prop} (x y : α) (lines late : List (List α)) (cut : Nat) :
    CutAt ok ((join x y lines).length + cut) (lines ++ late) ↔ CutAt ok cut late := by
  induction lines with
  | nil => simp
  | cons line lines ih =>
    rw [List.cons_append,CutAt,join_cons,length_line,Nat.add_assoc,if_pos (Nat.le_add_right _ _),
      Nat.add_sub_cancel_left,ih]

end Cut

/-- A part of a line and its ending that ends where a cut may be. -/
theorem cut_in_line {ok : List α → Prop} {tail rest line later : List α} {late : List (List α)}
    (unfinished : Free x y tail) (distinct : x ≠ y) (free : Free x y line)
    (whole : tail ++ rest = line ++ x :: y :: later) (cut : CutAt ok tail.length (line :: late)) :
    tail = [] ∨ ok line ∧ ∃ left, line = tail ++ left := by
  rw [CutAt,if_neg (short_of_line distinct unfinished free whole)] at cut
  rcases cut with none | ⟨within,may⟩
  · exact .inl (List.length_eq_zero_iff.mp none)
  · have front : line <+: tail ++ rest := ⟨x :: y :: later,whole.symm⟩
    obtain ⟨left,same⟩ := List.prefix_of_prefix_length_le (List.prefix_append _ _) front within
    exact .inr ⟨may,left,same.symm⟩

/-! ## Pieces -/

section Carried

omit [DecidableEq α]

/-- The lines that a piece completes, the first one behind what is held of it, each with the
length of its part in this piece. -/
def carried (held : List α) : List (List α) → List (List α × Nat)
  | [] => []
  | line :: lines => (held ++ line,line.length) :: lines.map fun line => (line,line.length)

theorem carried_nil (lines : List (List α)) :
    carried [] lines = lines.map fun line => (line,line.length) := by
  cases lines <;> rfl

theorem carried_cons (held line : List α) (lines : List (List α)) :
    carried held (line :: lines) = (held ++ line,line.length) :: carried [] lines := by
  rw [carried_nil,carried]

theorem carried_part {held : List α} {lines : List (List α)} {p : List α × Nat} (member : p ∈ carried held lines) :
    p.2 ≤ p.1.length := by
  cases lines with
  | nil => cases member
  | cons line lines =>
    rcases List.mem_cons.mp member with rfl | later
    · rw [List.length_append]
      exact Nat.le_add_left _ _
    · obtain ⟨other,-,rfl⟩ := List.mem_map.mp later
      exact Nat.le_refl _

theorem carried_whole (lines : List (List α)) : (carried [] lines).map Prod.fst = lines := by
  rw [carried_nil,List.map_map]
  exact List.map_id lines

theorem carried_append {held : List α} {before : List (List α)} (clear : before = [] → held = [])
    (after : List (List α)) : carried held (before ++ after) = carried held before ++ carried [] after := by
  cases before with
  | nil =>
    rw [clear rfl]
    rfl
  | cons line before =>
    rw [List.cons_append,carried_cons,carried_cons,carried_nil,carried_nil,carried_nil,List.map_append]
    rfl

theorem carried_bytes (held : List α) (lines : List (List α)) (tail : List α) :
    held ++ (join x y lines ++ tail) =
      join x y ((carried held lines).map Prod.fst) ++ if lines = [] then held ++ tail else tail := by
  cases lines with
  | nil => rfl
  | cons line lines =>
    rw [carried_cons,List.map_cons,carried_whole,join_cons,join_cons,if_neg (List.cons_ne_nil _ _)]
    simp

end Carried

/-! ## Lines over pieces -/

/-- The unfinished line, the first one behind what is given of it. -/
def remainder (x y : α) : List α → List α → List α
  | line, [] => line
  | line, [a] => line ++ [a]
  | line, a :: b :: rest =>
    if a = x ∧ b = y then remainder x y [] rest else remainder x y (line ++ [a]) (b :: rest)

theorem remainder_free {list : List α} (free : Free x y list) (line : List α) :
    remainder x y line list = line ++ list := by
  induction list generalizing line with
  | nil => simp [remainder]
  | cons a list ih =>
    cases list with
    | nil => rfl
    | cons b list =>
      obtain ⟨apart,free⟩ := free_cons_cons.mp free
      rw [remainder,if_neg apart,ih free,List.append_assoc]
      rfl

theorem remainder_append (distinct : x ≠ y) {list : List α} (free : Free x y list) (line rest : List α) :
    remainder x y line (list ++ x :: y :: rest) = remainder x y [] rest := by
  induction list generalizing line with
  | nil => simp [remainder]
  | cons a list ih =>
    cases list with
    | nil => simp [remainder,distinct]
    | cons b list =>
      obtain ⟨apart,free⟩ := free_cons_cons.mp free
      have later := ih free (line ++ [a])
      simp only [List.cons_append] at later
      simp only [List.cons_append,remainder,if_neg apart,later]

/-- The lines of which some may be held, and the symbols behind them. -/
theorem Split.held (distinct : x ≠ y) {list : List α} {lines : List (List α)} {tail : List α}
    (split : Split x y list lines tail) (held : List α) :
    Lines.complete x y held list = (carried held lines).map Prod.fst ∧
      remainder x y held list = if lines = [] then held ++ tail else tail := by
  induction lines generalizing list held with
  | nil =>
    obtain rfl : list = tail := split.bytes
    exact ⟨complete_free split.unfinished held,remainder_free split.unfinished held⟩
  | cons line lines ih =>
    obtain ⟨free,bytes,later⟩ := split.uncons
    obtain ⟨whole,last⟩ := ih later []
    rw [bytes,complete_append distinct free,remainder_append distinct free,whole,last,carried_cons]
    exact ⟨rfl,by simp⟩

/-- The lines of a stream that comes in pieces, where an ending counts only within a piece. -/
def assembled (x y : α) : List α → List (List α) → List (List α)
  | _, [] => []
  | held, piece :: pieces =>
    complete x y held piece ++ assembled x y (remainder x y held piece) pieces

/-- The lines of a text and of the ending behind it. -/
def parts (x y : α) (list : List α) : List (List α) := complete x y [] (list ++ [x,y])

theorem split_parts (distinct : x ≠ y) (list : List α) : Split x y (list ++ [x,y]) (parts x y list) [] := by
  obtain ⟨lines,tail,split⟩ := exists_split (x := x) (y := y) list
  have last : Split x y (tail ++ [x,y]) [tail] [] := (split_free free_nil).cons split.unfinished
  have whole := split.append last
  rw [parts,whole.complete distinct]
  exact whole

theorem join_parts (distinct : x ≠ y) (list : List α) : join x y (parts x y list) = list ++ [x,y] := by
  rw [(split_parts distinct list).bytes,List.append_nil]

theorem parts_cons (distinct : x ≠ y) (list : List α) :
    ∃ line lines, parts x y list = line :: lines ∧ line ++ x :: y :: join x y lines = list ++ [x,y] := by
  have bytes := join_parts distinct list
  cases split : parts x y list with
  | nil => simp [split] at bytes
  | cons line lines => exact ⟨line,lines,rfl,by rw [← bytes,split,join_cons]⟩

/-- What was assembled to lines comes apart into the lines of the stream. -/
theorem split_join (distinct : x ≠ y) (lines : List (List α)) :
    Split x y (join x y lines) (lines.flatMap (parts x y)) [] := by
  induction lines with
  | nil => exact split_free free_nil
  | cons line lines ih =>
    rw [join_cons,List.flatMap_cons]
    have whole : Split x y ((line ++ [x,y]) ++ join x y lines)
        (parts x y line ++ lines.flatMap (parts x y)) [] := (split_parts distinct line).append ih
    simpa using whole

end MiniPP.Lines
