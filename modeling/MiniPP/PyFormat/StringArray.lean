import MiniPP.Xel

/-! The reader of arrays of strings that look like Python's. A pointer into the source is
what lies behind it, up to and with the byte 0 that ends the buffer. -/
namespace MiniPP.PyFormat

abbrev Cursor := List UInt8

def backslash : UInt8 := 92
def singleQuote : UInt8 := 39
def doubleQuote : UInt8 := 34
def bracketOpen : UInt8 := 91
def bracketClose : UInt8 := 93
def comma : UInt8 := 44

/-! `none` is a read behind the end of the buffer, a failed assertion, or fuel that ran out. -/

def trySkipSpaces : Cursor → Option Cursor
  | [] => none
  | c :: rest =>
    if c = 0 then some (c :: rest)
    else if isSpace c then trySkipSpaces rest
    else some (c :: rest)

/-- The loop of `TryParseString`; no pointer comes back from a string without an end. -/
def parseChars (endCode : UInt8) : Bool → Bytes → Cursor → Option (Option Cursor × Bytes)
  | _, _, [] => none
  | isConverting, output, c :: rest =>
    if c = 0 then some (none,output)
    else if isConverting then parseChars endCode false (output ++ [c]) rest
    else if c = backslash then parseChars endCode true output rest
    else if c = singleQuote ∨ c = doubleQuote then
      if c = endCode then some (some (c :: rest),output)
      else parseChars endCode false (output ++ [c]) rest
    else parseChars endCode false (output ++ [c]) rest

def tryParseString (stringBegin : Cursor) (output : Bytes) : Option (Option Cursor × Bytes) :=
  match stringBegin with
  | [] => none
  | endCode :: rest =>
    if endCode = 0 ∨ output ≠ [] then none
    else parseChars endCode false output rest

/-- The array is finished with no error if nothing but blanks follow the bracket. -/
def parseClose (pc : Cursor) (segs : List Bytes) : Option (Option (List Bytes)) :=
  match trySkipSpaces pc with
  | none => none
  | some [] => none
  | some (c :: _) => some (if c = 0 then some segs else none)

def parseSegs : Nat → Cursor → List Bytes → Option (Option (List Bytes))
  | 0, _, _ => none
  | fuel + 1, pc, segs =>
    match trySkipSpaces pc with
    | none => none
    | some [] => none
    | some (c :: rest) =>
      if c = bracketClose then parseClose rest segs
      else if c = 0 then some none
      else if c = singleQuote ∨ c = doubleQuote then
        match tryParseString (c :: rest) [] with
        | none => none
        | some (none,_) => some none
        | some (some stringEnd,tempString) =>
          parseSegs fuel stringEnd.tail (segs ++ [tempString])
      else if c = comma then parseSegs fuel rest segs
      else some none

def parsePythonStringArray (source : Bytes) : Option (Option (List Bytes)) :=
  match trySkipSpaces (source ++ [0]) with
  | none => none
  | some [] => none
  | some (c :: rest) =>
    if c ≠ bracketOpen then some none
    else parseSegs (source.length + 1) rest []

/-! ## Every pointer stays before the final 0 -/

theorem trySkipSpaces_total {pc : Cursor} (ended : 0 ∈ pc) :
    ∃ c rest, trySkipSpaces pc = some (c :: rest) ∧ 0 ∈ c :: rest ∧ rest.length < pc.length := by
  induction pc with
  | nil => simp at ended
  | cons c rest ih =>
    by_cases stop : c = 0
    · exact ⟨c,rest,by simp [trySkipSpaces,stop],ended,by simp⟩
    · have later : 0 ∈ rest := by simpa [Ne.symm stop] using ended
      cases blank : isSpace c with
      | true =>
        obtain ⟨d,more,result,inside,shorter⟩ := ih later
        refine ⟨d,more,?_,inside,Nat.lt_succ_of_lt shorter⟩
        simpa [trySkipSpaces,stop,blank] using result
      | false => exact ⟨c,rest,by simp [trySkipSpaces,stop,blank],ended,by simp⟩

theorem parseChars_total (endCode : UInt8) {pc : Cursor} (ended : 0 ∈ pc) (isConverting : Bool)
    (output : Bytes) :
    ∃ stringEnd text, parseChars endCode isConverting output pc = some (stringEnd,text) ∧
      ∀ e ∈ stringEnd, 0 ∈ e.tail ∧ e.tail.length < pc.length := by
  induction pc generalizing isConverting output with
  | nil => simp at ended
  | cons c rest ih =>
    by_cases stop : c = 0
    · exact ⟨none,output,by simp [parseChars,stop],by simp⟩
    have later : 0 ∈ rest := by simpa [Ne.symm stop] using ended
    have on (isConverting : Bool) (output : Bytes) :
        ∃ stringEnd text, parseChars endCode isConverting output rest = some (stringEnd,text) ∧
          ∀ e ∈ stringEnd, 0 ∈ e.tail ∧ e.tail.length < (c :: rest).length := by
      obtain ⟨stringEnd,text,result,bound⟩ := ih later isConverting output
      exact ⟨stringEnd,text,result,fun e member =>
        ⟨(bound e member).1,Nat.lt_succ_of_lt (bound e member).2⟩⟩
    rw [parseChars,if_neg stop]
    split
    · exact on _ _
    split
    · exact on _ _
    split
    · split
      · exact ⟨some (c :: rest),output,rfl,by simpa using later⟩
      · exact on _ _
    · exact on _ _

theorem parseClose_total {pc : Cursor} (ended : 0 ∈ pc) (segs : List Bytes) :
    ∃ result, parseClose pc segs = some result := by
  obtain ⟨c,rest,skipped,-,-⟩ := trySkipSpaces_total ended
  exact ⟨_,by simp only [parseClose,skipped]; rfl⟩

/-- Each turn of the loop consumes a byte. -/
theorem parseSegs_total {pc : Cursor} (ended : 0 ∈ pc) {fuel : Nat} (enough : pc.length ≤ fuel)
    (segs : List Bytes) : ∃ result, parseSegs fuel pc segs = some result := by
  induction fuel generalizing pc segs with
  | zero =>
    rw [List.length_eq_zero_iff.mp (Nat.le_zero.mp enough)] at ended
    simp at ended
  | succ fuel ih =>
    obtain ⟨c,rest,skipped,inside,shorter⟩ := trySkipSpaces_total ended
    have later (going : c ≠ 0) : 0 ∈ rest := by simpa [Ne.symm going] using inside
    simp only [parseSegs,skipped]
    split
    case isTrue close => exact parseClose_total (later (by rw [close]; decide)) segs
    split
    · exact ⟨none,rfl⟩
    rename_i going
    split
    · obtain ⟨stringEnd,text,result,bound⟩ := parseChars_total c (later going) false []
      have read : tryParseString (c :: rest) [] = some (stringEnd,text) := by
        simpa [tryParseString,going] using result
      rw [read]
      cases stringEnd with
      | none => exact ⟨none,rfl⟩
      | some stringEnd =>
        obtain ⟨ended,less⟩ := bound stringEnd rfl
        exact ih ended (by omega) _
    split
    · exact ih (later going) (by omega) segs
    · exact ⟨none,rfl⟩

/-! ## What lies behind the first 0 is never read -/

theorem trySkipSpaces_append {pc rest : Cursor} (h : trySkipSpaces pc = some rest) (more : Cursor) :
    trySkipSpaces (pc ++ more) = some (rest ++ more) := by
  induction pc with
  | nil => simp [trySkipSpaces] at h
  | cons c pc ih =>
    rw [trySkipSpaces] at h
    rw [List.cons_append,trySkipSpaces]
    by_cases stop : c = 0
    · rw [if_pos stop] at h ⊢
      cases h
      rfl
    rw [if_neg stop] at h ⊢
    by_cases blank : isSpace c = true
    · rw [if_pos blank] at h ⊢
      exact ih h
    · rw [if_neg blank] at h ⊢
      cases h
      rfl

/-- The pointer that comes back is to the closing quote. -/
theorem parseChars_pointer {endCode : UInt8} {isConverting : Bool} {output text : Bytes}
    {pc stringEnd : Cursor}
    (h : parseChars endCode isConverting output pc = some (some stringEnd,text)) :
    ∃ rest, stringEnd = endCode :: rest := by
  induction pc generalizing isConverting output with
  | nil => simp [parseChars] at h
  | cons c pc ih =>
    rw [parseChars] at h
    split at h
    · cases h
    split at h
    · exact ih h
    split at h
    · exact ih h
    split at h
    · split at h
      · rename_i enclosing
        cases h
        exact ⟨pc,by rw [enclosing]⟩
      · exact ih h
    · exact ih h

theorem parseChars_append {endCode : UInt8} {isConverting : Bool} {output text : Bytes}
    {pc : Cursor} {stringEnd : Option Cursor}
    (h : parseChars endCode isConverting output pc = some (stringEnd,text)) (more : Cursor) :
    parseChars endCode isConverting output (pc ++ more) = some (stringEnd.map (· ++ more),text) := by
  induction pc generalizing isConverting output with
  | nil => simp [parseChars] at h
  | cons c pc ih =>
    rw [parseChars] at h
    rw [List.cons_append,parseChars]
    by_cases stop : c = 0
    · rw [if_pos stop] at h ⊢
      cases h
      rfl
    rw [if_neg stop] at h ⊢
    cases isConverting with
    | true => exact ih h
    | false =>
      rw [if_neg Bool.false_ne_true] at h ⊢
      by_cases escape : c = backslash
      · rw [if_pos escape] at h ⊢
        exact ih h
      rw [if_neg escape] at h ⊢
      by_cases quote : c = singleQuote ∨ c = doubleQuote
      · rw [if_pos quote] at h ⊢
        by_cases enclosing : c = endCode
        · rw [if_pos enclosing] at h ⊢
          cases h
          rfl
        · rw [if_neg enclosing] at h ⊢
          exact ih h
      · rw [if_neg quote] at h ⊢
        exact ih h

theorem tryParseString_append {stringBegin : Cursor} {output text : Bytes}
    {stringEnd : Option Cursor}
    (h : tryParseString stringBegin output = some (stringEnd,text)) (more : Cursor) :
    tryParseString (stringBegin ++ more) output = some (stringEnd.map (· ++ more),text) := by
  cases stringBegin with
  | nil => simp [tryParseString] at h
  | cons endCode rest =>
    simp only [tryParseString,List.cons_append] at h ⊢
    split at h
    · cases h
    · rename_i fine
      rw [if_neg fine]
      exact parseChars_append h more

theorem parseClose_append {pc : Cursor} {segs : List Bytes} {result : Option (List Bytes)}
    (h : parseClose pc segs = some result) (more : Cursor) :
    parseClose (pc ++ more) segs = some result := by
  unfold parseClose at h ⊢
  split at h
  · cases h
  · cases h
  · rename_i skipped
    rw [trySkipSpaces_append skipped more]
    exact h

/-- Neither more bytes behind the end nor more fuel change a result. -/
theorem parseSegs_append {fuel fuel' : Nat} {pc : Cursor} {segs : List Bytes}
    {result : Option (List Bytes)} (h : parseSegs fuel pc segs = some result) (more : Cursor)
    (le : fuel ≤ fuel') : parseSegs fuel' (pc ++ more) segs = some result := by
  induction fuel generalizing fuel' pc segs with
  | zero => simp [parseSegs] at h
  | succ fuel ih =>
    obtain ⟨fuel',rfl⟩ : ∃ n, fuel' = n + 1 := ⟨fuel' - 1,by omega⟩
    have le : fuel ≤ fuel' := Nat.le_of_succ_le_succ le
    rw [parseSegs] at h ⊢
    cases skipped : trySkipSpaces pc with
    | none => simp [skipped] at h
    | some pc' =>
      rw [trySkipSpaces_append skipped more]
      cases pc' with
      | nil => simp [skipped] at h
      | cons c rest =>
        simp only [skipped,List.cons_append] at h ⊢
        by_cases close : c = bracketClose
        · rw [if_pos close] at h ⊢
          exact parseClose_append h more
        rw [if_neg close] at h ⊢
        by_cases stop : c = 0
        · rw [if_pos stop] at h ⊢
          exact h
        rw [if_neg stop] at h ⊢
        by_cases quote : c = singleQuote ∨ c = doubleQuote
        · rw [if_pos quote] at h ⊢
          cases read : tryParseString (c :: rest) [] with
          | none => simp [read] at h
          | some answer =>
            obtain ⟨stringEnd,tempString⟩ := answer
            have further := tryParseString_append read more
            rw [List.cons_append] at further
            cases stringEnd with
            | none => simpa only [read,further,Option.map_none] using h
            | some stringEnd =>
              have closing : ∃ tail, stringEnd = c :: tail := by
                simp only [tryParseString,stop,false_or,ne_eq,not_true,if_false] at read
                exact parseChars_pointer read
              obtain ⟨tail,rfl⟩ := closing
              simp only [read,further,Option.map_some,List.cons_append,List.tail_cons] at h ⊢
              exact ih h le
        rw [if_neg quote] at h ⊢
        by_cases separator : c = comma
        · rw [if_pos separator] at h ⊢
          exact ih h le
        · rw [if_neg separator] at h ⊢
          exact h

/-! ## The whole reader -/

theorem parsePythonStringArray_total (source : Bytes) :
    ∃ result, parsePythonStringArray source = some result := by
  have ended : (0 : UInt8) ∈ source ++ [0] := by simp
  obtain ⟨c,rest,skipped,inside,shorter⟩ := trySkipSpaces_total ended
  simp only [parsePythonStringArray,skipped]
  by_cases begins : c = bracketOpen
  · rw [if_neg (not_not.mpr begins)]
    have later : 0 ∈ rest := by
      rcases List.mem_cons.mp inside with zero | later
      · rw [begins] at zero
        exact absurd zero (by decide)
      · exact later
    exact parseSegs_total later (by simp at shorter; omega) []
  · exact ⟨none,by rw [if_pos begins]⟩

example : parsePythonStringArray (ascii " ['it', \"a,]\" ,] ") =
    some (some [ascii "it",ascii "a,]"]) := by decide

/-- The source is a C string: it ends at its first 0. -/
theorem parsePythonStringArray_cut (front rest : Bytes) :
    parsePythonStringArray (front ++ 0 :: rest) = parsePythonStringArray front := by
  obtain ⟨result,read⟩ := parsePythonStringArray_total front
  rw [read]
  have split : front ++ 0 :: rest ++ [0] = front ++ [0] ++ (rest ++ [0]) := by simp
  unfold parsePythonStringArray at read ⊢
  rw [split]
  cases skipped : trySkipSpaces (front ++ [0]) with
  | none => simp [skipped] at read
  | some pc =>
    rw [trySkipSpaces_append skipped]
    cases pc with
    | nil => simp [skipped] at read
    | cons c more =>
      simp only [skipped,List.cons_append] at read ⊢
      by_cases begins : c = bracketOpen
      · rw [if_neg (not_not.mpr begins)] at read ⊢
        exact parseSegs_append read _ (by simp)
      · rw [if_pos begins] at read ⊢
        exact read

end MiniPP.PyFormat
