import MiniPP.PyFormat.StringArray

/-! Arrays of strings as they are written: any blanks between the marks, each string in
quotes of its own choice, with the backslash and the enclosing quote behind a backslash. -/
namespace MiniPP.PyFormat

abbrev Blanks := {blanks : Bytes // ∀ b ∈ blanks, isSpace b = true}

abbrev Text := {text : Bytes // 0 ∉ text}

inductive Quote where
  | single | double

def Quote.code : Quote → UInt8
  | .single => singleQuote
  | .double => doubleQuote

def escape (enclosing : UInt8) (text : Bytes) : Bytes :=
  text.flatMap (fun c => if c = backslash ∨ c = enclosing then [backslash,c] else [c])

def printString (quote : Quote) (text : Bytes) : Bytes :=
  quote.code :: escape quote.code text ++ [quote.code]

structure Element where
  before : Blanks
  quote : Quote
  text : Text
  after : Blanks

def Element.print (e : Element) : Bytes := e.before ++ printString e.quote e.text ++ e.after

def printElements : List Element → Bytes
  | [] => []
  | [e] => e.print
  | e :: elements => e.print ++ comma :: printElements elements

structure Printing where
  lead : Blanks
  inside : Blanks
  elements : List Element
  trail : Blanks

def Printing.texts (p : Printing) : List Bytes := p.elements.map (fun e => e.text.val)

def Printing.print (p : Printing) : Bytes :=
  p.lead ++ bracketOpen :: (p.inside ++ printElements p.elements) ++ bracketClose :: p.trail

/-! ## What each part does to the reader -/

theorem isSpace_ne_zero {b : UInt8} (blank : isSpace b = true) : b ≠ 0 := by
  rintro rfl
  exact absurd blank (by decide)

theorem trySkipSpaces_blanks (blanks : Blanks) (rest : Cursor) :
    trySkipSpaces (blanks ++ rest) = trySkipSpaces rest := by
  obtain ⟨blanks,all⟩ := blanks
  induction blanks with
  | nil => rfl
  | cons b blanks ih =>
    have blank := all b List.mem_cons_self
    have further := ih (fun c member => all c (List.mem_cons_of_mem b member))
    simpa [trySkipSpaces,isSpace_ne_zero blank,blank] using further

theorem trySkipSpaces_mark {c : UInt8} (mark : isSpace c = false) (rest : Cursor) :
    trySkipSpaces (c :: rest) = some (c :: rest) := by
  rw [trySkipSpaces]
  split
  · rfl
  · rw [mark,if_neg Bool.false_ne_true]

theorem Quote.code_cases (quote : Quote) : quote.code = singleQuote ∨ quote.code = doubleQuote := by
  cases quote
  · exact .inl rfl
  · exact .inr rfl

theorem Quote.code_mark (quote : Quote) : isSpace quote.code = false := by
  cases quote <;> decide

/-- The reader takes the escapes back, one byte of the text after the other. -/
theorem parseChars_escape (enclosing : UInt8) {text : Bytes} (clean : 0 ∉ text)
    (output : Bytes) (rest : Cursor) :
    parseChars enclosing false output (escape enclosing text ++ rest) =
      parseChars enclosing false (output ++ text) rest := by
  induction text generalizing output with
  | nil => rw [List.append_nil]; rfl
  | cons c text ih =>
    have going : c ≠ 0 := fun zero => clean (by simp [zero])
    have further := ih (fun member => clean (List.mem_cons_of_mem c member)) (output ++ [c])
    rw [List.append_assoc,List.singleton_append] at further
    rw [← further,escape,List.flatMap_cons,List.append_assoc]
    by_cases escaped : c = backslash ∨ c = enclosing
    · rw [if_pos escaped]
      have zero : ¬ backslash = 0 := by decide
      simp [parseChars,zero,going,escape]
    · rw [if_neg escaped]
      obtain ⟨plain,other⟩ := not_or.mp escaped
      simp [parseChars,going,plain,other,escape]

theorem tryParseString_print (quote : Quote) (text : Text) (rest : Cursor) :
    tryParseString (printString quote text ++ rest) [] = some (some (quote.code :: rest),text.val) := by
  have going : quote.code ≠ 0 := by cases quote <;> decide
  have plain : quote.code ≠ backslash := by cases quote <;> decide
  simp only [printString,List.cons_append,List.append_assoc,List.nil_append,tryParseString]
  rw [if_neg (by simp [going]),parseChars_escape quote.code text.property]
  simp [parseChars,going,plain,quote.code_cases]

theorem parseSegs_blanks (fuel : Nat) (blanks : Blanks) (rest : Cursor) (segs : List Bytes) :
    parseSegs fuel (blanks ++ rest) segs = parseSegs fuel rest segs := by
  cases fuel with
  | zero => rfl
  | succ fuel => rw [parseSegs,parseSegs,trySkipSpaces_blanks]

theorem parseSegs_comma (fuel : Nat) (rest : Cursor) (segs : List Bytes) :
    parseSegs (fuel + 1) (comma :: rest) segs = parseSegs fuel rest segs := by
  rw [parseSegs,trySkipSpaces_mark (by decide)]
  rfl

theorem parseSegs_string (fuel : Nat) (quote : Quote) (text : Text) (rest : Cursor)
    (segs : List Bytes) :
    parseSegs (fuel + 1) (printString quote text ++ rest) segs =
      parseSegs fuel rest (segs ++ [text.val]) := by
  have begins : printString quote text ++ rest =
      quote.code :: (escape quote.code text ++ [quote.code] ++ rest) := by simp [printString]
  have outside : quote.code ≠ bracketClose := by cases quote <;> decide
  have going : quote.code ≠ 0 := by cases quote <;> decide
  have read := tryParseString_print quote text rest
  rw [begins] at read ⊢
  rw [parseSegs,trySkipSpaces_mark quote.code_mark]
  simp only [if_neg outside,if_neg going,if_pos quote.code_cases,read,List.tail_cons]

theorem parseSegs_close (fuel : Nat) (trail : Blanks) (segs : List Bytes) :
    parseSegs (fuel + 1) (bracketClose :: (trail.val ++ [0])) segs = some (some segs) := by
  rw [parseSegs,trySkipSpaces_mark (by decide)]
  simp only [if_pos,parseClose,trySkipSpaces_blanks]
  rfl

/-- An element takes one turn of the loop, and the comma behind it another. -/
theorem parseSegs_elements (elements : List Element) : ∃ turns, ∀ fuel rest segs,
    parseSegs (fuel + turns) (printElements elements ++ rest) segs =
      parseSegs fuel rest (segs ++ elements.map (fun e => e.text.val)) := by
  have one (e : Element) (fuel rest segs) : parseSegs (fuel + 1) (e.print ++ rest) segs =
      parseSegs fuel rest (segs ++ [e.text.val]) := by
    rw [Element.print,List.append_assoc,List.append_assoc,parseSegs_blanks,parseSegs_string,
      parseSegs_blanks]
  induction elements with
  | nil => exact ⟨0,fun fuel rest segs => by simp [printElements]⟩
  | cons e elements ih =>
    cases elements with
    | nil => exact ⟨1,fun fuel rest segs => by simpa [printElements] using one e fuel rest segs⟩
    | cons next elements =>
      obtain ⟨turns,later⟩ := ih
      refine ⟨turns + 2,fun fuel rest segs => ?_⟩
      rw [printElements,List.append_assoc,List.cons_append,← Nat.add_assoc,one,parseSegs_comma,
        later]
      · simp
      · simp

/-- Reading gives back what was printed, however it was laid out. -/
theorem parsePythonStringArray_print (p : Printing) :
    parsePythonStringArray p.print = some (some p.texts) := by
  obtain ⟨turns,elements⟩ := parseSegs_elements p.elements
  have finished : parseSegs (1 + turns)
      (p.inside ++ (printElements p.elements ++ bracketClose :: (p.trail.val ++ [0]))) [] =
        some (some p.texts) := by
    rw [parseSegs_blanks,elements,parseSegs_close,List.nil_append]
    rfl
  have source : p.print ++ [0] = p.lead.val ++ bracketOpen ::
      (p.inside ++ (printElements p.elements ++ bracketClose :: (p.trail.val ++ [0]))) := by
    simp [Printing.print]
  obtain ⟨result,read⟩ := parsePythonStringArray_total p.print
  rw [read]
  unfold parsePythonStringArray at read
  rw [source,trySkipSpaces_blanks,trySkipSpaces_mark (by decide)] at read
  simp only [ne_eq,not_true,if_false] at read
  -- The reader's own fuel and the turns that are needed give one result.
  have more := parseSegs_append read [] (Nat.le_add_right _ (1 + turns))
  have enough := parseSegs_append finished [] (Nat.le_add_left _ (p.print.length + 1))
  rw [more] at enough
  exact enough

/-- The reader inverts every printing. It comes to an end on every source, with no pointer
past the byte 0 behind it and no failed assertion, and what follows the first 0 is not seen. -/
theorem string_array_inverts :
    (∀ p : Printing, parsePythonStringArray p.print = some (some p.texts)) ∧
    (∀ source, ∃ result, parsePythonStringArray source = some result) ∧
    (∀ front rest, parsePythonStringArray (front ++ 0 :: rest) = parsePythonStringArray front) :=
  ⟨parsePythonStringArray_print,parsePythonStringArray_total,parsePythonStringArray_cut⟩

end MiniPP.PyFormat
