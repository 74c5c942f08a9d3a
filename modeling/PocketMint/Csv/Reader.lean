import Mathlib.Data.List.Basic
import Mathlib.Algebra.BigOperators.Group.List.Basic

/-! Comma-separated tables: a reader that ends a record at every line break, and what it reads back. -/

namespace PocketMint.Csv

/-- Where a reader is in its input. -/
inductive Mode where
  /-- At the start of a record. -/
  | record
  /-- After a carriage return, whose line feed is still swallowed. -/
  | broken
  /-- At the start of a field that is not the first. -/
  | field
  | plain
  | quoted
  /-- After a quote inside quotes, which a second one would escape. -/
  | closing
  deriving DecidableEq

/-- The records of the rest of an input, after a part of a field and some fields of a record. -/
def readFrom : Mode → List Char → List String → List Char → List (List String)
  | mode, text, record, [] =>
    if mode = .record ∨ mode = .broken then [] else [record ++ [String.ofList text]]
  | .quoted, text, record, char :: rest =>
    if char = '"' then readFrom .closing text record rest
    else readFrom .quoted (text ++ [char]) record rest
  | mode, text, record, char :: rest =>
    if char = ',' then readFrom .field [] (record ++ [String.ofList text]) rest
    else if char = '\r' then (record ++ [String.ofList text]) :: readFrom .broken [] [] rest
    else if char = '\n' then
      if mode = .broken then readFrom .record [] [] rest
      else (record ++ [String.ofList text]) :: readFrom .record [] [] rest
    else if char = '"' then
      match mode with
      | .plain => readFrom .plain (text ++ ['"']) record rest
      | .closing => readFrom .quoted (text ++ ['"']) record rest
      | _ => readFrom .quoted text record rest
    else readFrom .plain (text ++ [char]) record rest

/-- The records of a text. -/
def read (text : List Char) : List (List String) := readFrom .record [] [] text

/-- Double every quote. -/
def escape (text : List Char) : List Char :=
  text.flatMap fun char => if char = '"' then ['"', '"'] else [char]

/-- A text in quotes. -/
def quote (text : List Char) : List Char := '"' :: escape text ++ ['"']

/-- A character that neither separates, breaks nor quotes. -/
def Ordinary (char : Char) : Prop := char ≠ ',' ∧ char ≠ '\r' ∧ char ≠ '\n' ∧ char ≠ '"'

/-! What a reader makes of the parts of a record. -/

section Field

variable {mode : Mode} {text more : List Char} {record : List String} {rest : List Char}

/-- Inside quotes an escaped text is read as it was. -/
theorem readFrom_escape :
    readFrom .quoted text record (escape more ++ '"' :: rest) =
      readFrom .closing (text ++ more) record rest := by
  -- A doubled quote closes and reopens; any other character is kept.
  induction more generalizing text with
  | nil => simp [escape, readFrom]
  | cons char more ih =>
    have tail : escape (char :: more) =
        (if char = '"' then ['"', '"'] else [char]) ++ escape more := rfl
    rw [tail]
    by_cases isQuote : char = '"'
    · simp [isQuote, readFrom, ih]
    · simp [isQuote, readFrom, ih]

/-- Outside quotes an ordinary text is read as it is. -/
theorem readFrom_ordinary (ordinary : ∀ char ∈ more, Ordinary char) :
    readFrom .plain text record (more ++ rest) = readFrom .plain (text ++ more) record rest := by
  -- An ordinary character is added to the text of the field, whatever was read before.
  induction more generalizing text with
  | nil => simp
  | cons char more ih =>
    obtain ⟨comma, return_, feed, quote_⟩ := ordinary char List.mem_cons_self
    have others := fun other among => ordinary other (List.mem_cons_of_mem char among)
    simp only [List.cons_append, readFrom, if_neg comma, if_neg return_, if_neg feed, if_neg quote_]
    rw [ih others]
    simp

/-- The input after a field, where the field and perhaps the record end. -/
def Ends (rest : List Char) : Prop :=
  rest = [] ∨ ∃ char more, rest = char :: more ∧ (char = ',' ∨ char = '\r')

/-- A field ends the same way in every mode inside a field. -/
theorem readFrom_ends (ends : Ends rest) (inside : mode = .field ∨ mode = .closing) :
    readFrom mode text record rest = readFrom .plain text record rest := by
  rcases ends with rfl | ⟨char, more, rfl, rfl | rfl⟩ <;> rcases inside with rfl | rfl <;>
    simp [readFrom]

/-- A field that is shown in quotes, or as it is when all of it is ordinary. -/
def Shows (shown text : List Char) : Prop :=
  shown = quote text ∨ shown = text ∧ ∀ char ∈ text, Ordinary char

/-- A field that is shown right is read as it was. -/
theorem readFrom_shown {shown : List Char} (shows_ : Shows shown text) (ends : Ends rest)
    (start : mode = .field ∨ mode = .record ∧ rest ≠ []) :
    readFrom mode [] record (shown ++ rest) = readFrom .plain text record rest := by
  -- A field is shown quoted, or bare when its characters are all ordinary.
  rcases shows_ with rfl | ⟨rfl, ordinary⟩
  · -- The opening quote leads inside, and the closing one back out.
    have opened : readFrom mode [] record (quote text ++ rest) =
        readFrom .quoted [] record (escape text ++ '"' :: rest) := by
      rcases start with rfl | ⟨rfl, -⟩ <;> simp [quote, readFrom]
    rw [opened, readFrom_escape, readFrom_ends ends (.inr rfl)]
    rfl
  · -- A bare field is empty, or begins with an ordinary character.
    cases shown with
    | nil =>
      rcases start with rfl | ⟨rfl, more⟩
      · exact readFrom_ends ends (.inl rfl)
      · rcases ends with rfl | ⟨char, tail, rfl, rfl | rfl⟩
        · exact absurd rfl more
        · simp [readFrom]
        · simp [readFrom]
    | cons char shown =>
      -- The first character leads into the field, and the others stay there.
      obtain ⟨comma, return_, feed, quote_⟩ := ordinary char List.mem_cons_self
      have others := fun other among => ordinary other (List.mem_cons_of_mem char among)
      have entered : readFrom mode [] record (char :: shown ++ rest) =
          readFrom .plain [char] record (shown ++ rest) := by
        rcases start with rfl | ⟨rfl, -⟩ <;>
          simp [readFrom, comma, return_, feed, quote_]
      rw [entered, readFrom_ordinary others]
      rfl

end Field

end PocketMint.Csv
