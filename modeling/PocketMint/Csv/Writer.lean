import PocketMint.Csv.Reader
import Mathlib.Algebra.GroupWithZero.Nat
import Mathlib.Algebra.Order.BigOperators.Group.List
import Mathlib.Algebra.Order.Group.Nat

/-! Tables that a writer joins with commas and line breaks, and when they are read back as they were. -/

namespace PocketMint.Csv

/-- A choice of the fields to quote, among them all with a comma, a line feed or a quote. -/
structure Quoting where
  quotes : String → Bool
  covers : ∀ field, quotes field = false →
    ∀ char ∈ field.toList, char ≠ ',' ∧ char ≠ '\n' ∧ char ≠ '"'

namespace Quoting

variable (quoting : Quoting)

/-- A field as it is written. -/
def encode (field : String) : String :=
  if quoting.quotes field then String.ofList (quote field.toList) else field

/-- A table as it is written: commas between fields, line breaks between records. -/
def write (rows : List (List String)) : String :=
  "\r\n".intercalate (rows.map fun row => ",".intercalate (row.map quoting.encode))

/-- How many records end inside a field: its carriage returns, unless they are quoted. -/
def breaks (field : String) : Nat :=
  if quoting.quotes field then 0 else field.toList.count '\r'

variable {quoting}

/-- A field with no break inside is shown right. -/
theorem shows_encode {field : String} (whole : quoting.breaks field = 0) :
    Shows (quoting.encode field).toList field.toList := by
  unfold encode
  unfold breaks at whole
  -- A quoted field shows any text, and a bare one shows a text without special characters.
  split
  · exact .inl (by simp)
  · rename_i bare
    rw [if_neg bare] at whole
    refine .inr ⟨rfl, fun char among => ?_⟩
    -- The quoting covers every other special character.
    obtain ⟨comma, feed, quote_⟩ := quoting.covers field (by simpa using bare) char among
    refine ⟨comma, ?_, feed, quote_⟩
    rintro rfl
    exact List.count_eq_zero.mp whole among

end Quoting

/-- A record of at least two fields. -/
structure Record where
  fields : List String
  last : String
  several : fields ≠ []

/-- All the fields of a record. -/
def Record.row (record : Record) : List String := record.fields ++ [record.last]

/-- Joining puts the separator behind every part but the last. -/
theorem intercalate_snoc {α : Type} (separator : List α) (parts : List (List α)) (last : List α) :
    separator.intercalate (parts ++ [last]) = parts.flatMap (· ++ separator) ++ last := by
  induction parts with
  | nil => simp [List.intercalate]
  | cons part parts ih =>
    -- A part in front has at least the last one behind it.
    have behind : parts ++ [last] ≠ [] := by simp
    rw [List.cons_append, List.intercalate_cons_of_ne_nil behind, ih]
    simp

section Row

variable {quoting : Quoting} {mode : Mode} {fields : List String} {last : String}
  {before : List String} {rest : List Char}

/-- The characters of a record. -/
def cells (quoting : Quoting) (fields : List String) (last : String) : List Char :=
  fields.flatMap (fun field => (quoting.encode field).toList ++ [',']) ++ (quoting.encode last).toList

/-- A record of whole fields is read as it was. -/
theorem readFrom_cells (whole : ∀ field ∈ fields, quoting.breaks field = 0)
    (wholeLast : quoting.breaks last = 0) (ends : Ends rest)
    (start : mode = .field ∨ mode = .record ∧ fields ≠ []) :
    readFrom mode [] before (cells quoting fields last ++ rest) =
      readFrom .plain last.toList (before ++ fields) rest := by
  -- Each field ends at its comma, and the next one starts there.
  induction fields generalizing mode before with
  | nil =>
    -- The last field is read up to the end of the row.
    rcases start with rfl | ⟨-, absurd_⟩
    · simpa [cells] using readFrom_shown (quoting.shows_encode wholeLast) ends (.inl rfl)
    · exact absurd rfl absurd_
  | cons field fields ih =>
    have shown := quoting.shows_encode (whole field List.mem_cons_self)
    have others := fun other among => whole other (List.mem_cons_of_mem field among)
    have split_ : cells quoting (field :: fields) last ++ rest =
        (quoting.encode field).toList ++ ',' :: (cells quoting fields last ++ rest) := by
      simp [cells]
    rw [split_, readFrom_shown shown (.inr ⟨',', _, rfl, .inl rfl⟩) ?_]
    · simp [readFrom, ih others (.inl rfl)]
    -- After the comma the next field may start.
    · rcases start with rfl | ⟨rfl, -⟩
      · exact .inl rfl
      · exact .inr ⟨rfl, by simp⟩

/-- How many records are read depends on the mode only, not on what was read before. -/
theorem length_readFrom (text text' : List Char) (record record' : List String)
    (input : List Char) :
    (readFrom mode text record input).length = (readFrom mode text' record' input).length := by
  -- What was read so far fills the records, and only the input and the mode end them.
  induction input generalizing mode text text' record record' with
  | nil =>
    simp only [readFrom]
    split <;> rfl
  | cons char rest ih =>
    -- In each mode the next character leads to the same mode, whatever was read before.
    cases mode <;> simp only [readFrom] <;> (repeat' split) <;>
      first
      | exact ih ..
      | exact congrArg (· + 1) (ih ..)

/-- Every carriage return outside quotes ends a record. -/
theorem length_readFrom_loose {text more : List Char}
    (loose : ∀ char ∈ more, char ≠ ',' ∧ char ≠ '\n' ∧ char ≠ '"') (outside : mode ≠ .quoted) :
    (readFrom mode text before (more ++ ',' :: rest)).length =
      more.count '\r' + (readFrom .field [] [] rest).length := by
  -- Outside quotes a lone carriage return ends a record, so each adds one.
  induction more generalizing mode text before with
  | nil =>
    have ended : readFrom mode text before (',' :: rest) =
        readFrom .field [] (before ++ [String.ofList text]) rest := by
      cases mode <;> simp_all [readFrom]
    rw [List.nil_append, ended, length_readFrom _ [] _ []]
    simp
  | cons char more ih =>
    obtain ⟨comma, feed, quote_⟩ := loose char List.mem_cons_self
    have others := fun other among => loose other (List.mem_cons_of_mem char among)
    by_cases return_ : char = '\r'
    · -- The carriage return closes the record and leaves the reader between records.
      subst return_
      have broken : readFrom mode text before ('\r' :: (more ++ ',' :: rest)) =
          (before ++ [String.ofList text]) :: readFrom .broken [] [] (more ++ ',' :: rest) := by
        cases mode <;> simp_all [readFrom]
      rw [List.cons_append, broken, List.length_cons, ih others (by simp), List.count_cons_self]
      omega
    · -- Any other character is added to the field.
      have kept : readFrom mode text before (char :: (more ++ ',' :: rest)) =
          readFrom .plain (text ++ [char]) before (more ++ ',' :: rest) := by
        cases mode <;> simp_all [readFrom]
      rw [List.cons_append, kept, ih others (by simp), List.count_cons_of_ne return_]

/-- A record is read as one, and one more for every break inside its fields. -/
theorem length_readFrom_cells (wholeLast : quoting.breaks last = 0) (ends : Ends rest)
    (start : mode = .field ∨ mode = .record ∧ fields ≠ []) :
    (readFrom mode [] before (cells quoting fields last ++ rest)).length =
      (fields.map quoting.breaks).sum + (readFrom .plain [] [] rest).length := by
  -- The induction is on the fields in front of the last one.
  induction fields generalizing mode before with
  | nil =>
    rcases start with rfl | ⟨-, absurd_⟩
    · have shown : readFrom .field [] before ((quoting.encode last).toList ++ rest) = _ :=
        readFrom_shown (quoting.shows_encode wholeLast) ends (.inl rfl)
      simp only [cells, List.flatMap_nil, List.nil_append, shown]
      rw [length_readFrom _ [] _ []]
      simp
    · exact absurd rfl absurd_
  | cons field fields ih =>
    have split_ : cells quoting (field :: fields) last ++ rest =
        -- The first field is followed by its comma and the fields behind.
        (quoting.encode field).toList ++ ',' :: (cells quoting fields last ++ rest) := by
      simp [cells]
    have first : (readFrom mode [] before (cells quoting (field :: fields) last ++ rest)).length =
        quoting.breaks field + (readFrom .field [] [] (cells quoting fields last ++ rest)).length := by
      rw [split_]
      cases quoted : quoting.quotes field with
      | true =>
        -- A quoted field is read whole, up to its comma.
        have whole : quoting.breaks field = 0 := by simp [Quoting.breaks, quoted]
        have inside : mode = .field ∨ mode = .record ∧
            ',' :: (cells quoting fields last ++ rest) ≠ [] := by
          rcases start with rfl | ⟨rfl, -⟩
          · exact .inl rfl
          · exact .inr ⟨rfl, by simp⟩
        rw [readFrom_shown (quoting.shows_encode whole) (.inr ⟨',', _, rfl, .inl rfl⟩) inside, whole]
        simp only [readFrom, if_true, Nat.zero_add]
        exact length_readFrom ..
      | false =>
        -- An unquoted field may break where it holds a carriage return.
        have outside : mode ≠ .quoted := by rcases start with rfl | ⟨rfl, -⟩ <;> simp
        simp only [Quoting.encode, Quoting.breaks, quoted, Bool.false_eq_true, if_false]
        exact length_readFrom_loose (quoting.covers field quoted) outside
    rw [first, ih (.inl rfl), List.map_cons, List.sum_cons]
    omega

end Row

section Table

variable {quoting : Quoting} {records : List Record}

/-- A line break. -/
def lineBreak : List Char := ['\r', '\n']

/-- A record that is written behind others reads the same at the start of a line. -/
theorem readFrom_lineBreak (text : List Char) (record : List String) (rest : List Char) :
    readFrom .plain text record (lineBreak ++ rest) =
      (record ++ [String.ofList text]) :: readFrom .record [] [] rest := by
  -- The carriage return ends the record, and the line feed behind it is swallowed.
  simp [lineBreak, readFrom]

/-- A record can end at a line break. -/
theorem ends_lineBreak (rest : List Char) : Ends (lineBreak ++ rest) :=
  .inr ⟨'\r', '\n' :: rest, rfl, .inr rfl⟩

/-- Records that are written one behind the other, without the last one. -/
theorem write_eq (records : List Record) (last : Record) :
    (quoting.write ((records ++ [last]).map Record.row)).toList =
      records.flatMap (fun record => cells quoting record.fields record.last ++ lineBreak) ++
        cells quoting last.fields last.last := by
  -- The last field of a record is followed by a line break, and the others by a comma.
  have line : ∀ record : Record,
      [','].intercalate (record.row.map (String.toList ∘ quoting.encode)) =
        cells quoting record.fields record.last := by
    intro record
    rw [Record.row, List.map_append, List.map_cons, List.map_nil, intercalate_snoc]
    simp [cells, List.flatMap_map]
  simp only [Quoting.write, String.toList_intercalate, List.map_map, List.map_append, List.map_cons,
    List.map_nil]
  rw [show "\r\n".toList = lineBreak from rfl, intercalate_snoc]
  simp [List.flatMap_map, line]

/-- A table without breaks inside its fields is read as it was. -/
theorem read_write (whole : ∀ record ∈ records, ∀ field ∈ record.row, quoting.breaks field = 0) :
    read (quoting.write (records.map Record.row)).toList = records.map Record.row := by
  rcases List.eq_nil_or_concat records with rfl | ⟨init, last, rfl⟩
  -- No records are written as nothing at all.
  · rfl
  · rw [List.concat_eq_append] at whole ⊢
    rw [write_eq]
    induction init with
    | nil =>
      -- The input ends where the last record does.
      have wholeRow := whole last (by simp)
      rw [List.flatMap_nil, List.nil_append, read, ← List.append_nil (cells ..),
        readFrom_cells (fun field among => wholeRow field (by simp [Record.row, among]))
          (wholeRow last.last (by simp [Record.row])) (.inl rfl) (.inr ⟨rfl, last.several⟩)]
      simp [readFrom, Record.row]
    -- The first record ends at its line break, and the others are read after it.
    | cons record init ih =>
      have wholeRow := whole record (by simp)
      have others : ∀ other ∈ init ++ [last], ∀ field ∈ other.row, quoting.breaks field = 0 :=
        fun other among => whole other (List.mem_cons_of_mem record among)
      rw [List.flatMap_cons, List.append_assoc, List.append_assoc, read,
        readFrom_cells (fun field among => wholeRow field (by simp [Record.row, among]))
          (wholeRow record.last (by simp [Record.row])) (ends_lineBreak _)
          (.inr ⟨rfl, record.several⟩), readFrom_lineBreak]
      simpa [Record.row, read] using ih others

/-- A table is read as its records, and one more for every break inside a field but the last ones. -/
theorem length_read_write (wholeLast : ∀ record ∈ records, quoting.breaks record.last = 0) :
    (read (quoting.write (records.map Record.row)).toList).length =
      records.length + (records.map fun record => (record.fields.map quoting.breaks).sum).sum := by
  rcases List.eq_nil_or_concat records with rfl | ⟨init, last, rfl⟩
  · rfl
  · rw [List.concat_eq_append] at wholeLast ⊢
    rw [write_eq]
    -- The records are read one after the other, and each gives one more than its breaks.
    induction init with
    | nil =>
      rw [List.flatMap_nil, List.nil_append, read, ← List.append_nil (cells ..),
        length_readFrom_cells (wholeLast last (by simp)) (.inl rfl) (.inr ⟨rfl, last.several⟩)]
      simp [readFrom, Nat.add_comm]
    | cons record init ih =>
      have others : ∀ other ∈ init ++ [last], quoting.breaks other.last = 0 :=
        fun other among => wholeLast other (List.mem_cons_of_mem record among)
      rw [List.flatMap_cons, List.append_assoc, List.append_assoc, read,
        length_readFrom_cells (wholeLast record (by simp)) (ends_lineBreak _)
          (.inr ⟨rfl, record.several⟩), readFrom_lineBreak, List.length_cons]
      have rest := ih others
      rw [read] at rest
      simp only [rest, List.cons_append, List.length_cons, List.map_cons, List.sum_cons]
      omega

/-- A table is read as it was exactly when no field has a break inside. -/
theorem read_write_iff (wholeLast : ∀ record ∈ records, quoting.breaks record.last = 0) :
    read (quoting.write (records.map Record.row)).toList = records.map Record.row ↔
      ∀ record ∈ records, ∀ field ∈ record.fields, quoting.breaks field = 0 := by
  constructor
  · -- With a break inside a field there would be more records than were written.
    intro same record among field inside
    have length := length_read_write wholeLast
    rw [same, List.length_map] at length
    have none_ : (records.map fun record => (record.fields.map quoting.breaks).sum).sum = 0 := by
      omega
    rw [List.sum_eq_zero_iff] at none_
    have quiet := none_ _ (List.mem_map_of_mem among)
    rw [List.sum_eq_zero_iff] at quiet
    exact quiet _ (List.mem_map_of_mem inside)
  -- Without breaks every field is read as it was written.
  · intro whole
    refine read_write fun record among field inside => ?_
    rcases List.mem_append.mp inside with other | last
    · exact whole record among field other
    · rw [List.mem_singleton.mp last]
      exact wholeLast record among

end Table

end PocketMint.Csv
