import PocketMint.Controllers.TransactionCsv
import PocketMint.Csv.Writer

/-! An export is read as the table it shows, exactly when no text has a carriage return outside quotes. -/

namespace PocketMint

/-- The quoting of the export's fields. -/
def csvQuoting : Csv.Quoting where
  quotes := needsQuotes
  covers field bare char among := by
    -- A character that the test looks for would have been found.
    have absent : ∀ char ∈ field.toList, ¬(char = '"' ∨ char = ',' ∨ char = '\n') := by
      simpa [needsQuotes, and_assoc] using bare
    have notSpecial := absent char among
    simp only [not_or] at notSpecial
    exact ⟨notSpecial.2.1, notSpecial.2.2, notSpecial.1⟩

/-- Fields are written as their quoting tells. -/
theorem csvField_eq : csvField = csvQuoting.encode := by
  funext value
  unfold csvField Csv.Quoting.encode
  -- Both put the same characters between the same quotes.
  split
  · rename_i quoted
    rw [if_pos (show csvQuoting.quotes value from quoted)]
    apply String.toList_injective
    simp [Csv.quote, Csv.escape]
  · rename_i bare
    rw [if_neg (show ¬csvQuoting.quotes value from bare)]

/-- Behind the mark, the export is the table of its rows. -/
theorem transactionsToCsv_toList (transactions : List ExportedTransaction) :
    (transactionsToCsv transactions).toList.drop 1 =
      (csvQuoting.write (csvHeader :: transactions.map csvRow)).toList := by
  rw [transactionsToCsv, csvField_eq, String.toList_append]
  rfl

/-! Dates, kinds and amounts are written without any special character. -/

/-- A text without carriage returns has no break inside. -/
theorem breaks_of_notMem {value : String} (absent : '\r' ∉ value.toList) :
    csvQuoting.breaks value = 0 := by
  unfold Csv.Quoting.breaks
  split
  · rfl
  · exact List.count_eq_zero.mpr absent

/-- Digits with zeros in front hold no carriage return. -/
theorem return_notMem_padDigits (width value : Nat) : '\r' ∉ Js.padDigits width value := by
  intro among
  rcases List.mem_append.mp among with zero | digit
  · exact absurd (List.eq_of_mem_replicate zero) (by decide)
  · have isDigit := Nat.isDigit_of_mem_toDigits (by decide) (by decide) digit
    exact absurd isDigit (by decide)

theorem breaks_isoDay (instant : Instant) : csvQuoting.breaks (Js.isoDay instant) = 0 := by
  -- A date is digits, hyphens and perhaps a sign.
  apply breaks_of_notMem
  intro among
  rw [Js.isoDay, String.toList_ofList] at among
  have whole := List.mem_of_mem_take among
  simp only [List.mem_append, List.mem_cons] at whole
  have digits := return_notMem_padDigits
  -- The year may be written with a sign, and the other parts are digits alone.
  rcases whole with (year | hyphen | month) | hyphen | day
  · split at year
    · exact digits _ _ year
    · rcases List.mem_cons.mp year with sign | year
      · split at sign <;> cases sign
      · exact digits _ _ year
  · cases hyphen
  · exact digits _ _ month
  · cases hyphen
  · exact digits _ _ day

theorem breaks_type (type : FinancialTxType) : csvQuoting.breaks type.text = 0 := by
  cases type <;> decide

theorem breaks_amount (amount : Decimal) : csvQuoting.breaks amount.text = 0 := by
  -- An amount is digits, perhaps with a sign and a point.
  apply breaks_of_notMem
  intro among
  rw [Decimal.text, String.toList_ofList] at among
  have digits := return_notMem_padDigits
  -- The sign, the whole part and the fraction are looked at in turn.
  rcases List.mem_append.mp among with front | fraction
  · rcases List.mem_append.mp front with sign | whole
    · split at sign <;> simp at sign
    · exact digits _ _ whole
  · split at fraction
    · cases fraction
    · split at fraction <;>
      · rcases List.mem_cons.mp fraction with point | part
        · cases point
        · exact digits _ _ part

/-! Texts that users write. -/

/-- The texts of a transaction that users write. -/
def ExportedTransaction.freeTexts (tx : ExportedTransaction) : List String :=
  [tx.transaction.description.getD "", tx.wallet.name, (tx.category.map CategoryRef.name).getD ""]

/-- A carriage return in a text comes with a comma, a quote or a newline. -/
def ReturnsQuoted (text : String) : Prop :=
  '\r' ∈ text.toList → ∃ char ∈ text.toList, char = '"' ∨ char = ',' ∨ char = '\n'

instance : DecidablePred ReturnsQuoted := fun text =>
  have : Decidable (∃ char ∈ text.toList, char = '"' ∨ char = ',' ∨ char = '\n') := List.decidableBEx _ _
  inferInstanceAs (Decidable ('\r' ∈ text.toList → ∃ char ∈ text.toList, char =
    '"' ∨ char = ',' ∨ char = '\n'))

/-- A sanitized text breaks inside exactly when it holds a carriage return and is not quoted. -/
theorem breaks_sanitize (text : String) :
    csvQuoting.breaks (csvSanitizeText text) = 0 ↔ ReturnsQuoted text := by
  -- The apostrophe in front is neither a carriage return nor a reason to quote.
  have quotes : needsQuotes (csvSanitizeText text) = needsQuotes text := by
    unfold csvSanitizeText
    split <;> simp [needsQuotes]
  have returns : (csvSanitizeText text).toList.count '\r' = text.toList.count '\r' := by
    unfold csvSanitizeText
    split <;> simp
  -- A text is quoted for a quote, a comma or a line feed, and not for a carriage return.
  have tested : needsQuotes text ↔
      ∃ char ∈ text.toList, char = '"' ∨ char = ',' ∨ char = '\n' := by
    simp [needsQuotes, or_assoc]
  have breaks : csvQuoting.breaks (csvSanitizeText text) =
      if needsQuotes text then 0 else text.toList.count '\r' := by
    rw [Csv.Quoting.breaks, returns]
    exact if_congr (by rw [← quotes]; rfl) rfl rfl
  rw [breaks, ReturnsQuoted, ← tested]
  -- A quoted text hides its carriage returns, and an unquoted one must have none.
  cases needsQuotes text with
  | true => simp
  | false => simp [List.count_eq_zero]

/-- A sanitized text is no formula. -/
theorem startsFormula_sanitize (text : String) : startsFormula (csvSanitizeText text) = false := by
  unfold csvSanitizeText
  split
  · -- In front of a formula there is now an apostrophe.
    simp [startsFormula]
  · rename_i harmless
    simpa using harmless

/-! The export as a reader sees it. -/

/-- The table that a reader makes of an export, behind the mark. -/
def exportTable (transactions : List ExportedTransaction) : List (List String) :=
  Csv.read ((transactionsToCsv transactions).toList.drop 1)

/-- A reader sees the header and one record of six fields for each transaction, with no formula. -/
structure ExportReads (transactions : List ExportedTransaction) : Prop where
  table : exportTable transactions = csvHeader :: transactions.map csvRow
  harmless : ∀ record ∈ (exportTable transactions).tail, ∀ cell ∈ (record.drop 1).take 3,
    startsFormula cell = false

/-- The header as a record. -/
def headerRecord : Csv.Record where
  fields := ["Date", "Description", "Wallet", "Category", "Type"]
  last := "Amount"
  several := by simp

/-- A transaction's fields as a record. -/
def ExportedTransaction.record (tx : ExportedTransaction) : Csv.Record where
  fields := (csvRow tx).dropLast
  last := tx.transaction.amount.text
  several := by simp [csvRow]

/-- A transaction's record has no break inside exactly when its free texts have none. -/
theorem record_whole_iff (tx : ExportedTransaction) :
    (∀ field ∈ tx.record.fields, csvQuoting.breaks field = 0) ↔
      ∀ text ∈ tx.freeTexts, ReturnsQuoted text := by
  have fields : tx.record.fields = Js.isoDay tx.transaction.date ::
      tx.freeTexts.map csvSanitizeText ++ [tx.transaction.type.text] := rfl
  rw [fields]
  simp only [List.forall_mem_append, List.forall_mem_cons, List.forall_mem_map, breaks_sanitize,
    breaks_isoDay, breaks_type]
  simp

/-- An export is read as its table exactly when every text's carriage returns are quoted. -/
theorem exportTable_iff (transactions : List ExportedTransaction) :
    exportTable transactions = csvHeader :: transactions.map csvRow ↔
      ∀ tx ∈ transactions, ∀ text ∈ tx.freeTexts, ReturnsQuoted text := by
  let records := headerRecord :: transactions.map ExportedTransaction.record
  have rows : csvHeader :: transactions.map csvRow = records.map Csv.Record.row := by
    simp only [records, List.map_cons, List.map_map]
    rfl
  -- The last field is an amount and never broken, so the general rule of the format applies.
  have wholeLast : ∀ record ∈ records, csvQuoting.breaks record.last = 0 := by
    intro record among
    rcases List.mem_cons.mp among with rfl | other
    · decide
    · obtain ⟨tx, -, rfl⟩ := List.mem_map.mp other
      exact breaks_amount _
  have header : ∀ field ∈ headerRecord.fields, csvQuoting.breaks field = 0 := by decide
  rw [exportTable, transactionsToCsv_toList, rows, Csv.read_write_iff wholeLast]
  -- Only the three free texts of a row can hold a carriage return.
  simp only [records, List.forall_mem_cons, List.forall_mem_map, record_whole_iff]
  exact and_iff_right header

/--
An export is read as the header and one record of six fields for each transaction, none of them a
formula, exactly when every text with a carriage return also holds a comma, a quote or a newline.
-/
theorem transactionsToCsv_reads_iff (transactions : List ExportedTransaction) :
    ExportReads transactions ↔
      ∀ tx ∈ transactions, ∀ text ∈ tx.freeTexts, ReturnsQuoted text := by
  constructor
  -- If the export reads back, no free text has an unquoted carriage return.
  · intro reads
    exact (exportTable_iff transactions).mp reads.table
  · intro quoted
    have table := (exportTable_iff transactions).mpr quoted
    refine ⟨table, ?_⟩
    rw [table, List.tail_cons]
    intro record among cell text
    obtain ⟨tx, -, rfl⟩ := List.mem_map.mp among
    -- The three cells behind the date are the sanitized texts.
    have cells : ((csvRow tx).drop 1).take 3 = tx.freeTexts.map csvSanitizeText := rfl
    rw [cells] at text
    obtain ⟨free, -, rfl⟩ := List.mem_map.mp text
    exact startsFormula_sanitize free

/-- An expense with a description that breaks off before what looks like a formula. -/
def brokenDescription : ExportedTransaction where
  transaction :=
    { id := 0
      userId := 1
      walletId := 1
      toWalletId := none
      categoryId := none
      type := .expense
      amount := 12
      description := some "a\r=1"
      isInstallment := false
      installmentId := none
      date := 0
      createdAt := 0 }
  wallet := ⟨1, "Bank", .bank⟩
  category := none

/-- The description's carriage return ends the record, and a formula starts the next one. -/
theorem transactionsToCsv_breaks :
    exportTable [brokenDescription] =
      [csvHeader, ["1970-01-01", "a"], ["=1", "Bank", "", "EXPENSE", "12"]] ∧
    ¬ExportReads [brokenDescription] := by
  have table : exportTable [brokenDescription] =
      [csvHeader, ["1970-01-01", "a"], ["=1", "Bank", "", "EXPENSE", "12"]] := by
    decide +kernel
  refine ⟨table, fun reads => ?_⟩
  have expected := reads.table
  rw [table] at expected
  simp at expected

end PocketMint
