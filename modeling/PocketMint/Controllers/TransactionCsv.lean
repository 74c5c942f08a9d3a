import PocketMint.Store.Schema

/-! The export of transactions as comma-separated values. -/

namespace PocketMint

namespace Js

/-- The decimal digits of a number, with zeros in front up to a width. -/
def padDigits (width value : Nat) : List Char :=
  let digits := Nat.toDigits 10 value
  List.replicate (width - digits.length) '0' ++ digits

/-- `toISOString().slice(0, 10)`; a year of more than four digits is written with a sign and six. -/
def isoDay (instant : Instant) : String :=
  let date := utcDate instant
  let year :=
    if 0 ≤ date.year ∧ date.year ≤ 9999 then padDigits 4 date.year.natAbs
    else (if date.year < 0 then '-' else '+') :: padDigits 6 date.year.natAbs
  let month := padDigits 2 date.month.natAbs
  let day := padDigits 2 date.day.natAbs
  String.ofList ((year ++ '-' :: month ++ '-' :: day).take 10)

end Js

/-- `toString` of an amount, whose column holds two digits behind the point. -/
def Decimal.text (amount : Decimal) : String :=
  let hundredths := (roundHalfUp (amount * 100)).natAbs
  let part := hundredths % 100
  let fraction :=
    if part = 0 then []
    else if part % 10 = 0 then '.' :: Js.padDigits 1 (part / 10)
    else '.' :: Js.padDigits 2 part
  String.ofList ((if amount < 0 then ['-'] else []) ++ Js.padDigits 1 (hundredths / 100) ++ fraction)

/-- The word that the database and the interface use for a kind of transaction. -/
def FinancialTxType.text : FinancialTxType → String
  | income => "INCOME"
  | expense => "EXPENSE"
  | transfer => "TRANSFER"

/-- A listed transaction, which always has a wallet. -/
structure ExportedTransaction where
  transaction : Transaction
  wallet : WalletRef
  category : Option CategoryRef

/-- `/[",\n]/.test(value)`. -/
def needsQuotes (value : String) : Bool :=
  value.toList.any fun char => char = '"' || char = ',' || char = '\n'

/-- Quote a field that holds a comma, a quote or a newline. -/
def csvField (value : String) : String :=
  if needsQuotes value then
    "\"" ++ String.ofList (value.toList.flatMap fun char => if char = '"' then ['"', '"'] else [char])
      ++ "\""
  else value

/-- `/^[=+\-@]/.test(value)`: a spreadsheet takes the text for a formula. -/
def startsFormula (value : String) : Bool :=
  match value.toList with
  | [] => false
  | char :: _ => char = '=' || char = '+' || char = '-' || char = '@'

/-- Put an apostrophe in front of a text that would be a formula. -/
def csvSanitizeText (value : String) : String :=
  if startsFormula value then "'" ++ value else value

/-- The mark in front of the export, from which spreadsheets tell the encoding. -/
def csvBom : String := "\uFEFF"

def csvHeader : List String := ["Date", "Description", "Wallet", "Category", "Type", "Amount"]

/-- The fields of one transaction. -/
def csvRow (tx : ExportedTransaction) : List String :=
  [Js.isoDay tx.transaction.date,
    csvSanitizeText (tx.transaction.description.getD ""),
    csvSanitizeText tx.wallet.name,
    csvSanitizeText ((tx.category.map CategoryRef.name).getD ""),
    tx.transaction.type.text,
    tx.transaction.amount.text]

def transactionsToCsv (transactions : List ExportedTransaction) : String :=
  csvBom ++ "\r\n".intercalate
    ((csvHeader :: transactions.map csvRow).map fun row => ",".intercalate (row.map csvField))

end PocketMint
