import PocketMint.Controllers.TransactionCsv
import PocketMint.Controllers.TransactionExport
import PocketMint.Services.TransactionQueryLaws

/-! The handler of an export: from the texts of its query to a file, a refusal, or a forwarded error. -/

namespace PocketMint

open Prog (ofExcept)
open TransactionQueryService (currentReportingMonth)

/-- The members that `in` finds in every object, because `Object.prototype` has them. -/
def Js.prototypeMembers : List String :=
  ["constructor", "__defineGetter__", "__defineSetter__", "hasOwnProperty", "__lookupGetter__",
    "__lookupSetter__", "isPrototypeOf", "propertyIsEnumerable", "toString", "valueOf", "__proto__",
    "toLocaleString"]

/-- The period that is a key of `EXPORT_PERIOD_MONTHS`. -/
def ExportPeriod.ofKey? : String → Option ExportPeriod
  | "month" => some .month
  | "quarter" => some .quarter
  | "six-months" => some .sixMonths
  | _ => none

/-- `period in EXPORT_PERIOD_MONTHS`. -/
def inExportPeriodMonths (period : String) : Bool :=
  (ExportPeriod.ofKey? period).isSome || Js.prototypeMembers.contains period

/-- `resolveExportRange` for a text that `in` has found. -/
def resolveExportRangeOf (zone : Zone) (period : String) (anchor : Instant) :
    Except String (Instant × Instant) :=
  match ExportPeriod.ofKey? period with
  | some period => resolveExportRange zone period anchor
  | none => do
    -- An inherited member is no number: the count and the opening month are `NaN`, which is no integer.
    let _last ← getReportingMonthRange (currentReportingMonth zone anchor) zone
    throw "month must be a valid calendar month"

/-- The texts that an export is asked for with. -/
structure ExportQuery where
  userId : Id
  period : Option String := none
  anchor : Option String := none

/-- What the handler sends: an error with its status, or a file. -/
inductive ExportResponse where
  | sendError (message : String) (status : Nat)
  | send (filename body : String)
  deriving DecidableEq

/-- A listed transaction as a row of the file, which reads the name of its wallet. -/
def TransactionWithRelations.exported (tx : TransactionWithRelations) : Except String ExportedTransaction :=
  match tx.wallet with
  | some wallet => .ok { transaction := tx.transaction, wallet, category := tx.category }
  | none => .error "Cannot read properties of null (reading 'name')"

/-- `TransactionController.export`, whose failures are forwarded. -/
def TransactionController.export_ (zone : Zone) (now : Instant) (query : ExportQuery) :
    Service ExportResponse :=
  match query.period with
  | none => return .sendError "Invalid period. Allowed: month, quarter, six-months" 400
  | some period =>
    if !inExportPeriodMonths period then
      return .sendError "Invalid period. Allowed: month, quarter, six-months" 400
    else
      match parseReportingAnchor query.anchor zone now with
      | .error _ => return .sendError "Invalid anchor date" 400
      | .ok anchor => do
        let (startDate, endDate) ←
          ofExcept ((resolveExportRangeOf zone period anchor).mapError Failure.thrown)
        let transactions ← listTransactions zone now
          { userId := query.userId, startDate := some startDate, endDate := some endDate }
        let rows ← ofExcept ((transactions.mapM TransactionWithRelations.exported).mapError Failure.thrown)
        return .send (exportFilename startDate endDate zone) (transactionsToCsv rows)

/-- Listed transactions with wallets are the rows of the file, in their order. -/
theorem exported_mapM {listed : List TransactionWithRelations} (kept : ∀ tx ∈ listed, tx.wallet.isSome) :
    ∃ rows, listed.mapM TransactionWithRelations.exported = .ok rows ∧
      rows.map ExportedTransaction.transaction = listed.map TransactionWithRelations.transaction := by
  -- A row is exported if its wallet is there, and keeps its transaction.
  induction listed with
  | nil => exact ⟨[], rfl, rfl⟩
  | cons tx listed ih =>
    -- The rows after the first are exported as they are listed.
    obtain ⟨rows, read, same⟩ := ih fun other among => kept other (List.mem_cons_of_mem _ among)
    -- The first has its wallet, so nothing is thrown for it.
    obtain ⟨wallet, located⟩ := Option.isSome_iff_exists.mp (kept tx List.mem_cons_self)
    refine ⟨⟨tx.transaction, wallet, tx.category⟩ :: rows, ?_, ?_⟩
    · simp [List.mapM_cons, read, TransactionWithRelations.exported, located, bind, Except.bind, pure,
        Except.pure]
    · rw [List.map_cons, List.map_cons, same]

namespace TransactionController

variable {zone : Zone} {now : Instant} {s : Store} {query : ExportQuery} {period : String}
  {anchor startDate endDate : Instant}

/-- An export without a period that `in` finds is refused. -/
theorem export_refusesPeriod (unknown : ∀ period ∈ query.period, inExportPeriodMonths period = false) :
    (export_ zone now query).run s =
      (.ok (.sendError "Invalid period. Allowed: month, quarter, six-months" 400), s) := by
  -- An absent period is no key of the table, and neither is an unknown one.
  cases given : query.period with
  | none =>
    simp only [export_, given]
    rfl
  | some period =>
    simp only [export_, given, unknown period given]
    rfl

/-- An export whose anchor is not accepted is refused. -/
theorem export_refusesAnchor (given : query.period = some period) (found : inExportPeriodMonths period)
    {message : String} (refused : parseReportingAnchor query.anchor zone now = .error message) :
    (export_ zone now query).run s = (.ok (.sendError "Invalid anchor date" 400), s) := by
  simp only [export_, given, found, refused]
  rfl

/-- An export whose range cannot be computed forwards the error. -/
theorem export_forwards (given : query.period = some period) (found : inExportPeriodMonths period)
    (accepted : parseReportingAnchor query.anchor zone now = .ok anchor) {message : String}
    (failed : resolveExportRangeOf zone period anchor = .error message) :
    (export_ zone now query).run s = (.error (.thrown message), s) := by
  simp only [export_, given, found, accepted, failed]
  rfl

/-- An export with a range sends the transactions of the user between its ends. -/
theorem export_sends (given : query.period = some period) (found : inExportPeriodMonths period)
    (accepted : parseReportingAnchor query.anchor zone now = .ok anchor)
    (resolved : resolveExportRangeOf zone period anchor = .ok (startDate, endDate))
    (kept : ∀ row ∈ s.transactions.rows, (s.wallets.find? row.walletId).isSome) :
    ∃ rows, (export_ zone now query).run s =
        (.ok (.send (exportFilename startDate endDate zone) (transactionsToCsv rows)), s) ∧
      (rows.map ExportedTransaction.transaction).Perm
        (s.transactionsIn query.userId startDate endDate) := by
  -- The range bounds the listing on both sides.
  have window : TransactionQueryService.resolveWindow zone now
      { userId := query.userId, startDate := some startDate, endDate := some endDate } =
        .ok (some startDate, some endDate) := by
    simp [TransactionQueryService.resolveWindow]
  obtain ⟨listed, answered, same⟩ := listTransactions_run (s := s) rfl rfl rfl window
  -- Each listed transaction is a stored one with its relations, so its wallet is there.
  have whole : ∀ tx ∈ listed, tx.wallet.isSome := by
    intro tx among
    obtain ⟨row, selected, rfl⟩ := List.mem_map.mp (same.mem_iff.mp among)
    simpa [Store.includeTransaction] using kept row
      (List.mem_filter.mp ((mem_rowsBetween _).mp selected).1).1
  obtain ⟨rows, read, bare⟩ := exported_mapM whole
  refine ⟨rows, ?_, ?_⟩
  -- The request runs the listing and writes the rows that it returns.
  · simp only [export_, given, found, accepted, resolved, Except.mapError, Prog.ofExcept, Prog.ret_bind]
    show Prog.run (listTransactions zone now _ >>= _) s = _
    rw [Prog.run_bind, answered]
    simp only [read]
    rfl
  -- Without their relations the exported rows are the listed ones, and those are the stored ones.
  · have unjoined := same.map TransactionWithRelations.transaction
    rw [List.map_map] at unjoined
    rw [bare]
    exact unjoined.trans (.of_eq (List.map_id _))

end TransactionController

end PocketMint
