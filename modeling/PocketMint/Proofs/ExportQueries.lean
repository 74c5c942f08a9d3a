import PocketMint.Controllers.ExportHandler
import PocketMint.Proofs.Periods

/-! Which export queries are answered with a file or a refusal, and which end in a forwarded error. -/

namespace PocketMint

open Js Calendar TransactionQueryService

/-- The month that an anchor names; without an anchor it is the month of the clock. -/
def NamesMonth (zone : Zone) (now : Instant) (anchor : Option String) (value : CalendarMonth) : Prop :=
  match anchor with
  | none => value = currentReportingMonth zone now
  | some text => matchMonth text = some (value.year, value.month) ∧ value.Valid

/-- A text of four and two digits has no sign. -/
theorem year_of_matchMonth {text : String} {year month : Int} (read : matchMonth text = some (year, month)) :
    0 ≤ year := by
  -- A year is read from digits, which have no sign.
  unfold matchMonth at read
  split at read
  · rename_i y1 y2 y3 y4 m1 m2 _
    cases years : digitsValue [y1, y2, y3, y4] with
    | none => simp [years] at read
    | some yearValue =>
      cases months : digitsValue [m1, m2] with
      | none => simp [years, months] at read
      | some monthValue =>
        simp only [years, months, bind, Option.bind, pure, Option.some.injEq, Prod.mk.injEq] at read
        omega
  · cases read

namespace FixedZone

variable (fixed : FixedZone) {now instant : Instant}

/-- An accepted anchor leads to an instant at which the calendar shows the month that it names. -/
theorem parseReportingAnchor_names {anchor : Option String} {value : CalendarMonth}
    (names : NamesMonth fixed.zone now anchor value)
    (resolves : anchor.isSome → fixed.Resolves (monthOpens value.index)) :
    ∃ instant, parseReportingAnchor anchor fixed.zone now = .ok instant ∧
      currentReportingMonth fixed.zone instant = value := by
  -- Without an anchor the month is the current one, and a written month is parsed at its first day.
  cases anchor with
  | none => exact ⟨now, rfl, names.symm⟩
  | some text =>
    obtain ⟨written, valid⟩ := names
    have opens := resolves rfl
    refine ⟨fixed.midnight (monthOpens value.index), ?_, ?_⟩
    · rw [parseReportingAnchor_month valid written]
      exact fixed.localMidnight_resolves opens
    · rw [fixed.currentReportingMonth_opens opens.full, calendarMonthAt_index valid]

/-- An anchor is refused unless it names a month whose first day resolves. -/
theorem parseReportingAnchor_refuses {anchor : Option String}
    (unnamed : ∀ value, NamesMonth fixed.zone now anchor value →
      ¬(anchor.isSome → fixed.Resolves (monthOpens value.index))) :
    ∃ message, parseReportingAnchor anchor fixed.zone now = .error message := by
  -- The current month always resolves, so the anchor is a text that names no month or none that resolves.
  cases anchor with
  | none => exact absurd (by simp) (unnamed _ rfl)
  | some text =>
    cases read : matchMonth text with
    -- A text that is not written as a month is refused by the pattern.
    | none => exact ⟨_, by simp only [parseReportingAnchor, read]; rfl⟩
    | some parts =>
      obtain ⟨year, month⟩ := parts
      by_cases out : month < 1 ∨ 12 < month
      -- A month below one or above twelve is refused after the pattern.
      · exact ⟨_, by simp only [parseReportingAnchor, read, if_pos out]; rfl⟩
      · -- The month is one of the twelve, so it is its first day that does not resolve.
        let value : CalendarMonth := { year, month }
        have valid : value.Valid := ⟨by simp only [value]; omega, by simp only [value]; omega⟩
        have refused : ¬fixed.Resolves (monthOpens value.index) := fun resolves =>
          unnamed value ⟨read, valid⟩ fun _ => resolves
        have common : 0 ≤ (civilFromDays (monthOpens value.index)).year := by
          rw [← valid.first_eq]
          exact year_of_matchMonth read
        obtain ⟨message, failed⟩ := fixed.localMidnight_refuses common refused
        exact ⟨message, (parseReportingAnchor_month valid read fixed.zone now).trans failed⟩

/-- A range that is computed has its first day and the day after its last resolved. -/
theorem resolves_of_resolveExportRange {period : ExportPeriod} {value : CalendarMonth}
    (shown : currentReportingMonth fixed.zone instant = value) {range : Instant × Instant}
    (computed : resolveExportRange fixed.zone period instant = .ok range) :
    fixed.Resolves (monthOpens (openingMonth period value)) ∧
      fixed.Resolves (monthOpens (value.index + 1)) := by
  have valid : value.Valid := shown ▸ currentReportingMonth_valid fixed.zone instant
  simp only [resolveExportRange, shown, carryMonth_opening period valid] at computed
  -- Both ranges must have been computed, and each resolves its ends.
  cases last : getReportingMonthRange value fixed.zone with
  | error message => simp [last, bind, Except.bind] at computed
  | ok ending =>
    cases first : getReportingMonthRange (calendarMonthAt (openingMonth period value)) fixed.zone with
    | error message => simp [last, first, bind, Except.bind] at computed
    | ok opening =>
      have opens := (fixed.monthResolves_of_range first).2.1.1
      rw [index_calendarMonthAt] at opens
      exact ⟨opens, (fixed.monthResolves_of_range last).2.1.2⟩

/--
Whether an export is refused, or sends the file of the months that end with the one its anchor names.

The file lists the user's transactions from the opening of the first month up to the end of the last.
-/
def AnswersCleanly (now : Instant) (s : Store) (query : ExportQuery) : Prop :=
  (∃ message, (TransactionController.export_ fixed.zone now query).run s =
    (.ok (.sendError message 400), s)) ∨
  ∃ key period value rows, query.period = some key ∧ ExportPeriod.ofKey? key = some period ∧
    NamesMonth fixed.zone now query.anchor value ∧
    (TransactionController.export_ fixed.zone now query).run s =
      (.ok (.send (exportFilename (fixed.midnight (monthOpens (openingMonth period value)))
        (fixed.midnight (monthOpens (value.index + 1))) fixed.zone) (transactionsToCsv rows)), s) ∧
    (rows.map ExportedTransaction.transaction).Perm (s.transactionsIn query.userId
      (fixed.midnight (monthOpens (openingMonth period value)))
      (fixed.midnight (monthOpens (value.index + 1))))

/--
Whether a query that gets past both refusals has a period of its own and months that resolve.

A month's first day resolves from the year 100 on, and west of UTC from its second day on.
-/
def QueryResolves (now : Instant) (query : ExportQuery) : Prop :=
  ∀ key ∈ query.period, inExportPeriodMonths key → ∀ value, NamesMonth fixed.zone now query.anchor value →
    (query.anchor.isSome → fixed.Resolves (monthOpens value.index)) →
    ∃ period, ExportPeriod.ofKey? key = some period ∧
      fixed.Resolves (monthOpens (openingMonth period value)) ∧
      fixed.Resolves (monthOpens (value.index + 1))

end FixedZone

/-- An export is answered cleanly exactly when its query has a period of its own and months that resolve. -/
theorem export_clean_iff (fixed : FixedZone) (now : Instant) (s : Store) (query : ExportQuery)
    (kept : ∀ row ∈ s.transactions.rows, (s.wallets.find? row.walletId).isSome) :
    fixed.AnswersCleanly now s query ↔ fixed.QueryResolves now query := by
  constructor
  · intro clean key given found value names resolves
    -- The anchor is accepted, and what remains is whether the range can be computed.
    obtain ⟨instant, accepted, shown⟩ := fixed.parseReportingAnchor_names names resolves
    -- The query reaches the range, so a clean answer is one for which the range is computed.
    cases computed : resolveExportRangeOf fixed.zone key instant with
    | error message =>
      have forwarded := TransactionController.export_forwards (s := s) given found accepted computed
      rcases clean with ⟨_, refused⟩ | ⟨_, _, _, _, _, _, _, sent, _⟩
      · rw [forwarded] at refused
        cases refused
      · rw [forwarded] at sent
        cases sent
    | ok range =>
      -- The error comes from a month end that the zone skips, and the period has a key.
      unfold resolveExportRangeOf at computed
      cases named : ExportPeriod.ofKey? key with
      | none =>
        rw [named] at computed
        cases last : getReportingMonthRange (currentReportingMonth fixed.zone instant) fixed.zone <;>
          simp [last, bind, Except.bind, throw, throwThe, MonadExceptOf.throw] at computed
      | some period =>
        rw [named] at computed
        exact ⟨period, rfl, fixed.resolves_of_resolveExportRange shown computed⟩
  -- Conversely, an unknown period or an anchor that names no month is refused with its message.
  · intro resolves
    by_cases known : ∀ period ∈ query.period, inExportPeriodMonths period = false
    · exact .inl ⟨_, TransactionController.export_refusesPeriod known⟩
    · obtain ⟨key, given, found⟩ : ∃ key, query.period = some key ∧ inExportPeriodMonths key = true := by
        simpa using known
      by_cases named : ∃ value, NamesMonth fixed.zone now query.anchor value ∧
          (query.anchor.isSome → fixed.Resolves (monthOpens value.index))
      -- The remaining queries name a month that resolves, and they are answered with the rows of the range.
      · obtain ⟨value, names, opens⟩ := named
        obtain ⟨period, ofKey, first, last⟩ := resolves key given found value names opens
        obtain ⟨instant, accepted, shown⟩ := fixed.parseReportingAnchor_names names opens
        have computed := fixed.resolveExportRange_resolves period shown first last
        have keyed : resolveExportRangeOf fixed.zone key instant =
            resolveExportRange fixed.zone period instant := by
          simp only [resolveExportRangeOf, ofKey]
        obtain ⟨rows, sent, selected⟩ :=
          TransactionController.export_sends given found accepted
          (keyed.trans computed) kept
        exact .inr ⟨key, period, value, rows, given, ofKey, names, sent, selected⟩
      · have unnamed : ∀ value, NamesMonth fixed.zone now query.anchor value →
            ¬(query.anchor.isSome → fixed.Resolves (monthOpens value.index)) :=
          fun value names opens => named ⟨value, names, opens⟩
        obtain ⟨message, refused⟩ := fixed.parseReportingAnchor_refuses unnamed
        exact .inl ⟨_, TransactionController.export_refusesAnchor given found refused⟩

/-- The half-year that ends with January 1970 is sent as a file. -/
theorem export_clean_half_year :
    let s := serveAll defaultTimezone.zone .empty spent
    let query : ExportQuery := { userId := 1, period := some "six-months", anchor := some "1970-01" }
    defaultTimezone.AnswersCleanly 0 s query := by
  intro s query
  -- The months of the query are computed, and both lie where the zone resolves.
  have kept : ∀ row ∈ s.transactions.rows, (s.wallets.find? row.walletId).isSome := by decide +kernel
  refine (export_clean_iff defaultTimezone 0 s query kept).mpr ?_
  rintro key given - value ⟨written, -⟩ -
  obtain rfl : "six-months" = key := Option.some.inj given
  have read : matchMonth "1970-01" = some (1970, 1) := by decide
  obtain ⟨year, month⟩ := Prod.mk.inj (Option.some.inj (read.symm.trans written))
  have index : value.index = 12 * 1970 := by
    simp only [CalendarMonth.index]
    omega
  have opening : openingMonth .sixMonths value = 12 * 1970 - 5 := by
    rw [openingMonth, index]
    rfl
  refine ⟨.sixMonths, by decide, ?_, ?_⟩
  · rw [opening]
    exact (defaultTimezone.monthResolves_of_bounds (by decide) (by decide)).1
  · rw [index]
    exact (defaultTimezone.monthResolves_of_bounds (by decide) (by decide)).2

/-- `toString` is found in every object, so the export goes on with a count that is no number. -/
theorem export_forwards_toString :
    let query : ExportQuery := { userId := 1, period := some "toString", anchor := some "2026-01" }
    (TransactionController.export_ defaultTimezone.zone 0 query).run .empty =
        (.error (.thrown "month must be a valid calendar month"), .empty) ∧
      ¬defaultTimezone.AnswersCleanly 0 .empty query := by
  intro query
  -- The error of the query is sent on as it is, which is neither of the clean answers.
  have forwarded : (TransactionController.export_ defaultTimezone.zone 0 query).run .empty =
      (.error (.thrown "month must be a valid calendar month"), .empty) :=
    TransactionController.export_forwards rfl (by decide)
      (show parseReportingAnchor (some "2026-01") defaultTimezone.zone 0 = .ok 1767200400000 by decide)
      (by decide)
  refine ⟨forwarded, ?_⟩
  rintro (⟨_, refused⟩ | ⟨_, _, _, _, _, _, _, sent, _⟩)
  · rw [forwarded] at refused
    cases refused
  · rw [forwarded] at sent
    cases sent

end PocketMint
