import PocketMint.Proofs.Billing
import PocketMint.Proofs.Lifecycle
import PocketMint.Services.ReminderLaws

/-! The due dates of an instalment: each is counted from the one before, and so cut by its month. -/

namespace PocketMint

open Calendar Prog InstallmentPaymentService

namespace FixedZone

variable (fixed : FixedZone)

/-- Before the last term, a payment moves a due date to the same day of the next month. -/
theorem nextDueDate_counted {row : Installment} {day : Int} (shown : row.nextDueDate = fixed.midnight day)
    (written : FourDigit day) (later : monthOf day + 1 < 12 * 10000) (more : isFinalTerm row = false)
    (now : Instant) :
    nextDueDate fixed.zone now row = .ok (fixed.midnight (clampedDay day (monthOf day + 1))) := by
  -- The date is written, a month is added to the text, and the text is read back.
  have own : fixed.dayOf row.nextDueDate = day := by rw [shown, fixed.dayOf_midnight]
  have text : formatReportingDate row.nextDueDate fixed.zone = dayText day := by
    rw [← own]
    exact fixed.formatReportingDate_dayText (own.symm ▸ written)
  -- The next month has a year of four digits as well.
  have low := written.1
  have next : FourDigit (clampedDay day (monthOf day + 1)) := by
    rw [FourDigit, monthOf_clampedDay]
    omega
  have added := addBillingMonth_eq written (show 12 * 100 ≤ monthOf day + 1 by omega)
  simp only [nextDueDate, more, text, added, fixed.parseBusinessDate_dayText next, Bind.bind, Except.bind,
    Except.mapError]
  rfl

/-- What payments make of the due date of an instalment of some months. -/
structure Counted (dueDay first months : Int) (count : Nat) (row : Installment) : Prop where
  term : row.installmentMonths = months
  paid : row.paidTerms = count
  due : (count : Int) < months → row.nextDueDate = fixed.midnight (countedDay dueDay first count)

variable {fixed}

/-- An accepted payment counts the due date one month on, unless it was the last. -/
theorem Counted.advance {dueDay first months : Int} {count : Nat} {row : Installment} {now due : Instant}
    (day : 1 ≤ dueDay) (low : 12 * 1000 ≤ first) (high : first + months ≤ 12 * 10000)
    (counted : fixed.Counted dueDay first months count row) (unpaid : row.paidTerms < row.installmentMonths)
    (dated : nextDueDate fixed.zone now row = .ok due) :
    fixed.Counted dueDay first months (count + 1) (advanced row due row) := by
  -- The payment counts one term more, and its date is that of the next month.
  have here : (count : Int) < months := by
    rw [← counted.term, ← counted.paid]
    exact unpaid
  -- One more term is paid.
  refine ⟨counted.term, ?_, ?_⟩
  · show row.paidTerms + 1 = ((count + 1 : Nat) : Int)
    rw [counted.paid]
    rfl
  -- Another term is left, so the date is moved on by a month.
  · intro left
    have month := monthOf_countedDay day first count
    have more : isFinalTerm row = false := by
      rw [isFinalTerm, decide_eq_false_iff_not, counted.term, counted.paid]
      omega
    have written : FourDigit (countedDay dueDay first count) := by
      rw [FourDigit, month]
      omega
    have moved := fixed.nextDueDate_counted (counted.due here) written (by omega) more now
    rw [dated] at moved
    injection moved

end FixedZone

/-- A purchase on a wallet with billing days is first due on the payment day of a month soon after. -/
theorem CreditCreated.firstDue {fixed : FixedZone} {between : Store → Store → Prop} {now : Instant}
    {input : CreateTransactionInput} {principal rate : Decimal} {months : Int} {mode : BillKind}
    {plan : InstallmentPlan} {date nextDueDate : Instant} {wallet : Wallet} {installment : Installment}
    {row : Transaction} {installments : Table Installment} {rows : Table Transaction} {s s' : Store}
    (made : CreditCreated between fixed.zone now input principal rate months mode plan date nextDueDate
      wallet installment row installments rows s s')
    {cutoffDay paymentDueDay : Int} (closes : wallet.cutoffDay = some cutoffDay) (closing : 1 ≤ cutoffDay)
    (due : wallet.paymentDueDay = some paymentDueDay) (owing : 1 ≤ paymentDueDay ∧ paymentDueDay ≤ 31)
    (low : 12 * 1000 ≤ monthOf (fixed.dayOf date)) (high : monthOf (fixed.dayOf date) + 2 < 12 * 10000) :
    ∃ first text, monthOf (fixed.dayOf date) < first ∧ first ≤ monthOf (fixed.dayOf date) + 2 ∧
      calculateFirstDueDate
        { transactionDate := formatReportingDate date fixed.zone
          cutoffDay
          paymentDueDay
          timeZone := "Asia/Jakarta" } = .ok text ∧
      clampDay (first / 12) (first % 12) paymentDueDay = .ok text ∧
      nextDueDate = fixed.midnight (dayIn paymentDueDay first) := by
  -- The due date was resolved from the wallet and parsed again.
  rcases made.due with ⟨text, resolved, parsed⟩
  have written : FourDigit (fixed.dayOf date) := ⟨low, by omega⟩
  have given : (some cutoffDay).filter (· ≠ 0) = some cutoffDay ∧
      (some paymentDueDay).filter (· ≠ 0) = some paymentDueDay := by
    constructor <;> simp [Option.filter] <;> omega
  -- Both days are set, so the date is computed and not the client's.
  simp only [TransactionService.resolveFirstDueDate, closes, due, given.1, given.2] at resolved
  have computed := mapError_ok.mp resolved
  have dated := computed
  rw [fixed.formatReportingDate_dayText written] at dated
  -- It is one or two months after the purchase.
  rcases calculateFirstDueDate_ok written dated with ⟨_, _, monthsUntilDue, soon, rfl⟩
  have next : FourDigit (dayIn paymentDueDay (monthOf (fixed.dayOf date) + monthsUntilDue)) := by
    rw [FourDigit, monthOf_dayIn owing.1]
    omega
  -- The text is read back as the midnight of the clamped day.
  rw [TransactionService.businessDate, fixed.parseBusinessDate_dayText next] at parsed
  refine ⟨monthOf (fixed.dayOf date) + monthsUntilDue, _, by omega, by omega, computed, ?_, ?_⟩
  · exact clampDay_dayIn owing.1 owing.2 (by omega)
  · injection parsed with same
    exact same.symm

/--
After a purchase on a wallet with billing days, and any run of calls, the due date of its instalment
shows the payment day of the month as many months after the first as payments were accepted, exactly
when no month before was too short for the day that this one has.
-/
theorem payInstallment_due_dates {fixed : FixedZone} {s : Store} (reached : Reachable fixed.zone s)
    {now : Instant} {input : CreateTransactionInput} {bought : Transaction}
    (accepted : reported (serve fixed.zone s { now, request := .createTransaction input }).1 = some bought)
    (credit : bought.isInstallment) {installmentId : Id} (named : bought.installmentId = some installmentId)
    {wallet : Wallet} (found : s.wallets.find? bought.walletId = some wallet) {cutoffDay paymentDueDay : Int}
    (closes : wallet.cutoffDay = some cutoffDay) (closing : 1 ≤ cutoffDay ∧ cutoffDay ≤ 31)
    (due : wallet.paymentDueDay = some paymentDueDay) (owing : 1 ≤ paymentDueDay ∧ paymentDueDay ≤ 31)
    (low : 12 * 1000 ≤ monthOf (fixed.dayOf bought.date))
    (high : monthOf (fixed.dayOf bought.date) < 12 * 9981) :
    let purchased := (serve fixed.zone s { now, request := .createTransaction input }).2
    ∃ first text,
      calculateFirstDueDate
        { transactionDate := formatReportingDate bought.date fixed.zone
          cutoffDay
          paymentDueDay
          timeZone := "Asia/Jakarta" } = .ok text ∧
      clampDay (first / 12) (first % 12) paymentDueDay = .ok text ∧
      ∀ calls row, (serveAll fixed.zone purchased calls).installments.find? installmentId = some row →
        ∀ k : Nat, k = paymentsMade fixed.zone installmentId purchased calls →
          row.paidTerms = k ∧ (row.paidTerms < row.installmentMonths →
            (clampDay ((first + k) / 12) ((first + k) % 12) paymentDueDay =
                .ok (formatReportingDate row.nextDueDate fixed.zone) ↔
              ∀ j : Nat, j < k →
                min paymentDueDay (monthLength (first + k)) ≤ monthLength (first + j))) := by
  intro purchased
  rcases createTransaction_credit reached.numbered accepted credit with ⟨principal, rate, months, mode,
    plan, date, nextDueDate, source, installment, installments, rows, made⟩
  have numbered : purchased.Numbered := (reached.step _).numbered
  -- The transaction names the instalment and the wallet that the purchase was made with.
  obtain rfl : installment.id = installmentId := Option.some.inj (made.names.symm.trans named)
  obtain rfl : source = wallet := by
    rcases made.source with ⟨_, rfl, own⟩
    have onWallet : bought.walletId = source.id := congrArg Transaction.walletId made.shape
    rw [onWallet] at found
    exact Option.some.inj ((Store.ownWallet_eq_some.mp own).1.symm.trans found)
  obtain rfl : bought.date = date := congrArg Transaction.date made.shape
  -- The first due date is the clamped day of a later month.
  rcases made.firstDue closes closing.1 due owing low (by omega) with
    ⟨first, text, after, within, computed, clamped, dated⟩
  have planned := made.isPlanned
  have term := planned.ended
  have started : installment.paidTerms = 0 := congrArg Installment.paidTerms made.backing
  have onDue : installment.nextDueDate = nextDueDate := congrArg Installment.nextDueDate made.backing
  -- The plan counts from there, with nothing paid.
  have stored : purchased.installments.find? installment.id = some installment := made.found
  have billed : Billed installment.id
      (fixed.Counted paymentDueDay first installment.installmentMonths) 0 purchased := by
    refine ⟨numbered, numbered.installments.find? stored, ?_⟩
    intro row same
    obtain rfl : installment = row := Option.some.inj (stored.symm.trans same)
    exact ⟨rfl, started, fun _ => by rw [onDue, dated, countedDay]⟩
  refine ⟨first, text, computed, clamped, ?_⟩
  intro calls row here k same
  -- Every payment counts one month further.
  have later := billed.run (fun _ _ _ _ counted unpaid dated =>
    counted.advance owing.1 (by omega) (by omega) unpaid dated) calls
  rw [Nat.zero_add, ← same] at later
  have counted := later.billed row here
  refine ⟨counted.paid, ?_⟩
  intro unpaid
  rw [counted.term, counted.paid] at unpaid
  -- The text of a counted day is the clamped one's exactly when the days agree.
  have month := monthOf_countedDay owing.1 first k
  have written : FourDigit (countedDay paymentDueDay first k) := by
    rw [FourDigit, month]
    omega
  -- So the text of the due date is that of its day.
  have own : FourDigit (fixed.dayOf row.nextDueDate) := by
    rw [counted.due unpaid, fixed.dayOf_midnight]
    exact written
  have shown := fixed.formatReportingDate_dayText own
  rw [counted.due unpaid, fixed.dayOf_midnight] at shown
  rw [counted.due unpaid, shown, clampDay_dayIn owing.1 owing.2 (by omega), Except.ok.injEq,
    ← countedDay_eq_dayIn_iff owing.1]
  -- Two texts are equal if their days are.
  constructor
  · intro texts
    exact (formatCalendarDate_inj texts).symm
  · intro days
    rw [days]

/-- A user's first calls, with a card that closes on the 20th and is due on the last day of a month. -/
def lastDayCard : List Call :=
  [{ now := 0, request := .ensureDefaultCategories 1 },
    { now := 0, request := .createWallet
        { userId := 1, name := "Bank", type := .given .bank, balance := some (.exact 1000) } },
    { now := 0, request := .createWallet
        { userId := 1, name := "Card", type := .given .creditCard, creditLimit := some (.exact 5000)
          cutoffDay := .given (.finite 20), paymentDueDay := .given (.finite 31) } }]

/-- A purchase of 300 over three months in December, which is first due on the last of January. -/
def decemberPurchase : Call :=
  { now := 0, request := .createTransaction
      { userId := 1, type := some .expense, amount := some (.exact 300), walletId := .given 13,
        categoryId := .given 0, isInstallment := true, installmentMonths := some (.finite 3),
        date := some "1970-12-10" } }

/-- The payment of the first term moves the due date to the last day of the month after. -/
theorem payInstallment_due_dates_first :
    let s := serveAll defaultTimezone.zone .empty lastDayCard
    let purchased := (serve defaultTimezone.zone s decemberPurchase).2
    ∃ first text row,
      calculateFirstDueDate
        { transactionDate := "1970-12-10", cutoffDay := 20, paymentDueDay := 31
          timeZone := "Asia/Jakarta" } = .ok text ∧
      clampDay (first / 12) (first % 12) 31 = .ok text ∧
      (serveAll defaultTimezone.zone purchased [payment]).installments.find? 14 = some row ∧
      (clampDay ((first + 1) / 12) ((first + 1) % 12) 31 =
          .ok (formatReportingDate row.nextDueDate defaultTimezone.zone) ↔
        ∀ j : Nat, j < 1 → min 31 (monthLength (first + 1)) ≤ monthLength (first + j)) := by
  intro s purchased
  have reached : Reachable defaultTimezone.zone s := ⟨lastDayCard, rfl⟩
  -- The purchase, the card and the payment are evaluated, and the theorem dates the term.
  -- The purchase is accepted on the card, in December 1970.
  have reply : (reported (serve defaultTimezone.zone s decemberPurchase).1).any (fun row =>
      row.isInstallment ∧ row.installmentId = some 14 ∧ row.walletId = 13 ∧
        12 * 1000 ≤ monthOf (defaultTimezone.dayOf row.date) ∧
        monthOf (defaultTimezone.dayOf row.date) < 12 * 9981 ∧
        formatReportingDate row.date defaultTimezone.zone = "1970-12-10") := by
    decide +kernel
  rcases (Option.any_eq_true _ _).mp reply with ⟨bought, accepted, facts⟩
  rcases of_decide_eq_true facts with ⟨credit, named, onCard, low, high, dated⟩
  have card : (s.wallets.find? 13).any (fun wallet =>
      wallet.cutoffDay = some 20 ∧ wallet.paymentDueDay = some 31) := by
    decide +kernel
  rcases (Option.any_eq_true _ _).mp card with ⟨wallet, found, days⟩
  rcases of_decide_eq_true days with ⟨closes, due⟩
  -- A term is left after the payment.
  have paid : ((serveAll defaultTimezone.zone purchased [payment]).installments.find? 14).any (fun row =>
      row.paidTerms < row.installmentMonths) := by
    decide +kernel
  rcases (Option.any_eq_true _ _).mp paid with ⟨row, here, unpaid⟩
  rcases payInstallment_due_dates reached accepted credit named (onCard ▸ found) closes (by decide) due
    (by decide) low high with ⟨first, text, computed, clamped, dates⟩
  rw [dated] at computed
  -- One payment was made.
  have count : 1 = paymentsMade defaultTimezone.zone 14 purchased [payment] := by decide +kernel
  exact ⟨first, text, row, computed, clamped, here,
    (dates [payment] row here 1 count).2 (of_decide_eq_true unpaid)⟩

/-- After a due date in February, a bill that is due on the last of a month is due on the 28th of March. -/
theorem payInstallment_due_drifts :
    let s := serveAll defaultTimezone.zone .empty lastDayCard
    let purchased := (serve defaultTimezone.zone s decemberPurchase).2
    let s' := serveAll defaultTimezone.zone purchased [payment, payment]
    calculateFirstDueDate
        { transactionDate := "1970-12-10", cutoffDay := 20, paymentDueDay := 31
          timeZone := "Asia/Jakarta" } = .ok "1971-01-31" ∧
      paymentsMade defaultTimezone.zone 14 purchased [payment, payment] = 2 ∧
      (s'.installments.find? 14).map (fun row =>
        (row.installmentMonths, formatReportingDate row.nextDueDate defaultTimezone.zone)) =
          some (3, "1971-03-28") ∧
      clampDay 1971 2 31 = .ok "1971-03-31" := by
  decide +kernel

end PocketMint
