import PocketMint.Controllers.Notification
import PocketMint.Domain.DayOpenings
import PocketMint.Invariant.Reminded
import PocketMint.Proofs.DueDates
import PocketMint.Proofs.Reminders

/-! When a reminder of an instalment is shown as completed: it follows the payments of the term it is of. -/

namespace PocketMint

open Js Calendar Prog ReminderEngine InstallmentPaymentService NotificationController

section Dates

variable {zone : Zone} {now : Instant} {row : Installment}

/-- An instant is the beginning of the day of a term, counted from when the first term is due. -/
structure Falls (zone : Zone) (first : Instant) (terms : Nat) (instant : Instant) : Prop where
  dates : zone.Dates first
  written : FourDigit (termDay (zone.shown first) terms)
  opens : localMidnight (civilFromDays (termDay (zone.shown first) terms)) zone = .ok instant

namespace Falls

variable {first instant instant' : Instant} {terms later : Nat}

/-- The day of a term is the one that is shown at its beginning. -/
theorem shown (falls : Falls zone first terms instant) :
    zone.shown instant = termDay (zone.shown first) terms ∧ zone.Dates instant :=
  shown_localMidnight falls.written falls.opens

theorem unique (falls : Falls zone first terms instant) (falls' : Falls zone first terms instant') :
    instant = instant' :=
  Except.ok.inj (falls.opens.symm.trans falls'.opens)

/-- Later terms begin later. -/
theorem lt (within : zone.WithinDay) (falls : Falls zone first terms instant)
    (falls' : Falls zone first later instant') (order : terms < later) : instant < instant' := by
  -- The days of the two terms are ordered like the terms.
  have days := termDay_lt (zone.shown first) order
  -- A year of four digits lies long after the years that a formatter's numbers do not stand for.
  have full : firstFullDay + 4 < termDay (zone.shown first) terms := by
    have months := falls.written.1
    have opening : monthOf (firstFullDay + 4) < 12 * 1000 := by decide
    exact lt_of_monthOf_lt (by omega)
  exact within.localMidnight_lt (by omega) (by omega) falls.opens falls'.opens

end Falls

/-- Before the last term, a payment moves a due date to the beginning of the clamped day a month on. -/
theorem nextDueDate_shown {due : Instant} (more : isFinalTerm row = false)
    (dated : nextDueDate zone now row = .ok due) :
    zone.Dates row.nextDueDate ∧
      FourDigit (clampedDay (zone.shown row.nextDueDate) (monthOf (zone.shown row.nextDueDate) + 1)) ∧
      localMidnight (civilFromDays
        (clampedDay (zone.shown row.nextDueDate) (monthOf (zone.shown row.nextDueDate) + 1))) zone =
          .ok due := by
  -- A term remains, so the date is the one of the next month, parsed again.
  simp only [nextDueDate, more, Bool.false_eq_true, if_false] at dated
  have computed := mapError_ok.mp dated
  -- The month is added to the text of the date, which must be read back.
  cases added : addBillingMonth (formatReportingDate row.nextDueDate zone) 1 with
  | error message => simp [added, Bind.bind, Except.bind] at computed
  | ok text =>
    simp only [added, Bind.bind, Except.bind] at computed
    obtain ⟨dates, rfl⟩ := addBillingMonth_shown added
    exact ⟨dates, parseBusinessDate_text computed⟩

/-- A reminder's occurrence is the beginning of the day that is shown when the instalment is due. -/
theorem installmentReminder_shown {date : String} {occurrence reminder : Instant}
    (computed : installmentReminder zone now date row = .ok (some (occurrence, reminder))) :
    zone.Dates row.nextDueDate ∧
      localMidnight (civilFromDays (zone.shown row.nextDueDate)) zone = .ok occurrence := by
  -- A reminder that is computed has a date that parsed, and it opens the shown day.
  unfold installmentReminder at computed
  simp only at computed
  -- Without an occurrence there is no reminder.
  split at computed
  · cases computed
  · cases parsed : parseBusinessDate (some (formatReportingDate row.nextDueDate zone)) zone now with
    | error message => simp [parsed, Bind.bind, Except.bind] at computed
    | ok start =>
      simp only [parsed, Bind.bind, Except.bind, pure, Except.pure] at computed
      -- A reminder that is not due is none.
      split at computed
      · cases computed
      · obtain ⟨rfl, -⟩ := Prod.mk.inj (Option.some.inj (Except.ok.inj computed))
        exact parseBusinessDate_shown parsed

/-- An instant that lies behind the beginning of the day that is shown there. -/
def Zone.LateInDay (zone : Zone) (instant : Instant) : Prop :=
  ∃ start, localMidnight (calendarDateFromInstant instant zone) zone = .ok start ∧ start < instant

/-- A date without a time is read as the beginning of its day, which is never late. -/
theorem not_lateInDay {text : String} {parts : Int × Int × Int} {due : Instant}
    (read : matchDate text = some parts) (parsed : parseBusinessDate (some text) zone now = .ok due) :
    ¬zone.LateInDay due := by
  rintro ⟨start, opens, late⟩
  simp only [parseBusinessDate, read] at parsed
  rw [(localMidnight_ok parsed).2.2, parsed] at opens
  exact absurd (Except.ok.inj opens) late.ne'

/-- What payments make of an instalment, from the row that was bought. -/
structure Progress (zone : Zone) (bought : Installment) (count : Nat) (row : Installment) : Prop where
  term : row.installmentMonths = bought.installmentMonths
  paid : row.paidTerms = count
  tracked : row.Tracked
  first : count = 0 → row.nextDueDate = bought.nextDueDate
  later : 0 < count → (count : Int) < bought.installmentMonths →
    Falls zone bought.nextDueDate count row.nextDueDate

namespace Progress

variable {bought : Installment} {count : Nat}

/-- The day that is shown when an instalment is due is that of its next term. -/
theorem shown (progress : Progress zone bought count row) (left : (count : Int) < bought.installmentMonths) :
    zone.shown row.nextDueDate = termDay (zone.shown bought.nextDueDate) count := by
  cases count with
  | zero => rw [progress.first rfl, termDay_zero]
  | succ count => exact (progress.later (Nat.succ_pos count) left).shown.1

/-- Where the due date shows a date, so does the first one. -/
theorem dates (progress : Progress zone bought count row) (left : (count : Int) < bought.installmentMonths)
    (here : zone.Dates row.nextDueDate) : zone.Dates bought.nextDueDate := by
  cases count with
  | zero => exact progress.first rfl ▸ here
  | succ count => exact (progress.later (Nat.succ_pos count) left).dates

/-- A payment counts the due date one term on, unless it is the last. -/
theorem advance (progress : Progress zone bought count row) (unpaid : row.paidTerms < row.installmentMonths)
    {due : Instant} (dated : nextDueDate zone now row = .ok due) :
    Progress zone bought (count + 1) (advanced row due row) := by
  -- A payment moves the due date by one term, unless it is the last.
  have term := progress.term
  have paid := progress.paid
  refine ⟨term, ?_, progress.tracked.advance unpaid due, fun none => absurd none (Nat.succ_ne_zero count), ?_⟩
  -- One more term is paid.
  · show row.paidTerms + 1 = ((count + 1 : Nat) : Int)
    omega
  · intro _ left
    -- Another term remains, so the date has moved on by one month.
    have more : isFinalTerm row = false := by
      rw [isFinalTerm, decide_eq_false_iff_not]
      omega
    obtain ⟨dates, written, opens⟩ := nextDueDate_shown more dated
    rw [progress.shown (by omega), ← termDay_succ] at written opens
    exact ⟨progress.dates (by omega) dates, written, opens⟩

/-- A reminder of the next term occurs when the day of the term begins. -/
theorem falls (progress : Progress zone bought count row) (left : (count : Int) < bought.installmentMonths)
    {date : String} {occurrence reminder : Instant}
    (computed : installmentReminder zone now date row = .ok (some (occurrence, reminder))) :
    Falls zone bought.nextDueDate count occurrence := by
  obtain ⟨dates, opens⟩ := installmentReminder_shown computed
  have written := dates.written
  rw [progress.shown left] at written opens
  exact ⟨progress.dates left dates, written, opens⟩

/-- A term is done when it is paid, unless it is the first, unpaid, and due late in its day. -/
theorem done_iff (within : zone.WithinDay) (progress : Progress zone bought count row) {terms : Nat}
    {occurrence : Instant} (falls : Falls zone bought.nextDueDate terms occurrence) (reached : terms ≤ count)
    (within_ : (terms : Int) < bought.installmentMonths) :
    ((row.status = .settled ∨ occurrence < row.nextDueDate ↔ terms < count) ↔
      ¬(zone.LateInDay bought.nextDueDate ∧ count = 0)) := by
  -- The row counts the terms that are paid.
  have term := progress.term
  have paid := progress.paid
  have bounded := progress.tracked.bounded
  -- It is settled exactly if all of its terms are paid.
  have settled : row.status = .settled ↔ (count : Int) = bought.installmentMonths := by
    rw [progress.tracked.settled, term, paid]
  -- Either every term is paid, or the due date decides, and before the first payment it is the sent one.
  by_cases finished : (count : Int) = bought.installmentMonths
  · -- Every term of a settled instalment is paid.
    refine iff_of_true ⟨fun _ => by omega, fun _ => .inl (settled.mpr finished)⟩ ?_
    rintro ⟨-, rfl⟩
    omega
  · have open_ : ¬row.status = .settled := fun done => finished (settled.mp done)
    rw [or_iff_right open_]
    by_cases started : count = 0
    · -- Nothing is paid, so the due date is still the one of the purchase.
      subst started
      obtain rfl : terms = 0 := by omega
      have late : zone.LateInDay bought.nextDueDate ↔ occurrence < row.nextDueDate := by
        have opens := falls.opens
        rw [termDay_zero, ← falls.dates.real] at opens
        rw [Zone.LateInDay, opens, progress.first rfl]
        simp
      -- The occurrence is that of the first term, which is before the sent date if that one is late.
      rw [late]
      simp
    -- After a payment the due date is that of the first term that is not paid.
    · have due := progress.later (Nat.pos_of_ne_zero started) (by omega)
      refine iff_of_true ?_ fun both => started both.2
      constructor
      · intro before
        -- The term is paid, unless it is the next one, whose date has not passed.
        rcases Nat.lt_or_eq_of_le reached with earlier | rfl
        · exact earlier
        · exact absurd (falls.unique due) before.ne
      · intro earlier
        exact falls.lt within due earlier

end Progress

end Dates

section Events

variable {zone : Zone} {s s' s'' : Store}

/-- A step that keeps the instalments, and makes only reminders of a kind. -/
structure Store.Recording (made : RecurringReminderEvent → Prop) (s s' : Store) : Prop where
  installments : s'.installments = s.installments
  events : ∀ event ∈ s'.events.rows, event ∈ s.events.rows ∨ made event

namespace Store.Recording

variable {made : RecurringReminderEvent → Prop}

theorem refl (s : Store) : Store.Recording made s s := ⟨rfl, fun _ => .inl⟩

theorem trans (first : Store.Recording made s s') (second : Store.Recording made s' s'') :
    Store.Recording made s s'' := by
  refine ⟨second.installments.trans first.installments, ?_⟩
  intro event among
  rcases second.events event among with before | new
  · exact first.events event before
  · exact .inr new

/-- An upsert makes at most its own row. -/
theorem upsert (key : RecurringReminderEvent → Bool) {data : Id → RecurringReminderEvent}
    (own : ∀ id, made (data id)) : Store.Recording made s ((ReminderEngine.upsert key data).run s).2 := by
  -- An upsert changes nothing or inserts the one row of `data`.
  obtain same | ⟨rows, inserted, same⟩ := upsert_store (s := s) key data
  -- A reminder of the key was there.
  · rw [same]
    exact .refl s
  -- The inserted row is the one of the data.
  · rw [same]
    refine ⟨rfl, ?_⟩
    intro event among
    rcases (Table.mem_insert inserted).mp among with old | rfl
    · exact .inl old
    · exact .inr (own s.nextId)

end Store.Recording

/-- A reminder is of no instalment, or of the due date of an active one. -/
def DueReminder (zone : Zone) (now : Instant) (date : String) (s : Store)
    (event : RecurringReminderEvent) : Prop :=
  ∀ id ∈ event.installmentId, ∃ row ∈ s.installments.rows, row.id = id ∧ row.status = .active ∧
    ∃ reminder, installmentReminder zone now date row = .ok (some (event.occurrenceDate, reminder))

/-- An evaluation makes reminders of the due dates that the active instalments have. -/
theorem evaluateReminders_recording (zone : Zone) (now : Instant) (date : String) (userId : Option Id) :
    Store.Recording (DueReminder zone now date s) s ((evaluateReminders zone now date userId).run s).2 := by
  refine evaluateReminders_rel (Store.Recording (DueReminder zone now date s)) .refl .trans ?_ ?_
  · -- A template's reminder names no instalment.
    intro template offsetDays occurrence reminder key s₁
    refine .upsert key ?_
    intro id other named
    cases named
  · -- The loop reads the instalments after the templates, and neither loop changes them.
    intro s₁ first installment among occurrence reminder computed key s₂
    -- The instalment that is read is active.
    obtain ⟨here, reads⟩ := List.mem_filter.mp among
    simp only [Bool.and_eq_true, decide_eq_true_eq] at reads
    rw [first.installments] at here
    refine .upsert key ?_
    intro id other named
    obtain rfl : installment.id = other := Option.some.inj named
    exact ⟨installment, here, rfl, reads.1, reminder, computed⟩

/-- A reminder of an instalment was there before a call, or is of its due date then. -/
theorem serve_recording (numbered : s.Numbered) (call : Call) {event' : RecurringReminderEvent}
    (among : event' ∈ (serve zone s call).2.events.rows) {id : Id} (named : event'.installmentId = some id) :
    (∃ event ∈ s.events.rows, event.installmentId = some id ∧ event.occurrenceDate = event'.occurrenceDate) ∨
      ∃ date, DueReminder zone call.now date s event' := by
  -- Only an evaluation records reminders.
  by_cases evaluates : ∃ date userId, call.request = .evaluateReminders date userId
  · obtain ⟨now, request⟩ := call
    obtain ⟨date, userId, rfl⟩ := evaluates
    -- A reminder after the evaluation was there before or was made by it.
    rw [serve_evaluateReminders] at among
    rcases (evaluateReminders_recording zone now date userId).events event' among with old | made
    · exact .inl ⟨event', old, named, rfl⟩
    · exact .inr ⟨date, made⟩
  · -- Any other call only rewrites reminders, and keeps what they are of.
    let kept (s' : Store) : Prop := s'.Numbered ∧
      ∀ event' ∈ s'.events.rows, ∃ event ∈ s.events.rows, event.Frozen event'
    have after : kept (serve zone s call).2 := by
      refine serve_preserves numbered ?_ ⟨numbered, fun event here => ⟨event, here, .refl event⟩⟩
      -- Every commit of the call keeps what the reminders are of.
      intro seen s₁ s' _ held commit
      refine ⟨commit.numbered held.1, ?_⟩
      intro event' here
      obtain ⟨event, before, -, frozen⟩ := commit.reminderKept held.1
        (fun date userId asked => evaluates ⟨date, userId, asked⟩) here
      obtain ⟨first, there, kept⟩ := held.2 event before
      exact ⟨first, there, kept.trans frozen⟩
    obtain ⟨event, before, frozen⟩ := after.2 event' among
    exact .inl ⟨event, before, frozen.2.1.symm.trans named, frozen.2.2.2.1.symm⟩

end Events

section Runs

variable {zone : Zone} {installmentId : Id} {s : Store}

theorem serveAll_append (s : Store) (first rest : List Call) :
    serveAll zone s (first ++ rest) = serveAll zone (serveAll zone s first) rest := by
  simp only [serveAll, List.foldl_append]

theorem paymentsMade_append (s : Store) (first rest : List Call) :
    paymentsMade zone installmentId s (first ++ rest) =
      paymentsMade zone installmentId s first +
        paymentsMade zone installmentId (serveAll zone s first) rest := by
  induction first generalizing s with
  | nil => simp [paymentsMade, serveAll]
  | cons call first ih =>
    rw [List.cons_append, paymentsMade, paymentsMade, ih, Nat.add_assoc]
    rfl

/--
A term of an instalment was due on the date of an instant: when it was next to pay, the due date showed it.
-/
def DueOn (zone : Zone) (installmentId : Id) (s : Store) (calls : List Call) (term : Nat)
    (instant : Instant) : Prop :=
  ∃ earlier, earlier <+: calls ∧ paymentsMade zone installmentId s earlier = term ∧
    ∃ row, (serveAll zone s earlier).installments.find? installmentId = some row ∧
      row.paidTerms < row.installmentMonths ∧
      calendarDateFromInstant row.nextDueDate zone = calendarDateFromInstant instant zone

variable {bought : Installment} {calls : List Call} {term : Nat} {occurrence : Instant}

/-- At every moment of a run, the row is what the payments up to then have made of it. -/
theorem Billed.progress (billed : Billed installmentId (Progress zone bought) 0 s) (calls : List Call) :
    Billed installmentId (Progress zone bought) (paymentsMade zone installmentId s calls)
      (serveAll zone s calls) := by
  have later := billed.run (fun _ _ _ _ progress unpaid dated => progress.advance unpaid dated) calls
  rwa [Nat.zero_add] at later

namespace DueOn

/-- Before any call, the first term is the one that is due on the date that the row shows. -/
theorem start {row : Installment} (found : s.installments.find? installmentId = some row)
    (unpaid : row.paidTerms < row.installmentMonths)
    (date : calendarDateFromInstant row.nextDueDate zone = calendarDateFromInstant occurrence zone) :
    DueOn zone installmentId s calls 0 occurrence :=
  ⟨[], List.nil_prefix, rfl, row, found, unpaid, date⟩

theorem later {further : List Call} (due : DueOn zone installmentId s calls term occurrence)
    (continues : calls <+: further) : DueOn zone installmentId s further term occurrence := by
  obtain ⟨earlier, before, found⟩ := due
  exact ⟨earlier, before.trans continues, found⟩

/-- A term that was due is a term of the instalment, and not after the next one to pay. -/
theorem bounds (due : DueOn zone installmentId s calls term occurrence)
    (billed : Billed installmentId (Progress zone bought) 0 s) :
    term ≤ paymentsMade zone installmentId s calls ∧ (term : Int) < bought.installmentMonths := by
  obtain ⟨earlier, ⟨rest, rfl⟩, rfl, row, here, unpaid, -⟩ := due
  have progress := (billed.progress earlier).billed row here
  rw [progress.term, progress.paid] at unpaid
  rw [paymentsMade_append]
  exact ⟨Nat.le_add_right _ _, unpaid⟩

/-- Only one term was due on the day that a term's day begins. -/
theorem unique (due : DueOn zone installmentId s calls term occurrence)
    (billed : Billed installmentId (Progress zone bought) 0 s) {own : Nat}
    (falls : Falls zone bought.nextDueDate own occurrence) : term = own := by
  -- The reminder was made in a store where the term was the next one.
  have inTerms := (due.bounds billed).2
  obtain ⟨earlier, -, rfl, row, here, -, date⟩ := due
  have progress := (billed.progress earlier).billed row here
  -- The instalment and the reminder show one date.
  have day : zone.shown row.nextDueDate = zone.shown occurrence := by
    rw [Zone.shown, Zone.shown, date]
  rw [progress.shown inTerms, falls.shown.1] at day
  -- The days of different terms differ.
  rcases Nat.lt_trichotomy (paymentsMade zone installmentId s earlier) own with less | same | more
  · have apart := termDay_lt (zone.shown bought.nextDueDate) less
    omega
  · exact same
  · have apart := termDay_lt (zone.shown bought.nextDueDate) more
    omega

end DueOn

/-- After any run, a reminder of an instalment occurs when the day of a term begins that was due on it. -/
theorem Billed.reminders (billed : Billed installmentId (Progress zone bought) 0 s)
    (fresh : ∀ event ∈ s.events.rows, event.installmentId ≠ some installmentId) (calls : List Call)
    {event : RecurringReminderEvent} (among : event ∈ (serveAll zone s calls).events.rows)
    (named : event.installmentId = some installmentId) :
    ∃ term, DueOn zone installmentId s calls term event.occurrenceDate ∧
      Falls zone bought.nextDueDate term event.occurrenceDate := by
  -- The induction is on the run from its end: the last call kept the reminder, or made it.
  induction calls using List.reverseRecOn generalizing event with
  | nil => exact absurd named (fresh event among)
  | append_singleton calls call ih =>
    have before := billed.progress calls
    rw [serveAll_append] at among
    rcases serve_recording before.numbered call among named with ⟨old, there, same, occurrence⟩ | ⟨date, made⟩
    -- A reminder that was there is of a term by the induction.
    · obtain ⟨term, due, falls⟩ := ih there same
      rw [occurrence] at due falls
      exact ⟨term, due.later (List.prefix_append calls [call]), falls⟩
    -- A new one is of the term that was due when it was made.
    · obtain ⟨row, here, rfl, active, reminder, computed⟩ := made installmentId named
      have found := Table.find?_of_mem here
      have progress := before.billed row found
      -- The instalment was active, so a term was left.
      have unpaid : row.paidTerms < row.installmentMonths := by
        have settled := progress.tracked.settled
        have bounded := progress.tracked.bounded
        rw [active] at settled
        have open_ : row.paidTerms ≠ row.installmentMonths := fun all => by cases settled.mpr all
        omega
      have left := unpaid
      rw [progress.term, progress.paid] at left
      have falls := progress.falls left computed
      refine ⟨paymentsMade zone row.id s calls,
        ⟨calls, List.prefix_append calls [call], rfl, row, found, unpaid, ?_⟩,
        falls⟩
      -- What is recorded shows the date of the instalment.
      have shows := installmentReminder_shown computed
      rw [shows.1.real]
      exact (localMidnight_ok shows.2).2.2.symm

end Runs

/-- A purchase starts without payments, and without reminders of its instalment. -/
theorem CreditCreated.unreminded {between : Store → Store → Prop} {zone : Zone} {now : Instant} {s s' : Store}
    {input : CreateTransactionInput} {principal rate : Decimal} {months : Int} {mode : BillKind}
    {plan : InstallmentPlan} {date nextDueDate : Instant} {wallet : Wallet} {installment : Installment}
    {row : Transaction} {installments : Table Installment} {rows : Table Transaction} (numbered : s.Numbered)
    (linked : s.Linked) (made : CreditCreated between zone now input principal rate months mode plan date
      nextDueDate wallet installment row installments rows s s') :
    ∀ event ∈ s'.events.rows, event.installmentId ≠ some installment.id := by
  -- The number of the plan was free.
  have drawn : installment.id = s.nextId := congrArg Installment.id made.backing
  intro event among named
  rw [made.after] at among
  -- A reminder from before would name an instalment that was there before.
  obtain ⟨known, own⟩ := Option.isSome_iff_exists.mp ((linked.events event among).2.1 installment.id named)
  -- Its number would be below the next one.
  have early := numbered.installments.find? (Store.ownInstallment_eq_some.mp own).1
  exact early.ne drawn

/--
Along any run after a credit purchase, a reminder of the instalment is of the one term that was due on its
date, and is shown as completed exactly when that term is paid, unless no term is paid yet and the first due
date lies behind the beginning of its day.
-/
theorem serialize_completed_iff {zone : Zone} (within : zone.WithinDay) {s : Store}
    (reached : Reachable zone s) {now : Instant} {input : CreateTransactionInput} {bought : Transaction}
    (accepted : reported (serve zone s { now, request := .createTransaction input }).1 = some bought)
    (credit : bought.isInstallment) {installmentId : Id} (named : bought.installmentId = some installmentId) :
    let purchased := (serve zone s { now, request := .createTransaction input }).2
    ∃ installment, purchased.installments.find? installmentId = some installment ∧
      ∀ calls row, (serveAll zone purchased calls).installments.find? installmentId = some row →
        ∀ event ∈ (serveAll zone purchased calls).events.rows, event.installmentId = some installmentId →
          ∃ term, DueOn zone installmentId purchased calls term event.occurrenceDate ∧
            (∀ other, DueOn zone installmentId purchased calls other event.occurrenceDate → other = term) ∧
            (((serialize ((serveAll zone purchased calls).includeEvent event)).completed = true ↔
                term < paymentsMade zone installmentId purchased calls) ↔
              ¬(zone.LateInDay installment.nextDueDate ∧
                paymentsMade zone installmentId purchased calls = 0)) := by
  intro purchased
  rcases createTransaction_credit reached.numbered accepted credit with ⟨principal, rate, months, mode,
    plan, date, nextDueDate, source, installment, installments, rows, made⟩
  have numbered : purchased.Numbered := (reached.step _).numbered
  -- The transaction names the instalment that the purchase was made with.
  obtain rfl : installment.id = installmentId := Option.some.inj (made.names.symm.trans named)
  have stored : purchased.installments.find? installment.id = some installment := made.found
  -- Nothing is paid yet, so the progress starts from the plan as it was bought.
  have billed : Billed installment.id (Progress zone installment) 0 purchased := by
    refine ⟨numbered, numbered.installments.find? stored, ?_⟩
    intro row same
    obtain rfl : installment = row := Option.some.inj (stored.symm.trans same)
    have started : installment.paidTerms = 0 := congrArg Installment.paidTerms made.backing
    exact ⟨rfl, started, made.isTracked, fun _ => rfl, fun some => absurd some (Nat.lt_irrefl 0)⟩
  -- No reminder is of the new plan.
  have fresh := made.unreminded reached.numbered reached.sound.linked
  refine ⟨installment, stored, ?_⟩
  intro calls row found event among reminds
  -- Each reminder is of one term, whose date it shows.
  obtain ⟨term, due, falls⟩ := billed.reminders fresh calls among reminds
  have progress := (billed.progress calls).billed row found
  obtain ⟨before, inTerms⟩ := due.bounds billed
  refine ⟨term, due, fun other due' => due'.unique billed falls, ?_⟩
  -- The answer compares the two instants.
  rw [serialize_completed reminds found]
  exact progress.done_iff within falls before inTerms

/-- A purchase of 300 over three months, with a first due date that is given. -/
def threeMonths (firstDueDate : String) : CreateTransactionInput :=
  { userId := 1, type := some .expense, amount := some (.exact 300), walletId := .given 13,
    categoryId := .given 0, isInstallment := true, installmentMonths := some (.finite 3),
    firstDueDate := some firstDueDate }

/-- The purchase, made by a user with a card. -/
def threeMonthsBought (firstDueDate : String) : Except Failure Response × Store :=
  serve defaultTimezone.zone (serveAll defaultTimezone.zone .empty (onboarding 1 1000 5000))
    { now := 0, request := .createTransaction (threeMonths firstDueDate) }

/-- The evaluation of the day that leads the first of February by the lead time of instalments. -/
def februaryReminder : Call := { now := 0, request := .evaluateReminders "1970-01-29" none }

/-- Once the first term of a purchase is paid, its reminder is shown as completed. -/
theorem serialize_completed_iff_paid :
    ∃ event ∈ (serveAll defaultTimezone.zone (threeMonthsBought "1970-02-01").2
        [februaryReminder, payment]).events.rows,
      event.installmentId = some 14 ∧ ∃ term,
        DueOn defaultTimezone.zone 14 (threeMonthsBought "1970-02-01").2 [februaryReminder, payment] term
          event.occurrenceDate ∧
        ((serialize ((serveAll defaultTimezone.zone (threeMonthsBought "1970-02-01").2
            [februaryReminder, payment]).includeEvent event)).completed = true ↔
          term < paymentsMade defaultTimezone.zone 14 (threeMonthsBought "1970-02-01").2
            [februaryReminder, payment]) := by
  -- The run is evaluated, and the theorem is then applied to what it answers.
  have reply : (reported (threeMonthsBought "1970-02-01").1).any (fun row =>
      row.isInstallment ∧ row.installmentId = some 14) := by
    decide +kernel
  -- The reminder is recorded, and one term is paid.
  have reminded :
      (∃ event ∈ (serveAll defaultTimezone.zone (threeMonthsBought "1970-02-01").2
        [februaryReminder, payment]).events.rows, event.installmentId = some 14) ∧
      ((serveAll defaultTimezone.zone (threeMonthsBought "1970-02-01").2
        [februaryReminder, payment]).installments.find? 14).isSome ∧
      paymentsMade defaultTimezone.zone 14 (threeMonthsBought "1970-02-01").2
        [februaryReminder, payment] = 1 := by
    decide +kernel
  unfold threeMonthsBought at reply reminded ⊢
  rcases (Option.any_eq_true _ _).mp reply with ⟨bought, accepted, facts⟩
  rcases of_decide_eq_true facts with ⟨credit, named⟩
  obtain ⟨⟨event, among, reminds⟩, here, count⟩ := reminded
  obtain ⟨row, found⟩ := Option.isSome_iff_exists.mp here
  -- The theorem says of which term the reminder is.
  obtain ⟨installment, -, shows⟩ := serialize_completed_iff defaultTimezone.withinDay
    ⟨onboarding 1 1000 5000, rfl⟩ accepted credit named
  obtain ⟨term, due, -, completed⟩ := shows [februaryReminder, payment] row found event among reminds
  refine ⟨event, among, reminds, term, due, completed.mpr ?_⟩
  -- A term is paid, so the exception does not apply.
  rintro ⟨-, none⟩
  exact absurd (count.symm.trans none) (by decide)

/-- The reminder of a term that is due at nine in the morning is shown as completed, and nothing is paid. -/
theorem serialize_completed_unpaid :
    let answer := threeMonthsBought "1970-02-01T09:00:00+07:00"
    let s' := serveAll defaultTimezone.zone answer.2 [februaryReminder]
    (reported answer.1).any (fun row => row.isInstallment ∧ row.installmentId = some 14) ∧
      ∃ event ∈ s'.events.rows, event.installmentId = some 14 ∧
        DueOn defaultTimezone.zone 14 answer.2 [februaryReminder] 0 event.occurrenceDate ∧
        (serialize (s'.includeEvent event)).completed = true ∧
        paymentsMade defaultTimezone.zone 14 answer.2 [februaryReminder] = 0 := by
  intro answer s'
  -- Everything but the term is a fact of the run; the term is the one of the first due date.
  have run : (reported answer.1).any (fun row => row.isInstallment ∧ row.installmentId = some 14) ∧
      (∃ event ∈ s'.events.rows, event.installmentId = some 14 ∧
        (∃ row ∈ answer.2.installments.find? 14, row.paidTerms < row.installmentMonths ∧
          calendarDateFromInstant row.nextDueDate defaultTimezone.zone =
            calendarDateFromInstant event.occurrenceDate defaultTimezone.zone) ∧
        (serialize (s'.includeEvent event)).completed = true) ∧
      paymentsMade defaultTimezone.zone 14 answer.2 [februaryReminder] = 0 := by
    decide +kernel
  obtain ⟨accepted, ⟨event, among, reminds, due, completed⟩, count⟩ := run
  obtain ⟨row, found, unpaid, date⟩ := due
  exact ⟨accepted, event, among, reminds, .start found unpaid date, completed, count⟩

end PocketMint
