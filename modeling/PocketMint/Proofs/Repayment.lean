import PocketMint.Commit.Purchase
import PocketMint.Proofs.Acceptance
import PocketMint.Proofs.Funds
import PocketMint.Proofs.Plans
import PocketMint.Proofs.Renewals

/-! Which accepted credit purchases can be paid off, one term after the other. -/

namespace PocketMint

open Prog TransactionService InstallmentPaymentService

/-- Whether every call of a run is accepted. -/
def acceptsAll (zone : Zone) : Store → List Call → Bool
  | _, [] => true
  | s, call :: calls => accepts zone s call && acceptsAll zone (serve zone s call).2 calls

/-- A payment of the next term with the amount left out, at a time and dated as sent. -/
def termPayment (userId installmentId sourceWalletId : Id) (sent : Instant × Option String) : Call :=
  { now := sent.1, request := .payInstallment
      { userId, installmentId, sourceWalletId := .given sourceWalletId, date := sent.2 } }

/-- An instalment that has positive terms left, and a wallet that holds what they come to. -/
structure PayingOff (zone : Zone) (row : Installment) (source : Wallet) (s : Store) : Prop where
  reached : Reachable zone s
  found : s.installments.find? row.id = some row
  active : row.status = .active
  unpaid : row.paidTerms < row.installmentMonths
  share : 0 < row.monthlyAmount
  rest : 0 < row.grandTotal - row.monthlyAmount * (row.installmentMonths - 1)
  held : s.ownWallet source.id row.userId = some source
  asset : source.type.isAsset
  apart : row.walletId ≠ source.id
  funded : row.grandTotal - row.paidTerms * row.monthlyAmount ≤ source.balance

namespace PayingOff

variable {zone : Zone} {row : Installment} {source : Wallet} {s : Store}

/-- The next term comes to something, and to no more than the wallet holds. -/
theorem expected (paying : PayingOff zone row source s) :
    0 < expectedAmount row ∧ expectedAmount row ≤ source.balance ∧
      (isFinalTerm row = false → expectedAmount row = row.monthlyAmount) := by
  -- The plan is sound in every reachable store.
  have planned := paying.reached.planned.1 _ (Table.mem_of_find? paying.found)
  have share := paying.share
  have rest := paying.rest
  have funded := paying.funded
  cases final : isFinalTerm row with
  | true =>
    -- The last term is what all terms before it leave.
    have last : row.paidTerms = row.installmentMonths - 1 := by
      have bound := of_decide_eq_true final
      have unpaid := paying.unpaid
      omega
    have terms : (row.paidTerms : ℚ) = row.installmentMonths - 1 := by exact_mod_cast last
    rw [planned.final final]
    rw [terms, mul_comm] at funded
    exact ⟨rest, funded, fun more => by cases more⟩
  | false =>
    have monthly : expectedAmount row = row.monthlyAmount := by
      rw [expectedAmount, final]
      rfl
    -- Another term is left after this one, and what all but the last come to is below the total.
    have more : (row.paidTerms : ℚ) + 1 ≤ row.installmentMonths - 1 := by
      have bound := of_decide_eq_false final
      have left : row.paidTerms + 1 ≤ row.installmentMonths - 1 := by omega
      exact_mod_cast left
    have all := mul_le_mul_of_nonneg_left more share.le
    rw [monthly]
    exact ⟨share, by linarith, fun _ => rfl⟩

variable {sent : Instant × Option String}

/-- The payment of the next term passes every check once its due date can be moved on. -/
theorem checked (paying : PayingOff zone row source s) {date due : Instant}
    (dated : businessDate sent.2 zone sent.1 = .ok date) (moved : nextDueDate zone sent.1 row = .ok due) :
    PaymentChecked zone sent.1
      { userId := row.userId, installmentId := row.id, sourceWalletId := .given source.id, date := sent.2 }
      row source (expectedAmount row) date due s where
  dated := dated
  own := Store.ownInstallment_eq_some.mpr ⟨paying.found, rfl⟩
  active := paying.active
  unpaid := paying.unpaid
  paid := by
    rw [paymentAmount]
    exact if_neg (not_le.mpr paying.expected.1)
  named := rfl
  held := paying.held
  asset := paying.asset
  due := moved

/-- The payment of the next term is accepted exactly when its due date can be moved on. -/
theorem accepts_iff (paying : PayingOff zone row source s)
    (dated : ∃ date, businessDate sent.2 zone sent.1 = .ok date) :
    accepts zone s (termPayment row.userId row.id source.id sent) ↔
      ∃ due, nextDueDate zone sent.1 row = .ok due := by
  rcases dated with ⟨date, dated⟩
  -- The wallet of the plan is there, because the store is linked.
  have sound := paying.reached.sound
  have bill := Option.isSome_of_isSome_filter _ _
    (sound.linked.installments row (Table.mem_of_find? paying.found))
  -- Everything else that a payment checks is there, so only the next date can refuse it.
  constructor
  · intro accepted
    have named : pays row.id (termPayment row.userId row.id source.id sent) := by
      simp [pays, termPayment]
    rcases serve_pays_accepted named accepted with ⟨transfer, answered⟩
    rcases serve_posting sound.numbered answered with ⟨seen, posting⟩
    cases posting with
    -- The payment has written what its outline says, so its next due date was computed.
    | @payment _ installment _ _ _ due _ named made =>
      cases named
      rcases made.read with ⟨s₁, _, rfl, own⟩
      have here := (Store.ownInstallment_eq_some.mp own).1
      obtain rfl : row = installment := Option.some.inj (paying.found.symm.trans here)
      exact ⟨due, made.dated⟩
    | _ named => cases named
  · intro moved
    rcases moved with ⟨due, moved⟩
    rcases (paying.checked dated moved).accepted sound.numbered bill paying.expected.2.1 with
      ⟨response, _, _, _, served⟩
    rw [accepts, termPayment, served]
    rfl

/-- After an accepted payment the instalment is advanced, and its wallet holds what is left of it. -/
theorem served (paying : PayingOff zone row source s) {date due : Instant}
    (dated : businessDate sent.2 zone sent.1 = .ok date) (moved : nextDueDate zone sent.1 row = .ok due) :
    let s' := (serve zone s (termPayment row.userId row.id source.id sent)).2
    s'.installments.find? row.id = some (advanced row due row) ∧
      (isFinalTerm row = false → PayingOff zone (advanced row due row)
        { source with balance := source.balance - expectedAmount row } s') := by
  intro s'
  have sound := paying.reached.sound
  have bill := Option.isSome_of_isSome_filter _ _
    (sound.linked.installments row (Table.mem_of_find? paying.found))
  -- The payment is accepted, and the store is what it writes.
  rcases (paying.checked dated moved).accepted sound.numbered bill paying.expected.2.1 with
    ⟨response, walletName, rows, _, served⟩
  have after : s' = _ := congrArg Prod.snd served
  -- The payment advances the row, and its wallet has paid the expected amount.
  have found : s'.installments.find? row.id = some (advanced row due row) := by
    rw [after]
    simp [Store.credit, paying.found]
  refine ⟨found, ?_⟩
  intro more
  -- The source wallet is still the user's asset, with what it had less the amount.
  have held := Store.ownWallet_eq_some.mp paying.held
  have monthly := paying.expected.2.2 more
  have left : row.paidTerms + 1 < row.installmentMonths := by
    have bound := of_decide_eq_false more
    omega
  have funded := paying.funded
  refine
    { reached := paying.reached.step _
      found
      active := by simp [advanced, more]
      unpaid := left
      share := paying.share
      rest := paying.rest
      held := ?_
      asset := paying.asset
      apart := paying.apart
      funded := ?_ }
  · rw [Store.ownWallet_eq_some, after]
    refine ⟨?_, held.2⟩
    -- The transfer takes the amount from the source.
    have moved : WalletDelta.on (plainDeltas .transfer (expectedAmount row) source.id (some row.walletId))
        source.id = -expectedAmount row := by
      rw [on_plainDeltas_source, if_neg paying.apart, zero_sub]
    simp [Store.credit, held.1, moved, sub_eq_add_neg]
  -- What is left to pay is lower by the same amount.
  · show row.grandTotal - ((row.paidTerms + 1 : Int) : ℚ) * row.monthlyAmount ≤
      source.balance - expectedAmount row
    rw [monthly]
    push_cast
    linarith

end PayingOff

/--
Payments of all the terms that are left are accepted exactly when there is a due date for each, and
settle the instalment.
-/
theorem PayingOff.run {zone : Zone} {row : Installment} {source : Wallet} {s : Store}
    (paying : PayingOff zone row source s) {sent : Instant × Option String}
    {payments : List (Instant × Option String)}
    (count : (payments.length : Int) + 1 = row.installmentMonths - row.paidTerms)
    (dated : ∀ other ∈ sent :: payments, ∃ date, businessDate other.2 zone other.1 = .ok date) :
    let calls := (sent :: payments).map (termPayment row.userId row.id source.id)
    (acceptsAll zone s calls ↔ Renews zone row.nextDueDate payments.length) ∧
      (acceptsAll zone s calls →
        ((serveAll zone s calls).installments.find? row.id).map Installment.status = some .settled) := by
  -- The induction is on the payments after the next, each of which pays one term more.
  induction payments generalizing sent row source s with
  | nil =>
    intro calls
    rcases dated sent List.mem_cons_self with ⟨date, given⟩
    -- The last payment keeps the due date, whatever it is.
    have final : isFinalTerm row = true := by
      simp only [List.length_nil] at count
      simp only [isFinalTerm, decide_eq_true_eq]
      omega
    have kept : nextDueDate zone sent.1 row = .ok row.nextDueDate := by
      rw [nextDueDate, final]
      rfl
    -- Nothing else can refuse it.
    have accepted := (paying.accepts_iff ⟨date, given⟩).mpr ⟨_, kept⟩
    have all : acceptsAll zone s calls := by
      show (_ && true) = true
      rw [accepted]
      rfl
    refine ⟨iff_of_true all trivial, ?_⟩
    intro _
    show ((serve zone s (termPayment row.userId row.id source.id sent)).2.installments.find?
      row.id).map Installment.status = _
    rw [(paying.served given kept).1]
    simp [advanced, final]
  | cons other payments ih =>
    intro calls
    rcases dated sent List.mem_cons_self with ⟨date, given⟩
    have accepting := paying.accepts_iff ⟨date, given⟩
    -- Another payment follows, so this one is not the last term.
    have more : isFinalTerm row = false := by
      simp only [List.length_cons] at count
      push_cast at count
      simp only [isFinalTerm, decide_eq_false_iff_not]
      omega
    -- The run is accepted if the first payment is, and the rest after it.
    have split : acceptsAll zone s calls ↔
        accepts zone s (termPayment row.userId row.id source.id sent) ∧
          acceptsAll zone (serve zone s (termPayment row.userId row.id source.id sent)).2
            ((other :: payments).map (termPayment row.userId row.id source.id)) := by
      show (_ && _) = true ↔ _
      rw [Bool.and_eq_true]
    by_cases moves : ∃ next, monthAfter zone row.nextDueDate = .ok next
    -- The due date moves on, and the rest is paid from the advanced plan.
    · rcases moves with ⟨next, after⟩
      have moved := (nextDueDate_ok_iff more sent.1).mpr after
      have later := (paying.served given moved).2 more
      have left : (payments.length : Int) + 1 = row.installmentMonths - (row.paidTerms + 1) := by
        simp only [List.length_cons] at count
        push_cast at count
        omega
      rcases ih later left fun another listed => dated another (List.mem_cons_of_mem _ listed) with
        ⟨further, settled⟩
      -- The rest is accepted as long as the later dates can be moved on.
      have further : acceptsAll zone (serve zone s (termPayment row.userId row.id source.id sent)).2
          ((other :: payments).map (termPayment row.userId row.id source.id)) ↔
          Renews zone next payments.length := further
      refine ⟨?_, fun all => settled (split.mp all).2⟩
      rw [split, further, List.length_cons, Renews]
      constructor
      · exact fun accepted => ⟨next, after, accepted.2⟩
      · intro renews
        rcases renews with ⟨another, same, rest⟩
        rw [after] at same
        cases same
        exact ⟨accepting.mpr ⟨next, moved⟩, rest⟩
    · -- The first payment is refused, so its due date is not one that can be moved on.
      have refused : ¬acceptsAll zone s calls := by
        intro all
        rcases accepting.mp (split.mp all).1 with ⟨next, moved⟩
        exact moves ⟨next, (nextDueDate_ok_iff more sent.1).mp moved⟩
      refine ⟨iff_of_false refused ?_, fun all => absurd all refused⟩
      rintro ⟨next, after, _⟩
      exact moves ⟨next, after⟩

/-- What is to be paid back of a principal at a flat monthly rate: both parts are rounded to cents. -/
def owed (principal rate : Decimal) (months : Int) : Decimal :=
  toMoney (toMoney principal + toMoney (((principal.times rate).div 100).times months))

/--
Whether each term of some cents comes to something: the share, rounded half up, and what the last is left.
-/
def Divides (cents months : Int) : Prop :=
  months ≤ 2 * cents ∧ (months - 1) * ((2 * cents + months) / (2 * months)) < cents

/-- A plan owes what its principal and rate come to, in shares of which the last takes what is left. -/
theorem computeInstallmentPlan_owed {principal rate : Decimal} {months : Int} {plan : InstallmentPlan}
    (planned : computeInstallmentPlan { principal, interestRatePctPerMonth := rate, months } = .ok plan) :
    plan.grandTotal = owed principal rate months ∧ plan.monthlyAmount = toMoney (plan.grandTotal.div months) ∧
      plan.finalMonthlyAmount = computeFinalMonthlyAmount plan.grandTotal plan.monthlyAmount months := by
  unfold computeInstallmentPlan at planned
  -- A refused term, principal or rate makes no plan.
  by_cases term : months ≤ 0
  · simp [term] at planned
    cases planned
  by_cases paid : principal ≤ 0
  · simp [term, paid] at planned
    cases planned
  by_cases charged : rate < 0 ∨ 100 < rate
  · simp [term, paid, charged] at planned
    cases planned
  simp only [term, paid, charged, if_false] at planned
  obtain rfl := Except.ok.inj planned
  exact ⟨rfl, rfl, rfl⟩

/-- The floor of a share and a half is that of a quotient of integers. -/
theorem floor_share {cents months : Int} (term : 1 ≤ months) :
    ⌊(cents : ℚ) / 100 / months * 100 + 1 / 2⌋ = (2 * cents + months) / (2 * months) := by
  -- The quotient is the whole part of the share, and the remainder is what rounding decides on.
  have positive : (0 : ℚ) < months := by exact_mod_cast term
  have divided := Int.mul_ediv_add_emod (2 * cents + months) (2 * months)
  have lowest := Int.emod_nonneg (2 * cents + months) (show 2 * months ≠ 0 by omega)
  have highest := Int.emod_lt_of_pos (2 * cents + months) (show 0 < 2 * months by omega)
  generalize (2 * cents + months) / (2 * months) = quotient at *
  generalize (2 * cents + months) % (2 * months) = remainder at *
  -- The share in cents is a whole quotient and a remainder below one.
  have shifted : (cents : ℚ) / 100 / months * 100 + 1 / 2 = quotient + remainder / (2 * months) := by
    have whole : (2 * months * quotient + remainder : ℚ) = 2 * cents + months := by exact_mod_cast divided
    field_simp
    linarith
  have low : (0 : ℚ) ≤ remainder / (2 * months) := by
    have cast : (0 : ℚ) ≤ remainder := by exact_mod_cast lowest
    positivity
  have high : (remainder : ℚ) / (2 * months) < 1 := by
    have cast : (remainder : ℚ) < 2 * months := by exact_mod_cast highest
    rw [div_lt_one (by positivity)]
    exact cast
  rw [shifted, Int.floor_eq_iff]
  constructor <;> linarith

/--
The terms of an instalment that follows a plan are positive exactly when what it owes divides into them.
-/
theorem terms_positive_iff {row : Installment} (planned : row.Planned)
    (share : row.monthlyAmount = toMoney (row.grandTotal.div row.installmentMonths)) {cents : Int}
    (total : row.grandTotal = (cents : ℚ) / 100) :
    (0 < row.monthlyAmount ∧ 0 < row.grandTotal - row.monthlyAmount * (row.installmentMonths - 1)) ↔
      Divides cents row.installmentMonths := by
  -- Both amounts are computed in cents, where the question is one of division.
  have fits : row.grandTotal < 10 ^ 13 := lt_of_abs_lt (planned.fits _ (by simp))
  have term := planned.started
  -- The monthly amount is the rounded share, which is a quotient of whole numbers.
  have monthly : row.monthlyAmount =
      (((2 * cents + row.installmentMonths) / (2 * row.installmentMonths) : ℤ) : ℚ) / 100 := by
    rw [share, toMoney_div_months planned.total planned.owed fits term, total, floor_share term]
  -- The rounded share is positive from half a cent on.
  have rounded : 0 < (2 * cents + row.installmentMonths) / (2 * row.installmentMonths) ↔
      row.installmentMonths ≤ 2 * cents := by
    rw [← Int.add_one_le_iff, zero_add, Int.le_ediv_iff_mul_le (by omega)]
    omega
  rw [monthly, total, Divides, ← rounded]
  generalize (2 * cents + row.installmentMonths) / (2 * row.installmentMonths) = month
  -- Both amounts are positive if their cents are.
  refine and_congr ?_ ?_
  · rw [div_pos_iff_of_pos_right (by norm_num)]
    exact Int.cast_pos
  · rw [show (cents : ℚ) / 100 - month / 100 * (row.installmentMonths - 1) =
      ((cents - (row.installmentMonths - 1) * month : ℤ) : ℚ) / 100 by push_cast; ring]
    rw [div_pos_iff_of_pos_right (by norm_num), Int.cast_pos]
    omega

/-- Whether what is owed divides into terms that all come to something. -/
def Repays (principal rate : Decimal) (months : Int) : Prop :=
  ∃ cents : Int, owed principal rate months = (cents : ℚ) / 100 ∧ Divides cents months

/-- No wallet is both a credit wallet and an asset. -/
theorem WalletType.not_isAsset {type : WalletType} (credit : type.isCredit) : ¬type.isAsset := by
  cases type <;> simp_all [WalletType.isCredit, WalletType.isAsset]

/--
After an accepted credit purchase both amounts of its plan are positive exactly when what is owed
divides into its terms; and payments of as many terms, from a wallet that holds what is owed, are all
accepted and settle the instalment exactly when there also is a due date for each term.
-/
theorem createTransaction_paid_off_iff {zone : Zone} {s : Store} (reached : Reachable zone s) {now : Instant}
    {input : CreateTransactionInput} {bought : Transaction}
    (accepted : reported (serve zone s { now, request := .createTransaction input }).1 = some bought)
    (credit : bought.isInstallment) :
    let purchased := (serve zone s { now, request := .createTransaction input }).2
    ∃ principal rate months wallet date due plan row,
      Financed zone now input wallet principal rate months date due ∧
      s.wallets.find? bought.walletId = some wallet ∧
      computeInstallmentPlan { principal, interestRatePctPerMonth := rate, months } = .ok plan ∧
      bought.installmentId = some row.id ∧ purchased.installments.find? row.id = some row ∧
      (0 < plan.monthlyAmount ∧ 0 < plan.finalMonthlyAmount ↔ Repays principal rate months) ∧
      ∀ (source : Wallet) (payments : List (Instant × Option String)),
        purchased.ownWallet source.id input.userId = some source → source.type.isAsset →
        plan.grandTotal ≤ source.balance → (payments.length : Int) = months →
        (∀ sent ∈ payments, ∃ date, businessDate sent.2 zone sent.1 = .ok date) →
        let calls := payments.map (termPayment input.userId row.id source.id)
        ((0 < plan.monthlyAmount ∧ 0 < plan.finalMonthlyAmount) ∧ acceptsAll zone purchased calls ∧
            ((serveAll zone purchased calls).installments.find? row.id).map Installment.status =
              some .settled ↔
          Repays principal rate months ∧ Renews zone due (months - 1).toNat) := by
  intro purchased
  have later : Reachable zone purchased := reached.step _
  -- The purchase wrote the plan of what it was sent.
  have ran : ∃ answer, (createTransaction zone now input).run s = (.ok answer, purchased) ∧
      answer.transaction = bought := by
    rcases reported_eq_some.mp accepted with ⟨response, served, posted⟩
    have run := served
    rw [serve, handle, run_bind] at run
    cases done : (createTransaction zone now input).run s with
    | mk answer s' =>
      rw [done] at run
      cases answer with
      | error failure => cases run
      | ok answer =>
        obtain rfl : Response.transaction answer = response := by injection run
        have same : purchased = s' := by
          show ((handle zone _).run s).2 = s'
          rw [handle, run_bind, done]
          rfl
        exact ⟨answer, by rw [same], by injection posted⟩
  rcases ran with ⟨answer, ran, rfl⟩
  -- Its row and its plan are those of the inputs.
  rcases createTransaction_financed ran credit with
    ⟨principal, rate, months, mode, plan, wallet, date, due, financed, _, held, onCredit, planned, written⟩
  rcases writeCredit_ok written with
    ⟨row, posted, installments, rows, backing, _, shape, _, _, backed, _, answered, after⟩
  rcases computeInstallmentPlan_owed planned with ⟨total, share, final⟩
  -- The plan is stored under the identifier that the row names.
  have stored : purchased.installments.find? row.id = some row := by
    rw [after]
    exact Table.find?_inserted backed
  have follows := later.planned.1 _ (Table.mem_of_find? stored)
  -- It has the total, the monthly amount and the term that were computed.
  have grand : row.grandTotal = plan.grandTotal := by rw [backing]; rfl
  have monthly : row.monthlyAmount = plan.monthlyAmount := by rw [backing]; rfl
  have term : row.installmentMonths = months := by rw [backing]; rfl
  have rest : plan.finalMonthlyAmount = row.grandTotal - row.monthlyAmount * (row.installmentMonths - 1) := by
    rw [final, ← grand, ← monthly, ← term]
    exact computeFinalMonthlyAmount_eq follows.total follows.monthly follows.bounded
  -- Both amounts are positive if the total can be divided among the terms.
  have positive : (0 < plan.monthlyAmount ∧ 0 < plan.finalMonthlyAmount) ↔ Repays principal rate months := by
    rcases follows.total with ⟨cents, whole⟩
    have shared : row.monthlyAmount = toMoney (row.grandTotal.div row.installmentMonths) := by
      rw [monthly, grand, term, share]
    have divides := terms_positive_iff follows shared whole
    rw [rest, ← monthly, divides, term, Repays, ← total, ← grand, whole]
    constructor
    · exact fun divided => ⟨cents, rfl, divided⟩
    · intro divided
      rcases divided with ⟨other, same, divided⟩
      have whole' : (cents : ℚ) = other := by linarith
      obtain rfl : cents = other := by exact_mod_cast whole'
      exact divided
  -- The wallet that was charged is the one of the row.
  have linked : s.wallets.find? answer.transaction.walletId = some wallet := by
    rw [answered, shape]
    exact (Store.ownWallet_eq_some.mp held).1
  have named : answer.transaction.installmentId = some row.id := by
    rw [answered, shape, backing]
    rfl
  refine ⟨principal, rate, months, wallet, date, due, plan, row, financed, linked, planned, named, stored,
    positive, ?_⟩
  intro source payments own asset funded count dated calls
  rw [← positive]
  refine and_congr_right ?_
  intro terms
  -- The wallet that pays is an asset, so it is not the one that was charged.
  have apart : row.walletId ≠ source.id := by
    intro same
    have charged : row.walletId = wallet.id := by rw [backing]; rfl
    have found := (Store.ownWallet_eq_some.mp own).1
    rw [after, ← same, charged] at found
    simp only [Store.credit, Table.find?_mapRows, (Store.ownWallet_eq_some.mp held).1, Option.map_some,
      Option.some.injEq] at found
    rw [← found] at asset
    exact WalletType.not_isAsset onCredit asset
  have user : row.userId = input.userId := by rw [backing]; rfl
  have dueOn : row.nextDueDate = due := by rw [backing]; rfl
  have unpaid : row.paidTerms = 0 := by rw [backing]; rfl
  -- A plan that has just been bought is due in full.
  have started := follows.started
  have paying : PayingOff zone row source purchased :=
    { reached := later
      found := stored
      active := by rw [backing]; rfl
      unpaid := by omega
      share := monthly ▸ terms.1
      rest := rest ▸ terms.2
      held := user ▸ own
      asset
      apart
      funded := by
        rw [unpaid, grand, Int.cast_zero, zero_mul, sub_zero]
        exact funded }
  -- A plan has at least one term, so there is a first payment.
  cases payments with
  | nil =>
    simp only [List.length_nil] at count
    omega
  | cons sent payments =>
    have left : (payments.length : Int) + 1 = row.installmentMonths - row.paidTerms := by
      simp only [List.length_cons] at count
      push_cast at count
      omega
    -- The run of the payments decides about the due dates.
    rcases paying.run left dated with ⟨all, settles⟩
    rw [user, dueOn] at all
    rw [user] at settles
    have months_ : (months - 1).toNat = payments.length := by omega
    rw [months_]
    constructor
    · exact fun both => all.mp both.1
    · intro renews
      have accepted := all.mpr renews
      exact ⟨accepted, settles accepted⟩

/-- The purchase of 300 over three months divides into its terms, and three payments settle it. -/
theorem createTransaction_paid_off_iff_three :
    let s := serveAll defaultTimezone.zone .empty (onboarding 1 1000 5000)
    let purchased := (serve defaultTimezone.zone s purchase).2
    let calls := [(1, none), (2, none), (3, none)].map (termPayment 1 14 12)
    Repays 300 0 3 ∧ acceptsAll defaultTimezone.zone purchased calls ∧
      ((serveAll defaultTimezone.zone purchased calls).installments.find? 14).map Installment.status =
        some .settled := by
  intro s purchased calls
  have reached : Reachable defaultTimezone.zone s := ⟨_, rfl⟩
  have reply : (reported (serve defaultTimezone.zone s purchase).1).any (fun row =>
      row.isInstallment ∧ row.installmentId = some 14) := by
    decide +kernel
  rcases (Option.any_eq_true _ _).mp reply with ⟨bought, accepted, facts⟩
  rcases of_decide_eq_true facts with ⟨credit, instalment⟩
  have bank : (purchased.ownWallet 12 1).any (fun wallet => wallet.type.isAsset ∧ 300 ≤ wallet.balance) := by
    decide +kernel
  rcases (Option.any_eq_true _ _).mp bank with ⟨source, own, holds⟩
  rcases of_decide_eq_true holds with ⟨asset, funded⟩
  -- The wallet and the plan have the identifiers that the run has given them.
  have on12 : source.id = 12 := Table.key_of_find? (Store.ownWallet_eq_some.mp own).1
  rcases createTransaction_paid_off_iff reached accepted credit with
    ⟨principal, rate, months, wallet, date, due, plan, row, financed, _, planned, named, _, _, pays⟩
  have on14 : row.id = 14 := Option.some.inj (named.symm.trans instalment)
  -- The inputs are read off the purchase.
  have amount : TransactionService.positiveAmount (some (.exact 300)) = some (.finite principal) :=
    financed.amount
  have charged : Numeric.finite 0 = .finite rate := financed.rate
  have term : some (3 : Int) = some months := financed.months
  obtain rfl : 300 = principal := by
    rw [show positiveAmount (some (.exact 300)) = some (.finite 300) by decide +kernel] at amount
    injection amount with amount
    injection amount
  obtain rfl : 0 = rate := by injection charged
  obtain rfl : 3 = months := by injection term
  -- The plan of three equal terms is evaluated.
  have evaluated : (computeInstallmentPlan
      { principal := 300, interestRatePctPerMonth := 0, months := 3 }).toOption.all (fun plan =>
        0 < plan.monthlyAmount ∧ 0 < plan.finalMonthlyAmount ∧ plan.grandTotal ≤ 300) := by
    decide +kernel
  rw [planned] at evaluated
  rcases of_decide_eq_true evaluated with ⟨monthly, final, total⟩
  -- And so is the run of its payments.
  have ends : acceptsAll defaultTimezone.zone purchased calls ∧
      ((serveAll defaultTimezone.zone purchased calls).installments.find? 14).map Installment.status =
        some .settled := by
    decide +kernel
  have paid := pays source [(1, none), (2, none), (3, none)] (on12 ▸ own) asset (total.trans funded) rfl
    (by simp [businessDate, parseBusinessDate, Except.mapError])
  rw [on12, on14] at paid
  exact ⟨(paid.mp ⟨⟨monthly, final⟩, ends⟩).1, ends⟩

/-- A purchase on the card over 120 months without interest. -/
def smallPurchase (amount : Decimal) : Call :=
  { now := 0, request := .createTransaction
      { userId := 1, type := some .expense, amount := some (.exact amount), walletId := .given 13,
        categoryId := .given 0, isInstallment := true, installmentMonths := some (.finite 120),
        firstDueDate := some "1970-02-01" } }

/-- A cent has no positive share, and of sixty cents a cent a month leaves the last term less than nothing. -/
theorem createTransaction_unpayable :
    let s := serveAll defaultTimezone.zone .empty (onboarding 1 1000 5000)
    (accepts defaultTimezone.zone s (smallPurchase (1 / 100)) ∧
      (computeInstallmentPlan
        { principal := 1 / 100, interestRatePctPerMonth := 0, months := 120 }).toOption.map
          (fun plan => (plan.monthlyAmount, plan.finalMonthlyAmount)) = some (0, 1 / 100) ∧
      ¬accepts defaultTimezone.zone (serve defaultTimezone.zone s (smallPurchase (1 / 100))).2 payment) ∧
    accepts defaultTimezone.zone s (smallPurchase (60 / 100)) ∧
      (computeInstallmentPlan
        { principal := 60 / 100, interestRatePctPerMonth := 0, months := 120 }).toOption.map
          (fun plan => (plan.monthlyAmount, plan.finalMonthlyAmount)) = some (1 / 100, -59 / 100) := by
  decide +kernel

end PocketMint
