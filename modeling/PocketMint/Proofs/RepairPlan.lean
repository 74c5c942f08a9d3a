import PocketMint.Domain.BalanceLaws
import PocketMint.Domain.RepairPlan
import Mathlib.Algebra.BigOperators.Group.List.Lemmas

/-! Repairs that apply by themselves are sound exactly when no transfer has lost its destination. -/

namespace PocketMint

/-- A recorded row with the wallet that its money went to, should it be a legacy transfer. -/
structure CompletedTransaction where
  recorded : AuditTransaction
  destination : Id
  apart : recorded.isLegacy → destination ≠ recorded.walletId

namespace CompletedTransaction

/-- The ledger row with the destination filled in. -/
def completed (tx : CompletedTransaction) : LedgerTransaction :=
  if tx.recorded.isLegacy then
    { tx.recorded.toLedgerTransaction with toWalletId := some tx.destination }
  else tx.recorded.toLedgerTransaction

/-- What the wallet received that the recorded row does not tell. -/
def hiddenCredit (walletId : Id) (tx : CompletedTransaction) : Decimal :=
  if tx.recorded.isLegacy ∧ tx.recorded.isInstallment = false ∧ tx.destination = walletId then
    tx.recorded.amount
  else 0

/-- The true effect of a row is its recorded one and what the wallet received besides. -/
theorem on_completed (grandTotals : Id → Option Decimal) (tx : CompletedTransaction)
    (walletId : Id) :
    WalletDelta.on (Reconciliation.rowDeltas grandTotals tx.completed) walletId =
      WalletDelta.on (Reconciliation.rowDeltas grandTotals tx.recorded.toLedgerTransaction) walletId +
        tx.hiddenCredit walletId := by
  unfold completed hiddenCredit
  cases legacy : tx.recorded.isLegacy with
  -- A row that names its destination is complete as it is.
  | false => simp
  | true =>
    obtain ⟨transfer, missing⟩ : tx.recorded.type = .transfer ∧ tx.recorded.toWalletId = none := by
      simpa [AuditTransaction.isLegacy] using legacy
    cases backed : tx.recorded.isInstallment with
    | true =>
      -- An instalment's row has no destination to begin with.
      rw [if_pos rfl, rowDeltas_installment backed, rowDeltas_installment (by exact backed)]
      simp
    | false =>
      -- A transfer without a destination loses the amount and credits nothing, which is what is hidden.
      rw [if_pos rfl, rowDeltas_regular backed, rowDeltas_regular (by exact backed)]
      simp [transfer, missing, plainDeltas]

end CompletedTransaction

/-- The ledger as it was recorded. -/
def recordedHistory (history : List CompletedTransaction) : List AuditTransaction :=
  history.map CompletedTransaction.recorded

/-- What the completed history comes to on a wallet. -/
def trueBalance (grandTotals : Id → Option Decimal) (history : List CompletedTransaction)
    (wallet : AuditWalletSnapshot) : Decimal :=
  wallet.initialBalance + Reconciliation.assigned grandTotals
    (history.map CompletedTransaction.completed) wallet.id

/-- The true effects of a history are the recorded ones and all that the wallet received besides. -/
theorem assigned_completed (grandTotals : Id → Option Decimal) (history : List CompletedTransaction)
    (walletId : Id) :
    Reconciliation.assigned grandTotals (history.map CompletedTransaction.completed) walletId =
      Reconciliation.assigned grandTotals
        ((recordedHistory history).map AuditTransaction.toLedgerTransaction) walletId +
      (history.map (CompletedTransaction.hiddenCredit walletId)).sum := by
  simp only [Reconciliation.assigned, recordedHistory, List.map_map, ← List.sum_map_add]
  exact congrArg List.sum (List.map_congr_left fun tx _ => tx.on_completed grandTotals walletId)

/-- Only a clean wallet is trusted without an operator. -/
theorem classify_high {drift : Decimal} {evidence : DriftEvidence}
    (high : (classify drift evidence).confidence = .high) :
    (classify drift evidence).classification = .clean := by
  unfold classify at high ⊢
  -- Only the first branch is of high confidence.
  split at high
  · simp_all
  · split at high
    · cases high
    · split at high
      · cases high
      · split at high <;> cases high

section Plan

variable {wallets : List AuditWalletSnapshot} {transactions : List AuditTransaction}
  {grandTotals : Id → Option Decimal} {auditOptions : AuditOptions} {options : RepairPlanOptions}

/-- The audit expects of each wallet its initial balance and the recorded effects. -/
theorem auditWalletBalances_wallets (distinct : (wallets.map fun w => w.id).Nodup) {a : WalletAudit}
    (member : a ∈ (auditWalletBalances wallets transactions grandTotals auditOptions).wallets)
    {wallet : AuditWalletSnapshot} (among : wallet ∈ wallets) (same : a.walletId = wallet.id) :
    a.expected = wallet.initialBalance + Reconciliation.assigned grandTotals
        (transactions.map AuditTransaction.toLedgerTransaction) wallet.id ∧
      a.legacyTransferCount =
        transactions.countP fun tx => tx.isLegacy && tx.walletId = wallet.id := by
  have unique : ((wallets.map AuditWalletSnapshot.toWalletSnapshot).map (·.id)).Nodup := by
    rw [List.map_map]
    exact distinct
  simp only [auditWalletBalances, reconcileWalletBalances_eq unique, List.mem_filterMap,
    Option.map_eq_some_iff] at member
  obtain ⟨other, here, rec_, found, rfl⟩ := member
  -- Identifiers are distinct, so the audited wallet and the reconciled one are this wallet.
  have inj := List.inj_on_of_nodup_map distinct
  obtain rfl : other = wallet := inj here among same
  -- What the audit reports of a wallet comes from the reconciliation of that wallet.
  have reported := List.mem_of_find?_eq_some found
  rw [List.mem_reverse, List.map_map] at reported
  obtain ⟨third, present, rfl⟩ := List.mem_map.mp reported
  have named : third.id = other.id := by simpa using List.find?_some found
  obtain rfl := inj present here named
  exact ⟨rfl, rfl⟩

/-- A proposal that applies by itself is for a wallet that no recorded legacy transfer leaves. -/
theorem buildRepairPlan_eligible (distinct : (wallets.map fun w => w.id).Nodup)
    {proposal : RepairProposal}
    (member : proposal ∈ buildRepairPlan
      (auditWalletBalances wallets transactions grandTotals auditOptions).wallets options)
    {wallet : AuditWalletSnapshot} (among : wallet ∈ wallets)
    (same : proposal.walletId = wallet.id) (eligible : proposal.autoApplyEligible) :
    proposal.expectedBalance = wallet.initialBalance + Reconciliation.assigned grandTotals
        (transactions.map AuditTransaction.toLedgerTransaction) wallet.id ∧
      ∀ tx ∈ transactions, tx.isLegacy → tx.walletId ≠ wallet.id := by
  obtain ⟨a, left, rfl⟩ := List.mem_map.mp member
  obtain ⟨audited, drifts⟩ := List.mem_filter.mp left
  obtain ⟨expected, count⟩ := auditWalletBalances_wallets distinct audited among same
  refine ⟨expected, fun tx recorded legacy source => ?_⟩
  -- A wallet that drifts has no high confidence of its own.
  have notHigh : a.confidence ≠ .high := by
    obtain ⟨w, _, found⟩ := List.mem_filterMap.mp audited
    obtain ⟨rec_, _, rfl⟩ := Option.map_eq_some_iff.mp found
    intro high
    have clean := classify_high high
    exact absurd clean (of_decide_eq_true drifts)
  -- The proposal is eligible by the evidence, so that the wallet is no source of an open transfer.
  have none_ : a.legacyTransferCount = 0 := by
    by_contra some_
    simp [repairProposal, some_] at eligible
    exact notHigh eligible
  rw [count, List.countP_eq_zero] at none_
  exact none_ tx recorded (by simp [legacy, source])

/-- A row completed so that its money, if it is a legacy transfer's, misses a wallet. -/
def CompletedTransaction.missing (walletId : Id) (tx : AuditTransaction) : CompletedTransaction :=
  { recorded := tx
    destination := tx.walletId + walletId + 1
    apart := fun _ => (Nat.lt_succ_of_le (Nat.le_add_right _ _)).ne' }

/-- A wallet that every legacy transfer misses receives nothing that was not recorded. -/
theorem CompletedTransaction.sum_missing (walletId : Id) (transactions : List AuditTransaction) :
    ((transactions.map (missing walletId)).map (hiddenCredit walletId)).sum = 0 := by
  refine List.sum_eq_zero fun credit among => ?_
  obtain ⟨_, completes, rfl⟩ := List.mem_map.mp among
  obtain ⟨tx, _, rfl⟩ := List.mem_map.mp completes
  have elsewhere : tx.walletId + walletId + 1 ≠ walletId :=
    (Nat.lt_succ_of_le (Nat.le_add_left _ _)).ne'
  simp [hiddenCredit, missing, elsewhere]

/--
A proposal that applies by itself repairs the balance to what every completion of the ledger comes
to exactly when no recorded legacy transfer has moved any money.
-/
theorem buildRepairPlan_sound_iff (distinct : (wallets.map fun w => w.id).Nodup)
    {proposal : RepairProposal}
    (member : proposal ∈ buildRepairPlan
      (auditWalletBalances wallets transactions grandTotals auditOptions).wallets options)
    {wallet : AuditWalletSnapshot} (among : wallet ∈ wallets)
    (same : proposal.walletId = wallet.id) (eligible : proposal.autoApplyEligible) :
    (∀ history, recordedHistory history = transactions →
      proposal.expectedBalance = trueBalance grandTotals history wallet) ↔
    ∀ tx ∈ transactions, tx.isLegacy → tx.isInstallment = false → tx.amount = 0 := by
  obtain ⟨expected, notSource⟩ := buildRepairPlan_eligible distinct member among same eligible
  -- A completion is met exactly when the wallet received nothing that was not recorded.
  have met : ∀ history, recordedHistory history = transactions →
      (proposal.expectedBalance = trueBalance grandTotals history wallet ↔
        (history.map (CompletedTransaction.hiddenCredit wallet.id)).sum = 0) := by
    rintro history rfl
    rw [expected, trueBalance, assigned_completed, ← add_assoc, left_eq_add]
  constructor
  -- Any such transfer could have gone to the wallet, so that its amount must be nothing.
  · intro sound tx recorded legacy regular
    obtain ⟨before, after, rfl⟩ := List.append_of_mem recorded
    -- This transfer went to the wallet, and every other one somewhere else.
    let history := before.map (CompletedTransaction.missing wallet.id) ++
      { recorded := tx
        destination := wallet.id
        apart := fun _ => (notSource tx recorded legacy).symm } ::
      after.map (CompletedTransaction.missing wallet.id)
    have records : recordedHistory history = before ++ tx :: after := by
      simp [recordedHistory, history, Function.comp_def, CompletedTransaction.missing]
    have received := (met history records).mp (sound history records)
    rw [List.map_append, List.map_cons, List.sum_append, List.sum_cons,
      CompletedTransaction.sum_missing, CompletedTransaction.sum_missing] at received
    simpa [CompletedTransaction.hiddenCredit, legacy, regular] using received
  -- Conversely, each summand is the amount of an open transfer, or nothing.
  · rintro unmoved history rfl
    refine (met history rfl).mpr (List.sum_eq_zero fun credit among => ?_)
    obtain ⟨tx, recorded, rfl⟩ := List.mem_map.mp among
    unfold CompletedTransaction.hiddenCredit
    split
    · rename_i hidden
      exact unmoved tx.recorded (List.mem_map_of_mem recorded) hidden.1 hidden.2.1
    · rfl

end Plan

/-- A transfer of 40 from wallet 2, with or without its destination. -/
def transferOf40 (toWalletId : Option Id) : AuditTransaction :=
  { type := .transfer
    amount := 40
    walletId := 2
    toWalletId
    isInstallment := false
    installmentId := none }

/-- Two wallets that opened with 100: what the first one has, and what the transfer left the second. -/
def afterTransfer (balance : Decimal) : List AuditWalletSnapshot :=
  [{ id := 1, initialBalance := 100, balance }, { id := 2, initialBalance := 100, balance := 60 }]

/-- The plan for both wallets, of which the first is verified. -/
def planAfterTransfer (toWalletId : Option Id) (balance : Decimal) : List RepairProposal :=
  buildRepairPlan (auditWalletBalances (afterTransfer balance) [transferOf40 toWalletId]
    (fun _ => none) {}).wallets { verifiedInitialBalanceWalletIds := some [1] }

/-- With the destination recorded, the proposal for the first wallet is what every history says. -/
theorem buildRepairPlan_sound_recorded :
    ∃ proposal ∈ planAfterTransfer (some 1) 999, proposal.autoApplyEligible ∧
      proposal.expectedBalance = 140 ∧ ∀ history, recordedHistory history = [transferOf40 (some 1)] →
        proposal.expectedBalance = trueBalance (fun _ => none) history
          { id := 1, initialBalance := 100, balance := 999 } := by
  obtain ⟨proposal, member, same, eligible, expected⟩ :
      ∃ proposal ∈ planAfterTransfer (some 1) 999, proposal.walletId = 1 ∧
        proposal.autoApplyEligible ∧ proposal.expectedBalance = 140 := by
    decide +kernel
  have distinct : ((afterTransfer 999).map fun w => w.id).Nodup := by decide
  refine ⟨proposal, member, eligible, expected, ?_⟩
  exact (buildRepairPlan_sound_iff distinct member List.mem_cons_self same eligible).mpr (by decide)

/-- The transfer went to the first wallet, and the repair that applies by itself takes it back. -/
theorem buildRepairPlan_removes_transfer :
    ∃ proposal ∈ planAfterTransfer none 140, proposal.walletId = 1 ∧ proposal.autoApplyEligible ∧
      proposal.expectedBalance = 100 ∧ trueBalance (fun _ => none)
        [{ recorded := transferOf40 none, destination := 1, apart := by decide }]
        { id := 1, initialBalance := 100, balance := 140 } = 140 := by
  decide +kernel

end PocketMint
