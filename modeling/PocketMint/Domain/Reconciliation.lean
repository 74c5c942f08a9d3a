import PocketMint.Domain.TransactionBalance
import PocketMint.Js.Date

/-! Why a wallet's stored balance drifts from its ledger, and how far to trust the ledger. -/

namespace PocketMint

inductive DriftClassification where
  | clean
  | likelyInitialBalanceMissing
  | legacyTransferUnresolved
  | manualBalanceOverrideSuspected
  | unclassifiedDrift
  deriving DecidableEq

inductive Confidence where
  | high
  | medium
  | low
  deriving DecidableEq

/-- A ledger row with the fields that the list of legacy transfers shows. -/
structure AuditTransaction extends LedgerTransaction where
  id : Option Id := none
  date : Option Instant := none
  createdAt : Option Instant := none
  deriving DecidableEq

/-- A transfer whose destination was never recorded. -/
def AuditTransaction.isLegacy (tx : AuditTransaction) : Bool :=
  tx.type = .transfer && tx.toWalletId.isNone

structure AuditWalletSnapshot extends WalletSnapshot where
  name : Option String := none
  createdAt : Option Instant := none

structure AuditOptions where
  fixDeployedAt : Option Instant := none
  manualOverrideWalletIds : Option (List Id) := none

/-- A destination-less transfer, surfaced for manual investigation. -/
structure LegacyTransfer where
  id : Option Id
  walletId : Id
  amount : Decimal
  date : Option Instant
  createdAt : Option Instant
  deriving DecidableEq

structure WalletAudit where
  walletId : Id
  name : Option String
  stored : Decimal
  initialBalance : Decimal
  ledgerEffect : Decimal
  expected : Decimal
  drift : Decimal
  /-- Destination-less transfers whose source is this wallet. -/
  legacyTransferCount : Nat
  predatesFix : Option Bool
  classification : DriftClassification
  confidence : Confidence
  reason : String
  deriving DecidableEq

structure AuditReport where
  wallets : List WalletAudit
  legacyTransfers : List LegacyTransfer
  hasDrift : Bool

/-- What `classify` concludes from a drift. -/
structure Verdict where
  classification : DriftClassification
  confidence : Confidence
  reason : String

/-- What is known of a wallet besides its drift. -/
structure DriftEvidence where
  hasLegacyTransfer : Bool
  initialBalanceZero : Bool
  suspectedManualOverride : Bool

def classify (drift : Decimal) (evidence : DriftEvidence) : Verdict :=
  if drift = 0 then
    { classification := .clean
      confidence := .high
      reason := "Stored balance matches the ledger." }
  -- A transfer without a destination dominates every other explanation.
  else if evidence.hasLegacyTransfer then
    { classification := .legacyTransferUnresolved
      confidence := .low
      reason := "A transfer with no recorded destination touches this wallet; " ++
        "the expected balance cannot be computed reliably." }
  else if evidence.suspectedManualOverride then
    { classification := .manualBalanceOverrideSuspected
      confidence := .low
      reason := "External records flag this wallet as manually overridden; " ++
        "the stored balance may bypass the ledger." }
  else if evidence.initialBalanceZero then
    { classification := .likelyInitialBalanceMissing
      confidence := .medium
      reason := "Initial balance is zero; the opening balance was likely folded into the stored " ++
        "balance and never captured." }
  else
    { classification := .unclassifiedDrift
      confidence := .low
      reason := "Stored balance disagrees with the ledger and no single cause could be determined." }

/-- The audit of one wallet from its reconciliation and its count of legacy transfers. -/
def auditWallet (w : AuditWalletSnapshot) (rec_ : WalletReconciliation) (legacyTransferCount : Nat)
    (options : AuditOptions) : WalletAudit :=
  -- The evidence is what else the audit knows of the wallet.
  let verdict := classify rec_.drift
    { hasLegacyTransfer := 0 < legacyTransferCount
      initialBalanceZero := w.initialBalance = 0
      suspectedManualOverride := (options.manualOverrideWalletIds.getD []).contains w.id }
  { walletId := w.id
    name := w.name
    stored := rec_.stored
    initialBalance := w.initialBalance
    ledgerEffect := rec_.expected - w.initialBalance
    expected := rec_.expected
    drift := rec_.drift
    legacyTransferCount
    predatesFix := match options.fixDeployedAt, w.createdAt with
      | some fixDeployedAt, some createdAt => some (createdAt < fixDeployedAt)
      | _, _ => none
    classification := verdict.classification
    confidence := verdict.confidence
    reason := verdict.reason }

/-- An audit of every wallet, and the transfers without a destination. -/
def auditWalletBalances (wallets : List AuditWalletSnapshot) (transactions : List AuditTransaction)
    (grandTotalByInstallment : Id → Option Decimal) (options : AuditOptions) : AuditReport :=
  let reconciliations := reconcileWalletBalances
    (wallets.map AuditWalletSnapshot.toWalletSnapshot)
    (transactions.map AuditTransaction.toLedgerTransaction) grandTotalByInstallment
  -- The map of reconciliations keeps the last entry of a wallet, and has one for each of them.
  let byWallet := fun walletId => reconciliations.reverse.find? fun rec_ => rec_.walletId = walletId
  -- A transfer counts for the wallet it left, as where it went is not known.
  let legacyCount := fun walletId =>
    transactions.countP fun tx => tx.isLegacy && tx.walletId = walletId
  let audited := wallets.filterMap fun w =>
    (byWallet w.id).map fun rec_ => auditWallet w rec_ (legacyCount w.id) options
  { wallets := audited
    legacyTransfers := (transactions.filter AuditTransaction.isLegacy).map fun tx => { tx with }
    hasDrift := audited.any fun audit => audit.classification ≠ .clean }

end PocketMint
