import PocketMint.Domain.Reconciliation

/-! Proposals to repair the balances that an audit found to drift. -/

namespace PocketMint

structure RepairProposal where
  walletId : Id
  name : Option String
  classification : DriftClassification
  currentBalance : Decimal
  expectedBalance : Decimal
  /-- The signed change that the repair would make to the stored balance. -/
  difference : Decimal
  confidence : Confidence
  reason : String
  requiresManualInvestigation : Bool
  autoApplyEligible : Bool
  deriving DecidableEq

structure RepairPlanOptions where
  /-- The wallets whose initial balance an operator has verified. -/
  verifiedInitialBalanceWalletIds : Option (List Id) := none

/-- The proposal for one wallet that drifts. -/
def repairProposal (options : RepairPlanOptions) (a : WalletAudit) : RepairProposal :=
  let verified := (options.verifiedInitialBalanceWalletIds.getD []).contains a.walletId
  let authoritative := a.legacyTransferCount = 0 ∧ verified
  let confidence := if authoritative then .high else a.confidence
  let reason :=
    if authoritative then
      "No unresolved transfers and the initial balance is independently verified, so the " ++
        "ledger-derived expected balance is authoritative."
    else a.reason
  { walletId := a.walletId
    name := a.name
    classification := a.classification
    currentBalance := a.stored
    expectedBalance := a.expected
    difference := a.expected - a.stored
    confidence
    reason
    requiresManualInvestigation := confidence = .low
    autoApplyEligible := confidence = .high }

/-- The proposals for the wallets that are not clean. -/
def buildRepairPlan (audits : List WalletAudit) (options : RepairPlanOptions) :
    List RepairProposal :=
  (audits.filter fun a => a.classification ≠ .clean).map (repairProposal options)

end PocketMint
