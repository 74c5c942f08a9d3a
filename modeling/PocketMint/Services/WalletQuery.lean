import Mathlib.Data.List.Sort
import PocketMint.Domain.ReportingEffect
import PocketMint.Domain.ReportingTime
import PocketMint.Store.Client

/-! The wallet query service: net worth, and the seven-day sparkline of closing balances. -/

namespace PocketMint

open Prog (query throwIf orThrow ofExcept)

/-- The days of a sparkline. -/
def sparklineDays : Nat := 7

/-- The wallets of a user, oldest first. -/
def listWallets (userId : Id) : Service (List Wallet) :=
  query fun s => (s.wallets.rows.filter fun row => row.userId = userId).insertionSort fun row other =>
    row.createdAt ≤ other.createdAt

def getNetWorth (userId : Id) : Service WalletTotals :=
  query fun s => calculateNetWorth <|
    (s.wallets.rows.filter fun row => row.userId = userId).map fun row =>
      { type := row.type, balance := row.balance }

/-- A day's closing balance, absent before the wallet existed. -/
structure WalletSparklinePoint where
  date : String
  balance : Option Decimal
  deriving DecidableEq

/-- A transaction joined with its instalment, as the sparkline reads it. -/
structure SparklineTransaction extends ReportingTransaction where
  id : Id
  date : Instant
  createdAt : Instant

/-- Join a transaction with its instalment. -/
def Store.sparklineTransaction (s : Store) (row : Transaction) : SparklineTransaction :=
  { row with installment := row.installmentId.bind s.grandTotal }

/-- Newest first: by date, then by creation, then by identifier. -/
def newestFirst (date createdAt : Instant) (id : Id) (date' createdAt' : Instant) (id' : Id) : Prop :=
  date' < date ∨ (date' = date ∧ (createdAt' < createdAt ∨ (createdAt' = createdAt ∧ id' ≤ id)))

instance (date createdAt : Instant) (id : Id) (date' createdAt' : Instant) (id' : Id) :
    Decidable (newestFirst date createdAt id date' createdAt' id') := by
  unfold newestFirst; infer_instance

/-- The transactions a sparkline fetches: those on either side of the wallet, within the window. -/
def Store.recentTransactions (s : Store) (userId walletId : Id) (start finish : Instant) :
    List SparklineTransaction :=
  ((s.transactions.rows.filter fun row =>
      row.userId = userId && (row.walletId = walletId || row.toWalletId = some walletId) &&
        start ≤ row.date && row.date < finish).map s.sparklineTransaction).insertionSort
    fun row other => newestFirst row.date row.createdAt row.id other.date other.createdAt other.id

namespace Sparkline

/-- The `while` loop: undo the effects at the front that come after a boundary. -/
def rewind (walletId : Id) (after : Instant → Bool) (balance : Decimal) :
    List SparklineTransaction → Decimal × List SparklineTransaction
  | [] => (balance, [])
  | tx :: rest =>
    if after tx.date then
      rewind walletId after (balance - getWalletReportingEffect tx.toReportingTransaction walletId) rest
    else (balance, tx :: rest)

/-- The point of a bucket, from the balance at its close. -/
def point (createdAt : Instant) (bucket : ReportingDayRange) (balance : Decimal) :
    WalletSparklinePoint :=
  { date := bucket.label
    balance := if bucket.endExclusive ≤ createdAt then none else some balance }

/-- The `for` loop over the buckets, newest first; only the newest closes at the clock. -/
def walk (walletId : Id) (createdAt now : Instant) :
    (isLast : Bool) → List ReportingDayRange → Decimal → List SparklineTransaction →
      List WalletSparklinePoint
  | _, [], _, _ => []
  | isLast, bucket :: earlier, balance, recentTx =>
    let after : Instant → Bool :=
      if isLast then fun date => now < date else fun date => bucket.endExclusive ≤ date
    let (running, remaining) := rewind walletId after balance recentTx
    point createdAt bucket running :: walk walletId createdAt now false earlier running remaining

end Sparkline

/-- What the sparkline of a wallet is asked for with. -/
structure GetWalletSparklineInput where
  userId : Id
  walletId : Id

def getWalletSparkline (zone : Zone) (now : Instant) (input : GetWalletSparklineInput) :
    Service (List WalletSparklinePoint) := do
  let found ← query fun s => s.ownWallet input.walletId input.userId
  let wallet ← orThrow found (.service "Wallet not found" 404 "NOT_FOUND")
  let buckets ← ofExcept ((getRollingDayRanges now sparklineDays zone).mapError Failure.thrown)
  let start := (buckets.head?.map fun bucket => bucket.startInclusive).getD 0
  let finish := (buckets.getLast?.map fun bucket => bucket.endExclusive).getD 0
  let recentTx ← query fun s => s.recentTransactions input.userId input.walletId start finish
  return (Sparkline.walk input.walletId wallet.createdAt now true buckets.reverse wallet.balance
    recentTx).reverse

end PocketMint
