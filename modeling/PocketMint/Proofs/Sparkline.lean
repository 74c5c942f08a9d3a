import PocketMint.Domain.ReportingDays
import PocketMint.Proofs.Ledger
import PocketMint.Proofs.ReportingEffects

/-! The sparkline's balances are those of the past, unless money is dated after today. -/

namespace PocketMint

open Prog Calendar

theorem newestFirst_total (date createdAt : Int) (id : Nat) (date' createdAt' : Int) (id' : Nat) :
    newestFirst date createdAt id date' createdAt' id' ∨
      newestFirst date' createdAt' id' date createdAt id := by
  -- The order compares dates, then times of creation, then identifiers.
  rcases lt_trichotomy date date' with before | rfl | after
  · exact .inr (.inl before)
  · rcases lt_trichotomy createdAt createdAt' with before | rfl | after
    · exact .inr (.inr ⟨rfl, .inl before⟩)
    · rcases le_total id id' with less | more
      · exact .inr (.inr ⟨rfl, .inr ⟨rfl, less⟩⟩)
      · exact .inl (.inr ⟨rfl, .inr ⟨rfl, more⟩⟩)
    · exact .inl (.inr ⟨rfl, .inl after⟩)
  · exact .inl (.inl after)

theorem newestFirst_trans {date createdAt date' createdAt' date'' createdAt'' : Int}
    {id id' id'' : Nat} (first : newestFirst date createdAt id date' createdAt' id')
    (second : newestFirst date' createdAt' id' date'' createdAt'' id'') :
    newestFirst date createdAt id date'' createdAt'' id'' := by
  -- The cases say at which of the three keys each pair differs.
  -- The first pair differs in its date, in its creation, or in its identifier alone.
  rcases first with less | ⟨rfl, less | ⟨rfl, less⟩⟩
  · rcases second with less' | ⟨rfl, -⟩
    · exact .inl (less'.trans less)
    · exact .inl less
  · rcases second with less' | ⟨rfl, less' | ⟨rfl, -⟩⟩
    · exact .inl less'
    · exact .inr ⟨rfl, .inl (less'.trans less)⟩
    · exact .inr ⟨rfl, .inl less⟩
  · rcases second with less' | ⟨rfl, less' | ⟨rfl, less'⟩⟩
    · exact .inl less'
    · exact .inr ⟨rfl, .inl less'⟩
    · exact .inr ⟨rfl, .inr ⟨rfl, less'.trans less⟩⟩

namespace Sparkline

/-- The sum of the effects on a wallet of the transactions whose dates pass a test. -/
def undone (walletId : Id) (txs : List SparklineTransaction) (test : Instant → Prop)
    [DecidablePred test] : Decimal :=
  ((txs.filter fun tx => test tx.date).map fun tx =>
    getWalletReportingEffect tx.toReportingTransaction walletId).sum

/-- Newest first, the loop undoes exactly the transactions that come after a boundary. -/
theorem rewind_eq {walletId : Id} {after : Instant → Prop} [DecidablePred after] {balance : Decimal}
    {txs : List SparklineTransaction}
    (sorted : txs.Pairwise fun tx later => after later.date → after tx.date) :
    rewind walletId (fun date => after date) balance txs =
      (balance - undone walletId txs after, txs.filter fun tx => ¬after tx.date) := by
  -- The list is walked from its newest row, so the induction is over what is left of it.
  induction txs generalizing balance with
  | nil => simp [rewind, undone]
  | cons tx rest ih =>
    obtain ⟨first, sorted⟩ := List.pairwise_cons.mp sorted
    by_cases here : after tx.date
    · simp [rewind, undone, here, ih sorted, sub_sub]
    · -- Nothing older comes after the boundary either.
      have none : rest.filter (fun tx => after tx.date) = [] :=
        List.filter_eq_nil_iff.mpr fun later member past =>
          here (first later member (by simpa using past))
      have all : rest.filter (fun tx => !decide (after tx.date)) = rest :=
        List.filter_eq_self.mpr fun later member => by
          simpa using fun past => here (first later member past)
      simp only [rewind, here, undone, List.filter_cons]
      simp [none, all]

/-- What was undone for a boundary and then for an earlier one was undone for the earlier one. -/
theorem undone_add {walletId : Id} {prior after : Instant → Prop} [DecidablePred prior]
    [DecidablePred after] {txs : List SparklineTransaction}
    (more : ∀ tx ∈ txs, prior tx.date → after tx.date) :
    undone walletId txs prior +
        undone walletId (txs.filter fun tx => ¬prior tx.date) after = undone walletId txs after := by
  -- Every row is counted on one side or the other, by whether it was undone before.
  induction txs with
  | nil => simp [undone]
  | cons tx rest ih =>
    -- The rest of the list is split in the same way.
    have tail := ih fun other member => more other (List.mem_cons_of_mem _ member)
    have here := more tx List.mem_cons_self
    simp only [undone] at tail ⊢
    by_cases past : prior tx.date
    · simp [past, here past, ← tail, add_assoc]
    · by_cases later : after tx.date
      · simp [past, later, ← tail]
        ring
      · simp [past, later, ← tail]

/-- Going back over buckets, each closes with what comes after its end undone. -/
theorem walk_earlier {walletId : Id} {createdAt now : Instant} {balance : Decimal}
    {txs : List SparklineTransaction} (sorted : txs.Pairwise fun tx later => later.date ≤ tx.date)
    {prior : Instant → Prop} [DecidablePred prior] {buckets : List ReportingDayRange}
    (backwards : buckets.Pairwise fun bucket earlier => earlier.endExclusive ≤ bucket.endExclusive)
    (begun : ∀ bucket ∈ buckets, ∀ tx ∈ txs, prior tx.date → bucket.endExclusive ≤ tx.date) :
    walk walletId createdAt now false buckets (balance - undone walletId txs prior)
        (txs.filter fun tx => ¬prior tx.date) =
      buckets.map fun bucket => point createdAt bucket
        (balance - undone walletId txs fun date => bucket.endExclusive ≤ date) := by
  -- Each bucket starts from what the newer ones have undone, which `prior` says.
  induction buckets generalizing prior with
  | nil => rfl
  -- A bucket is closed before the older ones are.
  | cons bucket earlier ih =>
    obtain ⟨first, backwards⟩ := List.pairwise_cons.mp backwards
    have remaining : (txs.filter fun tx => ¬prior tx.date).Pairwise fun tx later =>
        bucket.endExclusive ≤ later.date → bucket.endExclusive ≤ tx.date :=
      (sorted.filter _).imp fun older past => le_trans past older
    -- What this bucket undoes is added to what was undone before it.
    have closed : undone walletId txs prior + undone walletId (txs.filter fun tx => ¬prior tx.date)
        (fun date => bucket.endExclusive ≤ date) =
          undone walletId txs fun date => bucket.endExclusive ≤ date :=
      undone_add (begun bucket List.mem_cons_self)
    have balanced : balance - undone walletId txs prior -
        undone walletId (txs.filter fun tx => ¬prior tx.date) (fun date => bucket.endExclusive ≤ date) =
          balance - undone walletId txs fun date => bucket.endExclusive ≤ date := by
      rw [← closed, sub_sub]
    -- What is left after it are the rows before its end.
    have rest : (txs.filter fun tx => ¬prior tx.date).filter
        (fun tx => ¬bucket.endExclusive ≤ tx.date) =
          txs.filter fun tx => ¬bucket.endExclusive ≤ tx.date := by
      rw [List.filter_filter]
      refine List.filter_congr fun tx member => ?_
      have := begun bucket List.mem_cons_self tx member
      by_cases past : prior tx.date <;> simp_all
    simp only [walk, Bool.false_eq_true, if_false, List.map_cons]
    rw [rewind_eq remaining, balanced, rest]
    refine congrArg _ (ih backwards fun older member tx among past => ?_)
    exact (first older member).trans past

/-- Oldest first, every bucket closes at its end, and today's at the clock. -/
theorem walk_eq {walletId : Id} {createdAt now : Int} {balance : Decimal}
    {txs : List SparklineTransaction} (sorted : txs.Pairwise fun tx later => later.date ≤ tx.date)
    {buckets : List ReportingDayRange} {today : ReportingDayRange}
    (forwards : buckets.Pairwise fun bucket later => bucket.endExclusive ≤ later.endExclusive)
    (past : ∀ bucket ∈ buckets, bucket.endExclusive ≤ now) :
    (walk walletId createdAt now true (buckets ++ [today]).reverse balance txs).reverse =
      (buckets.map fun bucket => point createdAt bucket
        (balance - undone walletId txs fun date => bucket.endExclusive ≤ date)) ++
      [point createdAt today (balance - undone walletId txs fun date => now < date)] := by
  -- The bucket of today is closed by the instant itself, and the others by their ends.
  -- A row after this instant comes before the older ones in the list.
  have newest : txs.Pairwise fun tx later => now < later.date → now < tx.date :=
    sorted.imp fun older future => lt_of_lt_of_le future older
  rw [List.reverse_append, List.reverse_singleton, List.singleton_append, walk, if_pos rfl]
  simp only
  rw [rewind_eq newest]
  simp only
  -- The older buckets start from what today has undone.
  rw [walk_earlier sorted (List.pairwise_reverse.mpr forwards), List.map_reverse]
  · simp
  · intro bucket member tx _ future
    exact (past bucket (List.mem_reverse.mp member)).trans (le_of_lt future)

/-- Whatever the balances, the points carry the labels of the buckets. -/
theorem walk_dates {walletId : Id} {createdAt now : Instant} {isLast : Bool} {balance : Decimal}
    {txs : List SparklineTransaction} {buckets : List ReportingDayRange} :
    (walk walletId createdAt now isLast buckets balance txs).map WalletSparklinePoint.date =
      buckets.map ReportingDayRange.label := by
  induction buckets generalizing isLast balance txs with
  | nil => rfl
  | cons bucket earlier ih => exact congrArg (bucket.label :: ·) ih

theorem undone_perm {walletId : Id} {txs others : List SparklineTransaction} (same : txs.Perm others)
    {test : Instant → Prop} [DecidablePred test] :
    undone walletId txs test = undone walletId others test :=
  ((same.filter _).map _).sum_eq

end Sparkline

namespace Store

/-- The sum of the reported effects on a wallet of a user's transactions whose dates pass a test. -/
def reported (s : Store) (userId walletId : Id) (dated : Instant → Prop) [DecidablePred dated] :
    Decimal :=
  (s.transactions.filter fun row => row.userId = userId ∧ dated row.date).total
    (s.reportedEffect walletId)

variable {s : Store} {userId walletId : Id}

/-- Dates that fall in exactly one of two classes report the sum of both. -/
theorem reported_add {first second both : Instant → Prop} [DecidablePred first]
    [DecidablePred second] [DecidablePred both] (either : ∀ date, both date ↔ first date ∨ second date)
    (apart : ∀ date, first date → ¬second date) :
    s.reported userId walletId first + s.reported userId walletId second =
      s.reported userId walletId both := by
  simp only [reported, Table.total_passing, ← Table.total_add]
  refine Table.total_congr fun row _ => ?_
  have here := either row.date
  have disjoint := apart row.date
  by_cases own : row.userId = userId <;> by_cases one : first row.date <;>
    by_cases two : second row.date <;> simp_all

/-- Undoing what was fetched undoes the effects dated within the window. -/
theorem undone_recentTransactions {start finish : Instant} {after : Instant → Prop}
    [DecidablePred after] :
    Sparkline.undone walletId (s.recentTransactions userId walletId start finish) after =
      s.reported userId walletId fun date => (start ≤ date ∧ date < finish) ∧ after date := by
  rw [recentTransactions, Sparkline.undone_perm (List.perm_insertionSort _ _)]
  -- The rows that were not fetched for being on neither side have no effect.
  let dated : Table Transaction := s.transactions.filter fun row =>
    row.userId = userId ∧ (start ≤ row.date ∧ row.date < finish) ∧ after row.date
  have sides : (dated.filter fun row => row.walletId = walletId || row.toWalletId = some walletId).total
      (s.reportedEffect walletId) = dated.total (s.reportedEffect walletId) := by
    refine Table.total_filter _ fun row _ neither => ?_
    have off : row.walletId ≠ walletId ∧ row.toWalletId ≠ some walletId := by simpa using neither
    exact reportedEffect_other off.1 off.2
  -- The sum over the fetched rows is the sum over all rows of the user that count.
  rw [reported, ← sides]
  simp only [dated, Sparkline.undone, Table.total, Table.rows_filter, List.filter_filter, List.filter_map,
    List.map_map]
  -- The two filters agree on every row.
  have rows : ∀ row : Transaction, (decide (after (s.sparklineTransaction row).date) &&
      (decide (row.userId = userId) &&
          (decide (row.walletId = walletId) || decide (row.toWalletId = some walletId)) &&
        decide (start ≤ row.date) && decide (row.date < finish))) =
      ((decide (row.walletId = walletId) || decide (row.toWalletId = some walletId)) &&
        decide (row.userId = userId ∧ (start ≤ row.date ∧ row.date < finish) ∧ after row.date)) := by
    intro row
    have same : (s.sparklineTransaction row).date = row.date := rfl
    rw [same, Bool.eq_iff_iff]
    simp only [Bool.and_eq_true, decide_eq_true_eq]
    tauto
  exact congrArg (fun rows => (rows.map (s.reportedEffect walletId)).sum)
    (List.filter_congr fun row _ => rows row)

/-- What is fetched comes newest first. -/
theorem recentTransactions_sorted (s : Store) (userId walletId : Id) (start finish : Instant) :
    (s.recentTransactions userId walletId start finish).Pairwise fun tx later =>
      later.date ≤ tx.date := by
  -- The rows are sorted by all three keys, of which the date is the first.
  let order (row other : SparklineTransaction) : Prop :=
    newestFirst row.date row.createdAt row.id other.date other.createdAt other.id
  have : Std.Total order := ⟨fun row other => newestFirst_total _ _ _ _ _ _⟩
  have : IsTrans SparklineTransaction order := ⟨fun first second third => newestFirst_trans⟩
  -- A newer row has a later date or the same one.
  refine (List.pairwise_insertionSort order _).imp fun newer => ?_
  rcases newer with less | ⟨same, -⟩
  · exact le_of_lt less
  · exact le_of_eq same

theorem reported_congr {first second : Instant → Prop} [DecidablePred first] [DecidablePred second]
    (same : ∀ date, first date ↔ second date) :
    s.reported userId walletId first = s.reported userId walletId second := by
  simp only [reported, same]

end Store

section Sparkline

variable (fixed : FixedZone) (now : Int)

/-- The dates that the close of a reporting day includes; the last day closes at the clock. -/
def closedBy (index : Nat) (date : Int) : Prop :=
  if index + 1 = sparklineDays then date ≤ now
  else date < fixed.midnight (fixed.dayOf now - sparklineDays + 1 + (index : Int) + 1)

instance (index : Nat) : DecidablePred (closedBy fixed now index) := by
  intro date
  unfold closedBy
  infer_instance

/-- The dates of the reporting days up to today. -/
def reportingDates : List String :=
  (List.range sparklineDays).map fun index : Nat =>
    formatCalendarDate (civilFromDays (fixed.dayOf now - sparklineDays + 1 + (index : Int)))

/-- The sparkline has a point for each reporting day, and each that is not null is the initial
balance and the effects of exactly the transactions its close includes. -/
def SparklineTrue (s : Store) (input : GetWalletSparklineInput) (wallet : Wallet) : Prop :=
  ∃ points, (serve fixed.zone s { now, request := .getWalletSparkline input }).1 =
      .ok (.sparkline points) ∧
    points.map WalletSparklinePoint.date = reportingDates fixed now ∧
    ∀ (index : Nat) point balance, points[index]? = some point → point.balance = some balance →
      balance = wallet.initialBalance +
        s.reported input.userId input.walletId (closedBy fixed now index)

variable {s : Store} {input : GetWalletSparklineInput} {wallet : Wallet}

/-- The points of a wallet over its buckets. -/
def sparklinePoints (s : Store) (now : Int) (input : GetWalletSparklineInput) (wallet : Wallet)
    (buckets : List ReportingDayRange) : List WalletSparklinePoint :=
  let start := (buckets.head?.map fun bucket => bucket.startInclusive).getD 0
  let finish := (buckets.getLast?.map fun bucket => bucket.endExclusive).getD 0
  (Sparkline.walk input.walletId wallet.createdAt now true buckets.reverse wallet.balance
    (s.recentTransactions input.userId input.walletId start finish)).reverse

theorem serve_getWalletSparkline (own : s.ownWallet input.walletId input.userId = some wallet) :
    (serve fixed.zone s { now, request := .getWalletSparkline input }).1 =
      match getRollingDayRanges now sparklineDays fixed.zone with
      | .ok buckets => .ok (.sparkline (sparklinePoints s now input wallet buckets))
      | .error message => .error (.thrown message) := by
  -- A window that does not resolve is the error of the request.
  cases computed : getRollingDayRanges now sparklineDays fixed.zone with
  | error message =>
    simp [serve, handle, getWalletSparkline, own, computed, query, orThrow, Prog.ofExcept, Prog.run,
      Except.mapError]
  | ok buckets =>
    simp [serve, handle, getWalletSparkline, own, computed, query, orThrow, Prog.ofExcept, Prog.run,
      Except.mapError, sparklinePoints]

/-- What an index's close leaves out comes after it. -/
theorem closedBy_iff {index : Nat} {date : Int} : closedBy fixed now index date ↔
    if index + 1 = sparklineDays then ¬now < date
    else ¬fixed.midnight (fixed.dayOf now - sparklineDays + 1 + (index : Int) + 1) ≤ date := by
  unfold closedBy
  split <;> simp

/-- Over the reporting days every point is the balance less what its close leaves out. -/
theorem sparklinePoints_eq :
    sparklinePoints s now input wallet ((List.range sparklineDays).map fun index : Nat =>
        fixed.dayRange (fixed.dayOf now - sparklineDays + 1 + (index : Int))) =
      (List.range sparklineDays).map fun index : Nat =>
        let bucket := fixed.dayRange (fixed.dayOf now - sparklineDays + 1 + (index : Int))
        Sparkline.point wallet.createdAt bucket (wallet.balance -
          s.reported input.userId input.walletId fun date =>
            date < fixed.midnight (fixed.dayOf now + 1) ∧ ¬closedBy fixed now index date) := by
  let bucket (index : Nat) : ReportingDayRange :=
    fixed.dayRange (fixed.dayOf now - sparklineDays + 1 + (index : Int))
  -- The last bucket is that of today.
  have last : fixed.dayOf now - sparklineDays + 1 + ((6 : Nat) : Int) = fixed.dayOf now := by
    simp only [sparklineDays]
    omega
  have today := fixed.dayOf_spec now
  -- The rows read for the window are the ones that count after any of its days.
  have window : ∀ {after : Int → Prop} [DecidablePred after],
      (∀ date, after date → (bucket 0).startInclusive ≤ date) →
      Sparkline.undone input.walletId (s.recentTransactions input.userId input.walletId
        (bucket 0).startInclusive (bucket 6).endExclusive) after =
        s.reported input.userId input.walletId fun date =>
          date < fixed.midnight (fixed.dayOf now + 1) ∧ after date := by
    intro after _ late
    rw [Store.undone_recentTransactions]
    refine Store.reported_congr fun date => ?_
    have same : (bucket 6).endExclusive = fixed.midnight (fixed.dayOf now + 1) :=
      congrArg (fun day => fixed.midnight (day + 1)) last
    have := late date
    rw [same]
    tauto
  -- Today is closed in its own way, and the six days before it like each other.
  have split : ∀ {β : Type} (f : Nat → β),
      (List.range sparklineDays).map f = (List.range 6).map f ++ [f 6] := by
    intro β f
    rw [show sparklineDays = 6 + 1 from rfl, List.range_succ, List.map_append]
    rfl
  -- The days before today end one after another, and not later than the instant.
  have forwards : ((List.range 6).map bucket).Pairwise fun bucket later =>
      bucket.endExclusive ≤ later.endExclusive := by
    refine List.pairwise_map.mpr (List.pairwise_lt_range.imp fun before => ?_)
    exact fixed.midnight_le_iff.mpr (by omega)
  have past : ∀ earlier ∈ (List.range 6).map bucket, earlier.endExclusive ≤ now := by
    intro earlier member
    obtain ⟨index, inside, rfl⟩ := List.mem_map.mp member
    have inside := List.mem_range.mp inside
    refine le_trans (fixed.midnight_le_iff.mpr ?_) today.1
    simp only [sparklineDays]
    omega
  -- A row after the end of a bucket is later than the start of the window.
  have started : ∀ (index : Nat) (date : Int), (bucket index).endExclusive ≤ date →
      (bucket 0).startInclusive ≤ date :=
    fun index date => le_trans (fixed.midnight_le_iff.mpr (by omega))
  calc sparklinePoints s now input wallet ((List.range sparklineDays).map bucket)
      = (Sparkline.walk input.walletId wallet.createdAt now true
          ((List.range 6).map bucket ++ [bucket 6]).reverse wallet.balance
          (s.recentTransactions input.userId input.walletId (bucket 0).startInclusive
            (bucket 6).endExclusive)).reverse := rfl
    _ = _ := Sparkline.walk_eq (s.recentTransactions_sorted _ _ _ _) forwards past
    _ = _ := by
      rw [split, List.map_map]
      congr 1
      -- The end of an earlier day closes its point.
      · refine List.map_congr_left fun index inside => ?_
        have earlier : index + 1 ≠ sparklineDays := by
          have := List.mem_range.mp inside
          simp only [sparklineDays]
          omega
        refine congrArg (fun left => Sparkline.point wallet.createdAt (bucket index)
          (wallet.balance - left)) ((window (started index)).trans ?_)
        refine Store.reported_congr fun date => ?_
        rw [closedBy_iff, if_neg earlier, not_not]
        rfl
      -- The instant closes the point of today.
      · have now_late : ∀ date : Int, now < date → (bucket 0).startInclusive ≤ date := by
          intro date future
          refine le_trans ?_ (today.1.trans future.le)
          refine fixed.midnight_le_iff.mpr ?_
          simp only [sparklineDays]
          omega
        refine congrArg (fun left => [Sparkline.point wallet.createdAt (bucket 6)
          (wallet.balance - left)]) ((window now_late).trans ?_)
        refine Store.reported_congr fun date => ?_
        rw [closedBy_iff, if_pos (show 6 + 1 = sparklineDays from rfl), not_not]

/-- Less what its close leaves out, a true balance is that of the close and what is dated later. -/
theorem balance_undone (agrees : wallet.balance = wallet.initialBalance +
      s.reported input.userId input.walletId fun _ => True) {index : Nat}
    (inside : index < sparklineDays) :
    (wallet.balance - s.reported input.userId input.walletId fun date =>
        date < fixed.midnight (fixed.dayOf now + 1) ∧ ¬closedBy fixed now index date) =
      wallet.initialBalance + s.reported input.userId input.walletId (closedBy fixed now index) +
        s.reported input.userId input.walletId fun date =>
          fixed.midnight (fixed.dayOf now + 1) ≤ date := by
  -- Every date is within the close, or left out but not after today, or after today.
  -- What a day has closed is not after today.
  have today : ∀ date, closedBy fixed now index date → date < fixed.midnight (fixed.dayOf now + 1) := by
    intro date closed
    unfold closedBy at closed
    split at closed
    · exact lt_of_le_of_lt closed (fixed.dayOf_spec now).2
    · exact lt_of_lt_of_le closed (fixed.midnight_le_iff.mpr (by omega))
  -- The rows that are closed and the rows that are left out make up all rows.
  have all : s.reported input.userId input.walletId (closedBy fixed now index) +
      (s.reported input.userId input.walletId fun date => ¬closedBy fixed now index date) =
        s.reported input.userId input.walletId fun _ => True :=
    Store.reported_add (fun date => by simp [em]) fun _ closed => not_not_intro closed
  -- The rows that are left out are before the end of today, or after it.
  have leftOut : (s.reported input.userId input.walletId fun date =>
        date < fixed.midnight (fixed.dayOf now + 1) ∧ ¬closedBy fixed now index date) +
      (s.reported input.userId input.walletId fun date =>
        fixed.midnight (fixed.dayOf now + 1) ≤ date) =
        s.reported input.userId input.walletId fun date => ¬closedBy fixed now index date := by
    refine Store.reported_add (fun date => ⟨fun open_ => ?_, fun either closed => ?_⟩) ?_
    · rcases lt_or_ge date (fixed.midnight (fixed.dayOf now + 1)) with before | later
      · exact .inl ⟨before, open_⟩
      · exact .inr later
    · rcases either with ⟨-, open_⟩ | later
      · exact open_ closed
      · exact absurd (today date closed) (not_lt.mpr later)
    · exact fun date ⟨before, _⟩ later => absurd before (not_lt.mpr later)
  rw [agrees, ← all, ← leftOut]
  ring

/--
For a wallet whose balance is that of all its transactions, the sparkline shows the past exactly
when its days resolve, and what is dated from tomorrow on adds up to nothing or the wallet is no
older.
-/
theorem getWalletSparkline_true_iff (own : s.ownWallet input.walletId input.userId = some wallet)
    (agrees : wallet.balance = wallet.initialBalance +
      s.reported input.userId input.walletId fun _ => True) :
    SparklineTrue fixed now s input wallet ↔
      fixed.Covers now sparklineDays ∧
        ((s.reported input.userId input.walletId fun date =>
            fixed.midnight (fixed.dayOf now + 1) ≤ date) = 0 ∨
          fixed.midnight (fixed.dayOf now + 1) ≤ wallet.createdAt) := by
  have seven : sparklineDays ≠ 0 := by decide
  have served := serve_getWalletSparkline fixed now own
  -- The balance of the last day decides one direction, and each day is compared in the other.
  constructor
  · rintro ⟨points, answered, dates, closes⟩
    rw [served] at answered
    -- The labels say that the window is covered.
    have covers : fixed.Covers now sparklineDays := by
      cases computed : getRollingDayRanges now sparklineDays fixed.zone with
      | error message => simp [computed] at answered
      | ok buckets =>
        obtain rfl : sparklinePoints s now input wallet buckets = points := by
          simpa [computed] using answered
        refine fixed.covers_of_labels seven (by decide) computed ?_
        rw [sparklinePoints, List.map_reverse, Sparkline.walk_dates, List.map_reverse,
          List.reverse_reverse] at dates
        exact dates
    refine ⟨covers, or_iff_not_imp_right.mpr fun older => ?_⟩
    rw [fixed.getRollingDayRanges_covers seven covers] at answered
    obtain rfl := Response.sparkline.inj (Except.ok.inj answered)
    rw [sparklinePoints_eq] at closes
    -- The point of today is the last one.
    have last : fixed.dayOf now - sparklineDays + 1 + ((6 : Nat) : Int) = fixed.dayOf now := by
      simp only [sparklineDays]
      omega
    have notNull : ¬(fixed.dayRange (fixed.dayOf now - sparklineDays + 1 +
        ((6 : Nat) : Int))).endExclusive ≤ wallet.createdAt := by
      rw [last]
      exact older
    have located : ∀ {β : Type} (f : Nat → β), ((List.range sparklineDays).map f)[6]? = some (f 6) :=
      fun f => by rw [List.getElem?_map, List.getElem?_range (by decide)]; rfl
    -- Its balance is the one at the close, which leaves nothing dated after today.
    have shown := closes 6 _ _ (located _) (if_neg notNull)
    rw [balance_undone fixed now agrees (by decide)] at shown
    linarith
  · rintro ⟨covers, quiet⟩
    refine ⟨_, served.trans (by rw [fixed.getRollingDayRanges_covers seven covers]), ?_, ?_⟩
    -- The labels are those of the reporting days.
    · rw [sparklinePoints_eq, List.map_map]
      rfl
    · intro index point balance located shown
      rw [sparklinePoints_eq, List.getElem?_map] at located
      obtain ⟨at_, here, rfl⟩ := Option.map_eq_some_iff.mp located
      -- Each point is that of a day of the window.
      obtain ⟨inside, rfl⟩ : index < sparklineDays ∧ index = at_ := by
        simpa [List.getElem?_eq_some_iff] using here
      have notNull : ¬(fixed.dayRange (fixed.dayOf now - sparklineDays + 1 + (index : Int))).endExclusive ≤
          wallet.createdAt := by
        intro null
        simp [Sparkline.point, null] at shown
      rcases quiet with nothing | young
      -- Nothing is dated after today, so each point has the balance at its close.
      · have value := balance_undone fixed now agrees inside
        rw [nothing, add_zero] at value
        rw [← value]
        simpa [Sparkline.point, notNull, eq_comm] using shown
      -- Or the wallet is younger than the window, and no point has a balance.
      · refine absurd (le_trans (fixed.midnight_le_iff.mpr ?_) young) notNull
        omega

end Sparkline

/-- The calls up to an expense of 100 from the bank account on the given date. -/
def spentOn (date : String) : List Call :=
  onboarding 1 1000 5000 ++
    [{ now := 0, request := .createTransaction
        { userId := 1, type := some .expense, amount := some (.exact 100), walletId := .given 12,
          categoryId := .given 0, date := some date } }]

/-- Ten days after the start of 1970. -/
def tenthDay : Instant := 864000000

/-- The sparkline of the tenth day shows an expense of the eighth. -/
theorem getWalletSparkline_true_past :
    let s := serveAll defaultTimezone.zone .empty (spentOn "1970-01-08")
    ∃ wallet, s.ownWallet 12 1 = some wallet ∧
      SparklineTrue defaultTimezone tenthDay s { userId := 1, walletId := 12 } wallet := by
  intro s
  -- The conditions are evaluated on the run, and the theorem is applied to what they say.
  have present : (s.ownWallet 12 1).isSome := by decide +kernel
  have true_ : ∀ wallet ∈ s.ownWallet 12 1, wallet.balance =
      wallet.initialBalance + s.reported 1 12 fun _ => True := by
    decide +kernel
  have quiet : (s.reported 1 12 fun date =>
      defaultTimezone.midnight (defaultTimezone.dayOf tenthDay + 1) ≤ date) = 0 := by
    decide +kernel
  have covers : defaultTimezone.Covers tenthDay sparklineDays := by
    constructor <;> constructor <;> decide +kernel
  clear_value s
  obtain ⟨wallet, own⟩ := Option.isSome_iff_exists.mp present
  refine ⟨wallet, own, (getWalletSparkline_true_iff defaultTimezone tenthDay own
    (true_ wallet own)).mpr ⟨covers, .inl ?_⟩⟩
  exact quiet

/-- On the tenth day an expense dated the twentieth is missing from every close. -/
theorem getWalletSparkline_future :
    let s := serveAll defaultTimezone.zone .empty (spentOn "1970-01-20")
    let input : GetWalletSparklineInput := { userId := 1, walletId := 12 }
    (serve defaultTimezone.zone s { now := tenthDay, request := .getWalletSparkline input }).1 =
        .ok (.sparkline ((reportingDates defaultTimezone tenthDay).map fun date =>
          { date, balance := some 900 })) ∧
      ∃ wallet, s.ownWallet 12 1 = some wallet ∧
        wallet.balance = wallet.initialBalance + s.reported 1 12 (fun _ => True) ∧
        ¬SparklineTrue defaultTimezone tenthDay s input wallet := by
  intro s input
  -- The points and the balance at the end of today are evaluated, and they differ.
  have present : (s.ownWallet 12 1).isSome := by decide +kernel
  have opening : ∀ wallet ∈ s.ownWallet 12 1, wallet.initialBalance = 1000 ∧
      wallet.balance = wallet.initialBalance + s.reported 1 12 fun _ => True := by
    decide +kernel
  have nothing : s.reported 1 12 (closedBy defaultTimezone tenthDay 6) = 0 := by decide +kernel
  have points : getRollingDayRanges tenthDay sparklineDays defaultTimezone.zone =
      .ok ((List.range sparklineDays).map fun index : Nat => defaultTimezone.dayRange
        (defaultTimezone.dayOf tenthDay - sparklineDays + 1 + (index : Int))) := by
    decide +kernel
  have shown : ∀ wallet ∈ s.ownWallet 12 1, sparklinePoints s tenthDay input wallet
      ((List.range sparklineDays).map fun index : Nat => defaultTimezone.dayRange
        (defaultTimezone.dayOf tenthDay - sparklineDays + 1 + (index : Int))) =
      (reportingDates defaultTimezone tenthDay).map fun date => { date, balance := some 900 } := by
    decide +kernel
  clear_value s
  obtain ⟨wallet, own⟩ := Option.isSome_iff_exists.mp present
  have served : (serve defaultTimezone.zone s
      { now := tenthDay, request := .getWalletSparkline input }).1 = _ :=
    serve_getWalletSparkline defaultTimezone tenthDay own
  rw [points] at served
  simp only [shown wallet own] at served
  refine ⟨served, wallet, own, (opening wallet own).2, ?_⟩
  rintro ⟨_, answered, -, closes⟩
  obtain rfl := Response.sparkline.inj (Except.ok.inj (served.symm.trans answered))
  have value := closes 6 { date := "1970-01-11", balance := some 900 } 900 (by decide +kernel) rfl
  rw [(opening wallet own).1, nothing] at value
  exact absurd value (by norm_num)

end PocketMint
