import Mathlib.Data.Int.Order.Basic
import Mathlib.Logic.Function.Iterate
import Mathlib.Tactic.ByContra

/-! Wall clocks whose offset changes now and then, and the search for the instant a clock shows a time. -/

namespace PocketMint

namespace Clock

/-- Whether the offset changes at an instant. -/
def ChangesAt (offset : Int → Int) (change : Int) : Prop := offset (change - 1) ≠ offset change

/-- An offset within a limit, whose changes are of at most a jump and lie some time apart. -/
structure Steady (offset : Int → Int) (limit jump apart : Int) : Prop where
  low : ∀ i, -limit ≤ offset i
  high : ∀ i, offset i ≤ limit
  small : ∀ i, offset i - offset (i - 1) ≤ jump ∧ offset (i - 1) - offset i ≤ jump
  rare : ∀ {first second}, ChangesAt offset first → ChangesAt offset second → first < second →
    first + apart ≤ second

variable {offset : Int → Int} {limit jump apart : Int}

/-- Between two instants without a change, the offset stays what it is. -/
theorem offset_eq {first last : Int} (order : first ≤ last)
    (quiet : ∀ change, first < change → change ≤ last → ¬ChangesAt offset change) :
    offset last = offset first := by
  -- The induction goes on from the first instant, one at a time.
  obtain ⟨count, rfl⟩ := Int.le.dest order
  induction count with
  | zero => simp
  | succ count ih =>
    have before := ih (by omega) fun change after within => quiet change after (by omega)
    -- The last instant is no change, so it has the offset of the one before.
    have still := not_not.mp (quiet (first + (count + 1 : Nat)) (by omega) le_rfl)
    rw [← still, ← before]
    congr 1
    omega

/-- In less time than changes lie apart, the offset changes once or not at all. -/
theorem Steady.change (steady : Steady offset limit jump apart) {first last : Int}
    (short : last - first < apart) :
    (∀ i, first ≤ i → i ≤ last → offset i = offset first) ∨
      ∃ change, first < change ∧ change ≤ last ∧ ChangesAt offset change ∧
        ∀ i, first ≤ i → i ≤ last → offset i = if i < change then offset (change - 1) else offset change := by
  -- Either the range has no change, or it has the one that is found first.
  by_cases quiet : ∀ change, first < change → change ≤ last → ¬ChangesAt offset change
  · exact .inl fun i low high => offset_eq low fun change after within => quiet change after (by omega)
  · simp only [not_forall, not_not] at quiet
    obtain ⟨change, after, within, changes⟩ := quiet
    -- Any other change would be too near to this one.
    have alone : ∀ other, first < other → other ≤ last → ChangesAt offset other → other = change := by
      intro other after' within' changes'
      rcases lt_trichotomy other change with before | same | later
      · have := steady.rare changes' changes before
        omega
      · exact same
      · have := steady.rare changes changes' later
        omega
    refine .inr ⟨change, after, within, changes, fun i low high => ?_⟩
    -- On each side of the change nothing else happens.
    split
    · refine (offset_eq (show i ≤ change - 1 by omega) fun other later before changes' => ?_).symm
      have := alone other (by omega) (by omega) changes'
      omega
    · refine offset_eq (show change ≤ i by omega) fun other later before changes' => ?_
      have := alone other (by omega) (by omega) changes'
      omega

/-- A clock that shows less than a span's beginning and later no less than its end shows the span between. -/
theorem Steady.crosses (steady : Steady offset limit jump apart) {start finish first last : Int}
    (wide : start + jump < finish) (order : first ≤ last) (before : first + offset first < start)
    (after : finish ≤ last + offset last) :
    ∃ i, first < i ∧ i < last ∧ start ≤ i + offset i ∧ i + offset i < finish := by
  -- Going on from the first instant, no step is as long as the span.
  obtain ⟨count, rfl⟩ := Int.le.dest order
  induction count with
  | zero =>
    rw [show first + ((0 : Nat) : Int) = first by omega] at after
    have := steady.small first
    omega
  | succ count ih =>
    -- The clock has passed the span before the last step, or gets past it there.
    by_cases already : finish ≤ (first + count) + offset (first + count)
    · obtain ⟨i, low, high, within⟩ := ih (by omega) already
      exact ⟨i, low, by omega, within⟩
    · have step := steady.small (first + (count + 1 : Nat))
      have previous : first + (count + 1 : Nat) - 1 = first + count := by omega
      rw [previous] at step
      refine ⟨first + count, ?_, by omega, by omega, by omega⟩
      -- The first of the two instants cannot be the start, which lies before the span.
      by_contra none
      obtain rfl : count = 0 := by omega
      rw [show first + ((0 : Nat) : Int) = first by omega] at step
      omega

/-- The instants of a range show a span exactly when its bounds are the first ones from which on the clock
shows no less than the span's beginning and no less than its end. -/
theorem Steady.span_iff (steady : Steady offset limit jump apart) {target next start finish : Int}
    (wide : target + jump < next) :
    (∀ i, (start ≤ i ∧ i < finish) ↔ target ≤ i + offset i ∧ i + offset i < next) ↔
      (∀ i, start ≤ i ↔ target ≤ i + offset i) ∧ ∀ i, finish ≤ i ↔ next ≤ i + offset i := by
  constructor
  · intro spans
    -- Outside of the range the clock cannot get to the span's other side without showing the span.
    have notBack : ∀ i, finish ≤ i → ¬i + offset i < target := by
      intro i after back
      have := steady.low (max i (next + limit))
      obtain ⟨j, later, _, inside⟩ := steady.crosses wide (le_max_left i (next + limit)) back (by omega)
      have := (spans j).mpr inside
      omega
    have notAhead : ∀ i, i < start → ¬next ≤ i + offset i := by
      intro i before ahead
      have := steady.high (min i (target - limit - 1))
      obtain ⟨j, _, earlier, inside⟩ :=
        steady.crosses wide (min_le_left i (target - limit - 1)) (by omega) ahead
      have := (spans j).mpr inside
      omega
    constructor
    -- Between the two bounds the range says what the clock shows.
    · intro i
      have := spans i
      have := notBack i
      have := notAhead i
      omega
    · intro i
      have := spans i
      have := notBack i
      have := notAhead i
      omega
  · rintro ⟨starts, finishes⟩ i
    rw [← starts i, and_congr_right_iff]
    intro _
    have := finishes i
    omega

/-! The search for a time: each round corrects an instant by what its clock shows too little or too much. -/

/-- The instant at which a clock with the offset of another instant would show the target. -/
def correct (offset : Int → Int) (target : Int) (candidate : Int) : Int := target - offset candidate

/--
Whether a target is shown as if the clock never changed there.

A change takes the clock from one time to another, and mostly the target is not between the two.
It may be where a gap of less than the tolerance begins, if the change comes no later than the target.
It may be where a fold ends, if the change comes later than the target.
-/
def Smooth (offset : Int → Int) (tolerance target : Int) : Prop :=
  ∀ change, ChangesAt offset change →
    let before := change + offset (change - 1)
    let after := change + offset change
    (target < before ∧ target < after) ∨ (before ≤ target ∧ after ≤ target) ∨
      (target = before ∧ target < after ∧ after - before < tolerance ∧ change ≤ target) ∨
      (target = after ∧ target < before ∧ target < change)

/-- Whether a candidate shows no more than the target within a tolerance, and is the first to show it. -/
def Finds (offset : Int → Int) (tolerance target candidate : Int) : Prop :=
  candidate + offset candidate < target + tolerance ∧ ∀ i, candidate ≤ i ↔ target ≤ i + offset i

section Search

variable (steady : Steady offset limit jump apart) (rare : 2 * limit < apart) {tolerance target : Int}

include steady

/-- Away from the target by more than the limit, it is plain on which side of it a clock is. -/
theorem Steady.shows_iff {candidate : Int} (near : target - limit ≤ candidate ∧ candidate ≤ target + limit)
    (own : ∀ i, target - limit ≤ i → i ≤ target + limit → (candidate ≤ i ↔ target ≤ i + offset i)) (i : Int) :
    candidate ≤ i ↔ target ≤ i + offset i := by
  have := steady.low i
  -- An instant at a distance shows a time on its own side of the target.
  have := steady.high i
  by_cases low : target - limit ≤ i
  · by_cases high : i ≤ target + limit
    · exact own i low high
    · omega
  · omega

/-- Without a change near the target, the second round has found it. -/
theorem Steady.finds_of_quiet (positive : 0 < tolerance)
    (quiet : ∀ i, target - limit ≤ i → i ≤ target + limit → offset i = offset (target - limit)) :
    Finds offset tolerance target ((correct offset target)^[4] target) ∧ Smooth offset tolerance target := by
  have low := steady.low (target - limit)
  have high := steady.high (target - limit)
  generalize offset (target - limit) = constant at *
  have round : ∀ i, target - limit ≤ i → i ≤ target + limit → correct offset target i = target - constant :=
    fun i low high => congrArg (target - ·) (quiet i low high)
  -- The offset is constant here, so the first round reaches the start and the others stay there.
  have reached : (correct offset target)^[4] target = target - constant := by
    simp only [Function.iterate_succ, Function.iterate_zero, Function.comp, id,
      round target (by omega) (by omega), round (target - constant) (by omega) (by omega)]
  rw [reached]
  refine ⟨⟨?_, steady.shows_iff (by omega) fun i low high => ?_⟩, ?_⟩
  · rw [quiet _ (by omega) (by omega)]
    omega
  · rw [quiet i low high]
    omega
  · -- A change at a distance leaves the target on one side of both of its times.
    intro change changes
    have := steady.low (change - 1)
    have := steady.high (change - 1)
    have := steady.low change
    have := steady.high change
    by_cases later : target + limit < change
    · exact .inl ⟨by omega, by omega⟩
    · by_cases earlier : change ≤ target - limit
      · exact .inr (.inl ⟨by omega, by omega⟩)
      · -- There is none in between.
        have same := (quiet (change - 1) (by omega) (by omega)).trans
          (quiet change (by omega) (by omega)).symm
        exact absurd same changes

/-- The search with one change near the target, whose two offsets are given. -/
theorem Steady.finds_of_change (positive : 0 < tolerance) {change before after : Int}
    (low : -limit ≤ before ∧ -limit ≤ after) (high : before ≤ limit ∧ after ≤ limit)
    (within : target - limit < change ∧ change ≤ target + limit)
    (offsets : ∀ i, target - limit ≤ i → i ≤ target + limit →
      offset i = if i < change then before else after) :
    Finds offset tolerance target ((correct offset target)^[4] target) ↔
      (target < change + before ∧ target < change + after) ∨
      (change + before ≤ target ∧ change + after ≤ target) ∨
      (target = change + before ∧ target < change + after ∧ change + after - (change + before) < tolerance ∧
        change ≤ target) ∨
      (target = change + after ∧ target < change + before ∧ target < change) := by
  -- One round takes off the offset that is valid at the instant it starts from.
  have round : ∀ i, target - limit ≤ i → i ≤ target + limit →
      correct offset target i = if i < change then target - before else target - after := by
    intro i low high
    rw [correct, offsets i low high]
    split <;> rfl
  have start := round target (by omega) (by omega)
  have first := round (target - before) (by omega) (by omega)
  have second := round (target - after) (by omega) (by omega)
  -- Four rounds are four corrections in a row.
  have unrolled : ∀ candidate, correct offset target (correct offset target (correct offset target
      (correct offset target target))) = candidate → (correct offset target)^[4] target = candidate :=
    fun _ same => same
  -- What an instant finds is decided near the target alone.
  have finds_iff : ∀ candidate, target - limit ≤ candidate → candidate ≤ target + limit →
      (Finds offset tolerance target candidate ↔
        candidate + (if candidate < change then before else after) < target + tolerance ∧
        ∀ i, target - limit ≤ i → i ≤ target + limit →
          (candidate ≤ i ↔ target ≤ i + if i < change then before else after)) := by
    intro candidate low high
    rw [Finds, offsets candidate low high]
    refine and_congr_right fun _ => ⟨fun own i low high => ?_, fun own => ?_⟩
    · rw [← offsets i low high]
      exact own i
    · refine steady.shows_iff ⟨low, high⟩ fun i low high => ?_
      rw [offsets i low high]
      exact own i low high
  -- Each offset leads back to an instant on one side of the change, and the start lies on one side too.
  have showsFirst := finds_iff (target - before) (by omega) (by omega)
  have showsSecond := finds_iff (target - after) (by omega) (by omega)
  rcases lt_or_ge (target - before) change with early | late
  · rw [if_pos early] at first showsFirst
    rcases lt_or_ge (target - after) change with early' | late'
    · -- Both lie before the change, and the first of them is found.
      rw [if_pos early'] at second
      have reached : (correct offset target)^[4] target = target - before := by
        apply unrolled
        rw [start]
        split
        · rw [first, first, first]
        · rw [second, first, first]
      rw [reached, showsFirst]
      refine iff_of_true ⟨by omega, fun i low high => ?_⟩ (by omega)
      split <;> omega
    · -- The target is shown twice, and the search stays with the one it comes to.
      rw [if_neg (by omega)] at second showsSecond
      rcases lt_or_ge target change with sooner | later
      · have reached : (correct offset target)^[4] target = target - before := by
          apply unrolled
          rw [start, if_pos sooner, first, first, first]
        rw [reached, showsFirst]
        constructor
        · rintro ⟨-, own⟩
          have := own change (by omega) (by omega)
          rw [if_neg (by omega)] at this
          omega
        · intro ends
          refine ⟨by omega, fun i low high => ?_⟩
          split <;> omega
      · have reached : (correct offset target)^[4] target = target - after := by
          apply unrolled
          rw [start, if_neg (by omega), second, second, second]
        rw [reached, showsSecond]
        refine iff_of_false ?_ (by omega)
        rintro ⟨-, own⟩
        have := own (change - 1) (by omega) (by omega)
        rw [if_pos (by omega)] at this
        omega
  · rw [if_neg (by omega)] at first showsFirst
    rcases lt_or_ge (target - after) change with early' | late'
    · -- The target is not shown, and the search goes to and fro.
      rw [if_pos early'] at second showsSecond
      rcases lt_or_ge target change with sooner | later
      · have reached : (correct offset target)^[4] target = target - after := by
          apply unrolled
          rw [start, if_pos sooner, first, second, first]
        rw [reached, showsSecond]
        refine iff_of_false ?_ (by omega)
        rintro ⟨-, own⟩
        have := own (target - after) (by omega) (by omega)
        rw [if_pos early'] at this
        omega
      · have reached : (correct offset target)^[4] target = target - before := by
          apply unrolled
          rw [start, if_neg (by omega), second, first, second]
        rw [reached, showsFirst]
        constructor
        · rintro ⟨near, own⟩
          have := own change (by omega) (by omega)
          rw [if_neg (by omega)] at this
          omega
        · intro begins
          refine ⟨by omega, fun i low high => ?_⟩
          split <;> omega
    · -- Both lie after the change, and the second of them is found.
      rw [if_neg (by omega)] at second showsSecond
      have reached : (correct offset target)^[4] target = target - after := by
        apply unrolled
        rw [start]
        split
        · rw [first, second, second]
        · rw [second, second, second]
      rw [reached, showsSecond]
      refine iff_of_true ⟨by omega, fun i low high => ?_⟩ (by omega)
      split <;> omega

/-- Four rounds find the first instant that shows a target exactly when the target is smooth. -/
theorem Steady.finds_iff_smooth (rare : 2 * limit < apart) (positive : 0 < tolerance) :
    Finds offset tolerance target ((correct offset target)^[4] target) ↔ Smooth offset tolerance target := by
  -- Near the target there is at most one change.
  rcases steady.change (show target + limit - (target - limit) < apart by omega) with
    quiet | ⟨change, after, within, changes, offsets⟩
  · obtain ⟨finds, smooth⟩ := steady.finds_of_quiet positive quiet
    exact iff_of_true finds smooth
  · rw [steady.finds_of_change positive ⟨steady.low _, steady.low _⟩ ⟨steady.high _, steady.high _⟩
      ⟨after, within⟩ offsets]
    constructor
    · intro here other changes'
      -- Any other change is too far from the target to matter.
      have := steady.low (other - 1)
      have := steady.high (other - 1)
      have := steady.low other
      have := steady.high other
      rcases lt_trichotomy other change with earlier | rfl | later
      · have := steady.rare changes' changes earlier
        exact .inr (.inl ⟨by omega, by omega⟩)
      · exact here
      · have := steady.rare changes changes' later
        exact .inl ⟨by omega, by omega⟩
    -- Conversely the one change near the target is as good as any other.
    · intro smooth
      exact smooth change changes

end Search

end Clock

end PocketMint
