import PocketMint.Program.Prog

/-! Proof outlines of programs whose atomic steps interleave with other programs. -/

namespace PocketMint

namespace Prog

variable {σ ε α β : Type}

/--
A program meets its outline when every write it can make is guaranteed and every answer is right.

Between two steps the store may move along the rely relation.
The history lists the stores in which the program has taken its earlier steps.
-/
def Sat (rely : σ → σ → Prop) (guar : List σ → σ → σ → Prop) (post : α → List σ → σ → Prop) :
    Prog σ ε α → List σ → σ → Prop
  | ret value, history, s => post value history s
  | fail _, _, _ => True
  | read next, history, s => ∀ s', rely s s' → (next s').Sat rely guar post (history ++ [s']) s'
  | write effect next, history, s => ∀ s', rely s s' →
      guar history s' (effect s') ∧ (next s').Sat rely guar post (history ++ [s']) (effect s')

section Rules

variable {rely : σ → σ → Prop} {guar : List σ → σ → σ → Prop} {post : α → List σ → σ → Prop}
  {history : List σ} {s : σ}

@[simp] theorem sat_ret {value : α} :
    (ret value : Prog σ ε α).Sat rely guar post history s ↔ post value history s := Iff.rfl

@[simp] theorem sat_fail {error : ε} :
    (fail error : Prog σ ε α).Sat rely guar post history s := trivial

theorem sat_read {next : σ → Prog σ ε α} :
    (read next).Sat rely guar post history s ↔
      ∀ s', rely s s' → (next s').Sat rely guar post (history ++ [s']) s' := Iff.rfl

theorem sat_write {effect : σ → σ} {next : σ → Prog σ ε α} :
    (write effect next).Sat rely guar post history s ↔ ∀ s', rely s s' →
      guar history s' (effect s') ∧
        (next s').Sat rely guar post (history ++ [s']) (effect s') := Iff.rfl

/-- A sequence meets its outline when the first part's conclusion is all that the rest needs. -/
theorem sat_seq {program : Prog σ ε β} {rest : β → Prog σ ε α} {mid : β → List σ → σ → Prop}
    (first : program.Sat rely guar mid history s)
    (next : ∀ value history s, mid value history s → (rest value).Sat rely guar post history s) :
    (program >>= rest).Sat rely guar post history s := by
  -- The induction goes down the first program; where it has answered, the rest takes over.
  induction program generalizing history s with
  | ret value => exact next _ _ _ first
  | fail error => trivial
  | read more ih => exact fun s' moved => ih s' (first s' moved)
  | write effect more ih => exact fun s' moved => ⟨(first s' moved).1, ih s' (first s' moved).2⟩

/-- A query reads the store as other programs have left it. -/
theorem sat_query_bind {view : σ → β} {rest : β → Prog σ ε α}
    (next : ∀ s', rely s s' → (rest (view s')).Sat rely guar post (history ++ [s']) s') :
    (query view >>= rest).Sat rely guar post history s := next

/-- Past a guard, the guard is known not to hold. -/
theorem sat_throwIf_bind {guard : Prop} [Decidable guard] {error : ε} {rest : Unit → Prog σ ε α}
    (next : ¬guard → (rest ()).Sat rely guar post history s) :
    (throwIf guard error >>= rest).Sat rely guar post history s := by
  -- A guard that holds ends the program, and refusing meets every outline.
  unfold throwIf
  split
  · simp
  · rename_i passed
    exact next passed

/-- Past an unwrapping, the optional value is known to be present. -/
theorem sat_orThrow_bind {found : Option β} {error : ε} {rest : β → Prog σ ε α}
    (next : ∀ value, found = some value → (rest value).Sat rely guar post history s) :
    (orThrow found error >>= rest).Sat rely guar post history s := by
  cases found with
  | none => simp [orThrow]
  | some value => exact next value rfl

/-- Past a pure computation, its result is known. -/
theorem sat_ofExcept_bind {computed : Except ε β} {rest : β → Prog σ ε α}
    (next : ∀ value, computed = .ok value → (rest value).Sat rely guar post history s) :
    (ofExcept computed >>= rest).Sat rely guar post history s := by
  cases computed with
  | error error => simp [ofExcept]
  | ok value => exact next value rfl

/-- A transaction that throws leaves the store alone, so only its commits carry obligations. -/
theorem sat_transact {body : σ → Except ε (α × σ)} (still : ∀ s', rely s s' → guar history s' s')
    (commit : ∀ s' value after, rely s s' → body s' = .ok (value, after) →
      guar history s' after ∧ post value (history ++ [s']) after) :
    (transact body).Sat rely guar post history s := by
  -- The body runs in the store that is there when the step is taken.
  intro s' moved
  cases outcome : body s' with
  | error error => simpa [outcome] using still s' moved
  | ok result => simpa [outcome] using commit s' result.1 result.2 moved outcome

/--
A transaction that throws leaves the store alone, and what it threw may be used to show that this is right.
-/
theorem sat_transact_cases {body : σ → Except ε (α × σ)}
    (still : ∀ s' error, rely s s' → body s' = .error error → guar history s' s')
    (commit : ∀ s' value after, rely s s' → body s' = .ok (value, after) →
      guar history s' after ∧ post value (history ++ [s']) after) :
    (transact body).Sat rely guar post history s := by
  -- The store in which the body runs says whether it throws.
  intro s' moved
  cases outcome : body s' with
  | error error => simpa [outcome] using still s' error moved outcome
  | ok result => simpa [outcome] using commit s' result.1 result.2 moved outcome

/-- A stronger rely relation asks less of a program, and a weaker conclusion promises less. -/
theorem Sat.mono {rely' : σ → σ → Prop} {guar' : List σ → σ → σ → Prop}
    {post' : α → List σ → σ → Prop} (relies : ∀ s s', rely' s s' → rely s s')
    (guarantees : ∀ history s s', guar history s s' → guar' history s s')
    (concludes : ∀ value history s, post value history s → post' value history s)
    {program : Prog σ ε α} (sat : program.Sat rely guar post history s) :
    program.Sat rely' guar' post' history s := by
  -- The induction follows the program, with the history and the store free at each step.
  induction program generalizing history s with
  | ret value => exact concludes _ _ _ sat
  | fail error => trivial
  | read next ih => exact fun s' moved => ih s' (sat s' (relies _ _ moved))
  | write effect next ih =>
    intro s' moved
    have step := sat s' (relies _ _ moved)
    exact ⟨guarantees _ _ _ step.1, ih s' step.2⟩

/-- A program may guarantee what follows with an invariant that its own steps and the others' moves keep. -/
theorem Sat.assume {inv : σ → Prop} {guar' : List σ → σ → σ → Prop} {program : Prog σ ε α}
    (sat : program.Sat rely guar post history s) (held : inv s) (relied : ∀ s s', inv s → rely s s' → inv s')
    (guarantees : ∀ history s s', inv s → guar history s s' → guar' history s s' ∧ inv s') :
    program.Sat rely guar' (fun value history s => post value history s ∧ inv s) history s := by
  -- The invariant holds where each step is taken, so it is there when the step is guaranteed.
  induction program generalizing history s with
  | ret value => exact ⟨sat, held⟩
  | fail error => trivial
  | read next ih => exact fun s' moved => ih s' (sat s' moved) (relied s s' held moved)
  | write effect next ih =>
    intro s' moved
    have step := sat s' moved
    have granted := guarantees _ _ _ (relied s s' held moved) step.1
    exact ⟨granted.1, ih s' step.2 granted.2⟩

/-- A program whose answer is only rewritten afterwards makes the same writes. -/
theorem sat_of_map {compute : α → β} {program : Prog σ ε α}
    (sat : (program >>= fun value => ret (compute value)).Sat rely guar (fun _ _ _ => True) history s) :
    program.Sat rely guar (fun _ _ _ => True) history s := by
  -- What is computed from the answer is read off nothing.
  induction program generalizing history s with
  | ret value => trivial
  | fail error => trivial
  | read next ih => exact fun s' moved => ih s' (sat s' moved)
  | write effect next ih => exact fun s' moved => ⟨(sat s' moved).1, ih s' (sat s' moved).2⟩

/-- An outline survives the moves it relies on, once its answers do. -/
theorem Sat.stable (trans : ∀ {a b c}, rely a b → rely b c → rely a c)
    (stable : ∀ value history s s', post value history s → rely s s' → post value history s')
    {program : Prog σ ε α} {s' : σ} (sat : program.Sat rely guar post history s)
    (moved : rely s s') : program.Sat rely guar post history s' := by
  -- Only the first step sees the move; later steps start from the stores already covered.
  cases program with
  | ret value => exact stable _ _ _ _ sat moved
  | fail error => trivial
  | read next => exact fun s'' further => sat s'' (trans moved further)
  | write effect next => exact fun s'' further => sat s'' (trans moved further)

end Rules

/-- A fact of some store from which the present one has been reached. -/
def Before (between : σ → σ → Prop) (fact : σ → Prop) (s : σ) : Prop :=
  ∃ s', between s' s ∧ fact s'

/-- What was read before a store was read before every later one. -/
theorem Before.later {between : σ → σ → Prop} {fact : σ → Prop} {s s' : σ}
    (read : Before between fact s) (chain : ∀ {a b c}, between a b → between b c → between a c)
    (moved : between s s') : Before between fact s' :=
  let ⟨s₁, reached, held⟩ := read
  ⟨s₁, chain reached moved, held⟩

/-- Where nothing moves, what was read still holds. -/
@[simp] theorem before_eq {fact : σ → Prop} {s : σ} : Before Eq fact s ↔ fact s := by
  simp [Before]

/-- A program that runs alone finds what it has read. -/
theorem Before.alone {fact : σ → Prop} {s : σ} (read : Before Eq fact s) : fact s := before_eq.mp read

/-- No move, or a move along a relation between stores that both satisfy an invariant. -/
def Within (inv : σ → Prop) (moves : σ → σ → Prop) (s s' : σ) : Prop :=
  s' = s ∨ (inv s ∧ inv s' ∧ moves s s')

namespace Within

variable {inv : σ → Prop} {moves : σ → σ → Prop} {s s' s'' : σ}

theorem refl (s : σ) : Within inv moves s s := .inl rfl

theorem trans (chain : ∀ {a b c}, moves a b → moves b c → moves a c)
    (first : Within inv moves s s') (second : Within inv moves s' s'') : Within inv moves s s'' := by
  -- A way that has not moved yet is the other way.
  obtain rfl | ⟨started, _, moved⟩ := first
  · exact second
  · obtain rfl | ⟨_, ended, further⟩ := second
    · exact .inr ⟨started, ‹_›, moved⟩
    · exact .inr ⟨started, ended, chain moved further⟩

/-- The invariant held before a move when it holds after it, and the other way round. -/
theorem inv_iff (moved : Within inv moves s s') : inv s ↔ inv s' := by
  obtain rfl | ⟨started, ended, _⟩ := moved
  · exact Iff.rfl
  · exact ⟨fun _ => ended, fun _ => started⟩

/-- A reflexive relation holds over the whole move. -/
theorem moved (stays : ∀ s, moves s s) (moved : Within inv moves s s') : moves s s' := by
  obtain rfl | ⟨_, _, moved⟩ := moved
  · exact stays _
  · exact moved

end Within

/-! Running alone is the case in which nothing moves between two steps. -/

/-- A program run alone ends in an answer its outline allows, and saw the store it started in first. -/
theorem run_answers {guar : List σ → σ → σ → Prop} {post : α → List σ → σ → Prop}
    {program : Prog σ ε α} {history : List σ} {s₀ s s' : σ} {value : α}
    (sat : program.Sat Eq guar post history s) (first : (history ++ [s]).head? = some s₀)
    (ran : program.run s = (.ok value, s')) :
    ∃ history', (history' ++ [s']).head? = some s₀ ∧ post value history' s' := by
  have grown : ∀ s', (history ++ [s] ++ [s']).head? = some s₀ := by
    intro s'
    rw [List.head?_append, first]
    rfl
  -- Each step of the run is the step of the outline in which the store did not move.
  induction program generalizing history s with
  | ret answer =>
    obtain ⟨rfl, rfl⟩ := by simpa [run] using ran
    exact ⟨history, first, sat⟩
  | fail error => simp [run] at ran
  | read next ih =>
    refine ih s (sat s rfl) (grown s) ran fun s' => ?_
    rw [List.head?_append, grown s]
    rfl
  | write effect next ih =>
    refine ih s (sat s rfl).2 (grown _) ran fun s' => ?_
    rw [List.head?_append, grown]
    rfl

/--
A program run alone preserves whatever each of its writes preserves.

The first store it sees is the one it was started in.
-/
theorem run_preserves {holds : σ → Prop} {post : α → List σ → σ → Prop} {program : Prog σ ε α}
    {history : List σ} {s₀ s : σ} (sat : program.Sat Eq (fun seen s₁ s' =>
      (seen ++ [s₁]).head? = some s₀ → holds s₁ → holds s') post history s)
    (first : (history ++ [s]).head? = some s₀) (start : holds s) : holds (program.run s).2 := by
  have grown : ∀ {seen : List σ} {s}, (seen ++ [s]).head? = some s₀ →
      ∀ s', (seen ++ [s] ++ [s']).head? = some s₀ := by
    intro seen s first s'
    rw [List.head?_append, first]
    rfl
  -- The first store of the history stays the first while the program runs on.
  induction program generalizing history s with
  | ret answer => exact start
  | fail error => exact start
  | read next ih => exact ih s (sat s rfl) (grown first s) start
  | write effect next ih =>
    have step := sat s rfl
    exact ih s step.2 (grown first _) (step.1 first start)

-- From here on an outline is proved and used by its rules, never by running its program.
attribute [irreducible] Sat

end Prog

end PocketMint
