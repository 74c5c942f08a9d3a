import PocketMint.Program.Rely

/-! Programs that run alone: what their parts answer, and that a refusal leaves the store as it was. -/

namespace PocketMint

namespace Prog

variable {σ ε α β : Type}

/-- A program that leaves every store alone. -/
def Reads (program : Prog σ ε α) : Prop := ∀ s, (program.run s).2 = s

/-- A program that leaves a store alone unless it answers. -/
def Atomic (program : Prog σ ε α) : Prop :=
  ∀ s error, (program.run s).1 = .error error → (program.run s).2 = s

theorem Reads.atomic {program : Prog σ ε α} (reads : program.Reads) : program.Atomic :=
  fun s _ _ => reads s

theorem reads_ret (value : α) : (ret value : Prog σ ε α).Reads := fun _ => rfl

theorem reads_query (view : σ → α) : (query view : Prog σ ε α).Reads := fun _ => rfl

theorem reads_throwIf (guard : Prop) [Decidable guard] (error : ε) :
    (throwIf guard error : Prog σ ε Unit).Reads := by
  intro s
  unfold throwIf
  split
  · rfl
  · rfl

theorem reads_orThrow (found : Option α) (error : ε) : (orThrow found error : Prog σ ε α).Reads := by
  intro s
  cases found with
  | none => rfl
  | some value => rfl

theorem reads_ofExcept (computed : Except ε α) : (ofExcept computed : Prog σ ε α).Reads := by
  intro s
  cases computed with
  | ok value => rfl
  | error error => rfl

/-- Reading and then reading on is reading. -/
theorem Reads.bind {first : Prog σ ε β} {rest : β → Prog σ ε α} (reads : first.Reads)
    (next : ∀ value, (rest value).Reads) : (first >>= rest).Reads := by
  intro s
  have kept := reads s
  rw [run_bind]
  -- Whatever the first part has read, the rest starts from the same store.
  cases ran : first.run s with
  | mk answer s' =>
    rw [ran] at kept
    obtain rfl : s' = s := kept
    cases answer with
    | error error => rfl
    | ok value => exact next value s'

/-- A program that reads before it goes on as one atomic program is atomic. -/
theorem Reads.bind_atomic {first : Prog σ ε β} {rest : β → Prog σ ε α} (reads : first.Reads)
    (next : ∀ value, (rest value).Atomic) : (first >>= rest).Atomic := by
  intro s error
  -- A program that only reads leaves the store to what follows it.
  have kept := reads s
  rw [run_bind]
  cases ran : first.run s with
  | mk answer s' =>
    rw [ran] at kept
    obtain rfl : s' = s := kept
    cases answer with
    | error error => exact fun _ => rfl
    | ok value => exact next value s' error

/-- A transaction is undone as a whole when its body throws. -/
theorem atomic_transact (body : σ → Except ε (α × σ)) : (transact body).Atomic := by
  -- A transaction that throws puts nothing back.
  intro s error
  cases done : body s with
  | error failure => simp [transact, run, done]
  | ok value => simp [transact, run, done]

/-- Computing with the answer of an atomic program is atomic. -/
theorem Atomic.map {program : Prog σ ε α} (atomic : program.Atomic) (compute : α → β) :
    (program >>= fun value => ret (compute value)).Atomic := by
  intro s error refused
  rw [run_map]
  -- A refusal of the whole is a refusal of the program, since computing refuses nothing.
  rw [run_bind] at refused
  cases ran : program.run s with
  | mk answer s' =>
    rw [ran] at refused
    cases answer with
    | ok value => cases refused
    | error failure =>
      have kept := atomic s failure (by rw [ran])
      rwa [ran] at kept

/-! What programs that run alone keep. -/

/-- A program that keeps a property of the store, whether it answers or refuses. -/
def Keeps (holds : σ → Prop) (program : Prog σ ε α) : Prop := ∀ s, holds s → holds (program.run s).2

theorem Reads.keeps {holds : σ → Prop} {program : Prog σ ε α} (reads : program.Reads) :
    program.Keeps holds := by
  intro s held
  rw [reads s]
  exact held

/-- What both parts of a sequence keep, the sequence keeps. -/
theorem Keeps.bind {holds : σ → Prop} {first : Prog σ ε β} {rest : β → Prog σ ε α} (keeps : first.Keeps holds)
    (next : ∀ value, (rest value).Keeps holds) : (first >>= rest).Keeps holds := by
  intro s held
  have kept := keeps s held
  rw [run_bind]
  -- A refusal ends the sequence where the first part has left the store.
  cases ran : first.run s with
  | mk answer s' =>
    rw [ran] at kept
    cases answer with
    | error error => exact kept
    | ok value => exact next value s' kept

/-- Computing with an answer keeps what giving the answer keeps. -/
theorem Keeps.map {holds : σ → Prop} {program : Prog σ ε α} (keeps : program.Keeps holds) (compute : α → β) :
    (program >>= fun value => ret (compute value)).Keeps holds := by
  apply keeps.bind
  intro value
  exact (reads_ret (compute value)).keeps

/-- A program keeps what it keeps when its answer is computed with. -/
theorem Keeps.of_map {holds : σ → Prop} {program : Prog σ ε α} {compute : α → β}
    (keeps : (program >>= fun value => ret (compute value)).Keeps holds) : program.Keeps holds := by
  intro s held
  rw [← run_map program compute s]
  exact keeps s held

/-- A transaction keeps what its body keeps when it does not throw. -/
theorem keeps_transact {holds : σ → Prop} {body : σ → Except ε (α × σ)}
    (kept : ∀ s value s', holds s → body s = .ok (value, s') → holds s') : (transact body).Keeps holds := by
  -- A transaction that throws leaves the store, and one that answers is assumed to keep it right.
  intro s held
  cases done : body s with
  | error failure => simpa [transact, run, done] using held
  | ok result => simpa [transact, run, done] using kept s result.1 result.2 held done

/-- A program keeps what each of its writes keeps. -/
theorem keeps_of_sat {holds : σ → Prop} {post : α → List σ → σ → Prop} {program : Prog σ ε α}
    (sat : ∀ s, holds s → program.Sat Eq (fun _ s s' => holds s → holds s') post [] s) :
    program.Keeps holds := by
  -- Alone, the program takes its steps in stores that no one else moves.
  intro s held
  have first : ([] ++ [s]).head? = some s := rfl
  refine run_preserves ((sat s held).mono (fun _ _ same => same) ?_ fun _ _ _ done => done) first held
  exact fun _ _ _ kept _ => kept

/-- A program that writes nothing reads. -/
theorem reads_of_sat {post : α → List σ → σ → Prop} {program : Prog σ ε α}
    (sat : ∀ s, program.Sat Eq (fun _ s s' => s' = s) post [] s) : program.Reads := by
  -- What holds of the store at the start is that it is this one.
  intro s
  have kept : program.Keeps fun s' => s' = s := keeps_of_sat fun s₁ _ =>
    (sat s₁).mono (fun _ _ same => same) (fun _ _ _ unchanged held => unchanged.trans held)
      fun _ _ _ done => done
  exact kept s rfl

/-! What the parts of a program that answers must have answered. -/

section Answers

variable {s s' : σ} {value : α}

theorem run_query_bind (view : σ → β) (rest : β → Prog σ ε α) (s : σ) :
    (query view >>= rest).run s = (rest (view s)).run s := rfl

/-- Past a guard a program answers when the guard does not hold. -/
theorem run_throwIf_bind {guard : Prop} [Decidable guard] {error : ε} {rest : Unit → Prog σ ε α} :
    (throwIf guard error >>= rest).run s = (.ok value, s') ↔ ¬guard ∧ (rest ()).run s = (.ok value, s') := by
  unfold throwIf
  split
  · rename_i held
    simp [held, run]
  · rename_i passed
    simp [passed]

/-- Past an unwrapping a program answers when the optional value is present. -/
theorem run_orThrow_bind {found : Option β} {error : ε} {rest : β → Prog σ ε α} :
    (orThrow found error >>= rest).run s = (.ok value, s') ↔
      ∃ inner, found = some inner ∧ (rest inner).run s = (.ok value, s') := by
  cases found with
  | none => simp [orThrow, run]
  | some inner => simp [orThrow]

/-- Past a pure computation a program answers when the computation has a result. -/
theorem run_ofExcept_bind {computed : Except ε β} {rest : β → Prog σ ε α} :
    (ofExcept computed >>= rest).run s = (.ok value, s') ↔
      ∃ inner, computed = .ok inner ∧ (rest inner).run s = (.ok value, s') := by
  cases computed with
  | error error => simp [ofExcept, run]
  | ok inner => simp [ofExcept]

/-- Past a part that only reads a program answers when the part does. -/
theorem Reads.run_bind {first : Prog σ ε β} {rest : β → Prog σ ε α} (reads : first.Reads) :
    (first >>= rest).run s = (.ok value, s') ↔
      ∃ inner, first.run s = (.ok inner, s) ∧ (rest inner).run s = (.ok value, s') := by
  -- A program that only reads leaves the store to what follows it.
  have kept := reads s
  rw [Prog.run_bind]
  cases ran : first.run s with
  | mk answer between =>
    rw [ran] at kept
    obtain rfl : between = s := kept
    cases answer with
    | error error => simp
    | ok inner => simp

end Answers

/-! How a program runs on past a part that lets it through. -/

section Passes

variable {s s' : σ}

/-- Past a part that answers, a program runs on from the store the part leaves. -/
theorem run_bind_passes {first : Prog σ ε β} {rest : β → Prog σ ε α} {value : β}
    (done : first.run s = (.ok value, s')) : (first >>= rest).run s = (rest value).run s' := by
  rw [run_bind, done]

/-- A guard that does not hold lets a program run on. -/
theorem run_throwIf_passes {guard : Prop} [Decidable guard] {error : ε} {rest : Unit → Prog σ ε α}
    (passed : ¬guard) : (throwIf guard error >>= rest).run s = (rest ()).run s := by
  rw [throwIf, if_neg passed]
  rfl

/-- A guard that holds ends a program. -/
theorem run_throwIf_stops {guard : Prop} [Decidable guard] {error : ε} {rest : Unit → Prog σ ε α}
    (held : guard) : (throwIf guard error >>= rest).run s = (.error error, s) := by
  rw [throwIf, if_pos held]
  rfl

/-- A value that is present lets a program run on with it. -/
theorem run_orThrow_passes {found : Option β} {error : ε} {rest : β → Prog σ ε α} {value : β}
    (present : found = some value) : (orThrow found error >>= rest).run s = (rest value).run s := by
  rw [present]
  rfl

/-- A computation that has a result lets a program run on with it. -/
theorem run_ofExcept_passes {computed : Except ε β} {rest : β → Prog σ ε α} {value : β}
    (done : computed = .ok value) : (ofExcept computed >>= rest).run s = (rest value).run s := by
  rw [done]
  rfl

end Passes

end Prog

end PocketMint
