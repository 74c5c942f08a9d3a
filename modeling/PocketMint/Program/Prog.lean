/-! Programs that touch a shared store only through atomic reads and atomic writes. -/

namespace PocketMint

/-- A program over a shared store, where every node is one atomic step. -/
inductive Prog (σ ε α : Type) where
  /-- The program has answered. -/
  | ret (value : α)
  /-- The program has refused. -/
  | fail (error : ε)
  /-- One atomic read, whose continuation sees the store as it was at that moment. -/
  | read (next : σ → Prog σ ε α)
  /-- One atomic write, whose continuation sees the store as it was just before. -/
  | write (effect : σ → σ) (next : σ → Prog σ ε α)

namespace Prog

variable {σ ε α β : Type}

/-- Sequencing: the second program starts where the first one answered. -/
def bind : Prog σ ε α → (α → Prog σ ε β) → Prog σ ε β
  | ret value, rest => rest value
  | fail error, _ => fail error
  | read next, rest => read fun s => (next s).bind rest
  | write effect next, rest => write effect fun s => (next s).bind rest

instance : Monad (Prog σ ε) where
  pure := ret
  bind := bind

/-- One read of a single view of the store. -/
def query (view : σ → α) : Prog σ ε α :=
  read fun s => ret (view s)

/-- Refuse when the guard holds, and carry on otherwise. -/
def throwIf (guard : Prop) [Decidable guard] (error : ε) : Prog σ ε Unit :=
  if guard then fail error else ret ()

/-- Unwrap an optional value, refusing when it is absent. -/
def orThrow (found : Option α) (error : ε) : Prog σ ε α :=
  match found with
  | some value => ret value
  | none => fail error

/-- Carry a pure computation's result or refusal into a program. -/
def ofExcept (computed : Except ε α) : Prog σ ε α :=
  match computed with
  | .ok value => ret value
  | .error error => fail error

/-- A body run on the store as one atomic step, all of whose writes are undone when it throws. -/
def transact (body : σ → Except ε (α × σ)) : Prog σ ε α :=
  write
    (fun s => match body s with
      | .ok (_, s') => s'
      | .error _ => s)
    (fun s => match body s with
      | .ok (value, _) => ret value
      | .error error => fail error)

/-- Run a program alone: nothing else changes the store between its steps. -/
def run : Prog σ ε α → σ → Except ε α × σ
  | ret value, s => (.ok value, s)
  | fail error, s => (.error error, s)
  | read next, s => (next s).run s
  | write effect next, s => (next s).run (effect s)

/-! Equations of sequencing, one for each way a program can begin. -/

@[simp] theorem pure_eq (value : α) : (pure value : Prog σ ε α) = ret value := rfl

@[simp] theorem ret_bind (value : α) (rest : α → Prog σ ε β) :
    (ret value >>= rest) = rest value := rfl

@[simp] theorem fail_bind (error : ε) (rest : α → Prog σ ε β) :
    (fail error >>= rest) = fail error := rfl

@[simp] theorem read_bind (next : σ → Prog σ ε α) (rest : α → Prog σ ε β) :
    (read next >>= rest) = read fun s => next s >>= rest := rfl

@[simp] theorem write_bind (effect : σ → σ) (next : σ → Prog σ ε α) (rest : α → Prog σ ε β) :
    (write effect next >>= rest) = write effect fun s => next s >>= rest := rfl

/-- Regrouping a sequence does not change the program. -/
theorem bind_bind {γ : Type} (program : Prog σ ε α) (first : α → Prog σ ε β)
    (second : β → Prog σ ε γ) :
    ((program >>= first) >>= second) = (program >>= fun value => first value >>= second) := by
  -- The induction follows the first program; only its answers reach the regrouped part.
  induction program with
  | ret value => rfl
  | fail error => rfl
  | read next ih =>
    simp only [read_bind]
    exact congrArg read (funext ih)
  | write effect next ih =>
    simp only [write_bind]
    exact congrArg (write effect) (funext ih)

/-- A sequence runs its first part, and goes on with the answer from the store the part leaves. -/
theorem run_bind (program : Prog σ ε α) (rest : α → Prog σ ε β) (s : σ) :
    (program >>= rest).run s = match program.run s with
      | (.ok value, s') => (rest value).run s'
      | (.error error, s') => (.error error, s') := by
  -- The induction follows the first program to its answer.
  induction program generalizing s with
  | ret value => rfl
  | fail error => rfl
  | read next ih => exact ih s s
  | write effect next ih => exact ih s (effect s)

/-- A sequence throws what its first part throws. -/
theorem run_bind_throws {program : Prog σ ε α} {s : σ} {error : ε} (rest : α → Prog σ ε β)
    (thrown : (program.run s).1 = .error error) : ((program >>= rest).run s).1 = .error error := by
  rw [run_bind]
  cases ran : program.run s with
  | mk answer s' =>
    rw [ran] at thrown
    cases thrown
    rfl

/-- Computing with the answer leaves the store as the program leaves it. -/
theorem run_map (program : Prog σ ε α) (compute : α → β) (s : σ) :
    ((program >>= fun value => ret (compute value)).run s).2 = (program.run s).2 := by
  rw [run_bind]
  cases program.run s with
  | mk answer s' => cases answer <;> rfl

end Prog

end PocketMint
