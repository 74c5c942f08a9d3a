import PocketMint.Program.Atomic

/-! Programs over one part of a larger store. -/

namespace PocketMint

/-- A part of a store that can be read, and replaced by another. -/
structure Part (τ σ : Type) where
  get : τ → σ
  put : τ → σ → τ
  get_put : ∀ whole part, get (put whole part) = part

/-- A part of a part. -/
def Part.trans {τ σ υ : Type} (outer : Part τ σ) (inner : Part σ υ) : Part τ υ where
  get whole := inner.get (outer.get whole)
  put whole part := outer.put whole (inner.put (outer.get whole) part)
  get_put whole part := by rw [outer.get_put, inner.get_put]

namespace Prog

variable {τ σ ε α : Type} (part : Part τ σ)

/-- A program over a part, run where the whole store is. -/
def zoom : Prog σ ε α → Prog τ ε α
  | ret value => ret value
  | fail error => fail error
  | read next => read fun whole => (next (part.get whole)).zoom
  | write effect next =>
    write (fun whole => part.put whole (effect (part.get whole))) fun whole => (next (part.get whole)).zoom

/-- A sequence over a part is the sequence of its parts there. -/
theorem zoom_bind {β : Type} (program : Prog σ ε α) (rest : α → Prog σ ε β) :
    (program >>= rest).zoom part = program.zoom part >>= fun value => (rest value).zoom part := by
  -- The part is read where the whole is, and is written back into it.
  induction program with
  | ret value => rfl
  | fail error => rfl
  | read next ih => exact congrArg read (funext fun whole => ih (part.get whole))
  | write effect next ih => exact congrArg (write _) (funext fun whole => ih (part.get whole))

/--
Run alone, a program answers over the whole what it answers over the part, and does to the part the same.
-/
theorem run_zoom (program : Prog σ ε α) (whole : τ) :
    ((program.zoom part).run whole).1 = (program.run (part.get whole)).1 ∧
      part.get ((program.zoom part).run whole).2 = (program.run (part.get whole)).2 := by
  -- After a write, the rest of the program finds in the part what the write has put there.
  induction program generalizing whole with
  | ret value => exact ⟨rfl, rfl⟩
  | fail error => exact ⟨rfl, rfl⟩
  | read next ih => exact ih (part.get whole) whole
  | write effect next ih =>
    have rest := ih (part.get whole) (part.put whole (effect (part.get whole)))
    rw [part.get_put] at rest
    exact rest

/-- What a program keeps of a part, it keeps of the part of the whole. -/
theorem Keeps.zoom {holds : σ → Prop} {program : Prog σ ε α} (keeps : program.Keeps holds) :
    (program.zoom part).Keeps fun whole => holds (part.get whole) := by
  intro whole held
  show holds (part.get _)
  rw [(run_zoom part program whole).2]
  exact keeps (part.get whole) held

variable {part}

/-- A program over a part keeps what does not depend on the part. -/
theorem keeps_zoom {holds : τ → Prop} (apart : ∀ whole value, holds whole → holds (part.put whole value))
    (program : Prog σ ε α) : (program.zoom part).Keeps holds := by
  intro whole held
  -- Each write changes the part alone, and by assumption that does not matter.
  induction program generalizing whole with
  | ret value => exact held
  | fail error => exact held
  | read next ih => exact ih (part.get whole) whole held
  | write effect next ih => exact ih (part.get whole) _ (apart whole _ held)

variable (part)

/-- What a program over a part guarantees of the part, it guarantees of the part of the whole. -/
theorem Sat.zoom {rely : σ → σ → Prop} {guar : List σ → σ → σ → Prop} {post : α → List σ → σ → Prop}
    {program : Prog σ ε α} {seen : List σ} {history : List τ} {whole : τ}
    (sat : program.Sat rely guar post seen (part.get whole)) :
    (program.zoom part).Sat (fun whole whole' => rely (part.get whole) (part.get whole'))
      (fun _ whole whole' => ∃ seen s', guar seen (part.get whole) s' ∧ whole' = part.put whole s')
      (fun value _ whole => ∃ seen, post value seen (part.get whole)) history whole := by
  -- The part has a history of its own, and the outline speaks of that one.
  induction program generalizing seen history whole with
  | ret value => exact sat_ret.mpr ⟨seen, sat_ret.mp sat⟩
  | fail error => exact sat_fail
  | read next ih =>
    refine sat_read.mpr fun whole' moved => ?_
    exact ih (part.get whole') (sat_read.mp sat (part.get whole') moved)
  | write effect next ih =>
    refine sat_write.mpr fun whole' moved => ?_
    have step := sat_write.mp sat (part.get whole') moved
    refine ⟨⟨seen, _, step.1, rfl⟩, ?_⟩
    apply ih (part.get whole')
    rw [part.get_put]
    exact step.2

end Prog

end PocketMint
