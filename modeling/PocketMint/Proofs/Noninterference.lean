import PocketMint.Commit.Runs
import PocketMint.Invariant.SeenRequests

/-! What a user is answered depends on that user's rows alone. -/

namespace PocketMint

open Prog

/-- The answers to calls executed one after the other. -/
def answers (zone : Zone) : Store → List Call → List (Except Failure Response)
  | _, [] => []
  | s, call :: calls => (serve zone s call).1 :: answers zone (serve zone s call).2 calls

/-- Every call leaves a sound store sound. -/
theorem Store.Intact.serve {s : Store} (sound : s.Intact) (zone : Zone) (call : Call) :
    (serve zone s call).2.Intact := by
  refine serve_preserves sound.numbered (fun _ s₁ s' _ held commit => ?_) sound
  exact ⟨commit.linked .alone held.numbered held.linked, commit.numbered held.numbered⟩

theorem Reachable.intact {zone : Zone} {s : Store} (reached : Reachable zone s) : s.Intact :=
  reached.induct ⟨.empty, .empty⟩ fun _ call sound => sound.serve zone call

section Runs

variable {zone : Zone} {userId : Id} {s t : Store}

/-- One call for a user cannot tell apart databases that hold the same rows of that user. -/
theorem serve_agrees (zone : Zone) (sound : s.Intact) (sound' : t.Intact)
    (same : s.seenBy userId = t.seenBy userId) {call : Call} (acts : call.request.actor = some userId) :
    (serve zone s call).1 = (serve zone t call).1 ∧
    (serve zone s call).2.seenBy userId = (serve zone t call).2.seenBy userId :=
  (handle_local acts sound).agree (handle_local acts sound') same

/-- A call for a user leaves every row of every other user as it was. -/
theorem serve_spares (zone : Zone) (sound : s.Intact) {call : Call} (acts : call.request.actor = some userId)
    {other : Id} (apart : userId ≠ other) : (serve zone s call).2.rowsOf other = s.rowsOf other := by
  -- What holds before each write is that the database is sound and that nothing of the other user has
  -- changed.
  let held : Store → Prop := fun later => later.Intact ∧ Store.Spares other s later
  have kept : held (serve zone s call).2 := by
    refine serve_preserves sound.numbered (fun seen s₁ s' _ now commit => ?_)
      ⟨sound, Store.spares_iff.mpr rfl⟩
    have alone : ∀ {a b : Store}, a = b → b.Linked → a.Linked := fun same linked => same ▸ linked
    have spares := commit.spares .alone alone now.1.numbered now.1.linked acts apart
    exact ⟨⟨commit.linked .alone now.1.numbered now.1.linked, commit.numbered now.1.numbered⟩,
      now.2.trans spares⟩
  exact Store.spares_iff.mp kept.2

/--
Two databases that hold the same rows of a user, and whatever rows of others, answer every sequence of the
user's requests alike, and are left with the same rows of the user.
-/
theorem others_rows_stay_secret (sound : s.Intact) (sound' : t.Intact)
    (same : s.seenBy userId = t.seenBy userId)
    {calls : List Call} (acts : ∀ call ∈ calls, call.request.actor = some userId) :
    answers zone s calls = answers zone t calls ∧
    (serveAll zone s calls).seenBy userId = (serveAll zone t calls).seenBy userId := by
  -- The induction is on the calls; each leaves two sound databases that still agree on the user's rows.
  induction calls generalizing s t with
  | nil => exact ⟨rfl, same⟩
  | cons call calls ih =>
    obtain ⟨answer, seen⟩ := serve_agrees zone sound sound' same (acts call List.mem_cons_self)
    obtain ⟨rest, final⟩ := ih (sound.serve zone call) (sound'.serve zone call) seen fun other among =>
      acts other (List.mem_cons_of_mem _ among)
    refine ⟨?_, final⟩
    rw [answers, answers, answer, rest]

end Runs

/-- A database of two users, the second of whom opened with some amount. -/
def neighboured (opening : Decimal) : Store :=
  serveAll defaultTimezone.zone .empty (onboarding 1 500 100 ++ onboarding 2 opening 900)

/-- A purchase, a refused use of the other's account, and the totals of the first user. -/
def neighbourCalls : List Call :=
  [{ now := 0, request := .createTransaction
        { userId := 1, walletId := .given 12, categoryId := .given 0, type := some .expense,
          amount := some (.exact 30) } },
    { now := 0, request := .createTransaction
        { userId := 1, walletId := .given 26, categoryId := .given 0, type := some .expense,
          amount := some (.exact 30) } },
    { now := 0, request := .getNetWorth 1 }]

/-- The first user has the same rows, whatever the second one has opened with. -/
theorem neighboured_agree : (neighboured 10).seenBy 1 = (neighboured 999).seenBy 1 := by
  apply Store.ext
  · decide +kernel
  all_goals
    apply Table.ext
    decide +kernel

/-- The first user is answered alike, whatever the second one has. -/
theorem others_rows_stay_secret_neighbours :
    answers defaultTimezone.zone (neighboured 10) neighbourCalls =
      answers defaultTimezone.zone (neighboured 999) neighbourCalls ∧
    (neighboured 10).wallets.rows.map Wallet.balance ≠ (neighboured 999).wallets.rows.map Wallet.balance := by
  have sound : ∀ opening, (neighboured opening).Intact := fun opening => Reachable.intact ⟨_, rfl⟩
  refine ⟨(others_rows_stay_secret (sound 10) (sound 999) neighboured_agree ?_).1, by decide +kernel⟩
  simp [neighbourCalls, Request.actor]

/--
Whatever identifiers a call for a user names, it creates, changes and deletes no row of another user; its
response and what it makes of the user's rows are the same in any two databases that hold the same rows of the
user; and every key of every row still points to a row of the same user. New rows are numbered by one counter,
on which the two agree.
-/
theorem tenants_isolated (zone : Zone) {s : Store} (reached : Reachable zone s) {call : Call} {userId : Id}
    (acts : call.request.actor = some userId) :
    let s' := (serve zone s call).2
    (∀ other, userId ≠ other → s'.rowsOf other = s.rowsOf other) ∧
    (∀ t : Store, Reachable zone t ∨ t.Intact → t.seenBy userId = s.seenBy userId →
      (serve zone t call).1 = (serve zone s call).1 ∧
      (serve zone t call).2.seenBy userId = s'.seenBy userId) ∧
    s'.Linked := by
  intro s'
  have sound : s.Intact := reached.intact
  refine ⟨fun other apart => serve_spares zone sound acts apart, fun t origin same => ?_, ?_⟩
  · -- A reachable database is sound, so both sides read and write within the user's rows alone.
    have sound' : t.Intact := origin.elim Reachable.intact id
    exact serve_agrees zone sound' sound same acts
  · exact (sound.serve zone call).linked

/-- The first user's purchase spares the second user, and is answered alike whatever that user has. -/
theorem tenants_isolated_neighbours :
    let purchase := neighbourCalls[0]
    let s' := (serve defaultTimezone.zone (neighboured 10) purchase).2
    s'.rowsOf 2 = (neighboured 10).rowsOf 2 ∧ s'.rowsOf 1 ≠ (neighboured 10).rowsOf 1 ∧
      (serve defaultTimezone.zone (neighboured 999) purchase).1 =
        (serve defaultTimezone.zone (neighboured 10) purchase).1 ∧ s'.Linked := by
  intro purchase s'
  have reached : ∀ opening, Reachable defaultTimezone.zone (neighboured opening) := fun opening => ⟨_, rfl⟩
  have acts : purchase.request.actor = some 1 := rfl
  obtain ⟨spared, alike, linked⟩ := tenants_isolated defaultTimezone.zone (reached 10) acts
  have spent : (s'.rowsOf 1).transactions.rows.length ≠
      ((neighboured 10).rowsOf 1).transactions.rows.length := by
    decide +kernel
  refine ⟨spared 2 (by decide), fun same => spent (by rw [same]), ?_, linked⟩
  exact (alike _ (.inl (reached 999)) neighboured_agree.symm).1

end PocketMint
