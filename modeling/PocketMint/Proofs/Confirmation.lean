import PocketMint.Commit.Runs

/-! A reminder is confirmed at most once, however its confirmations interleave with other calls. -/

namespace PocketMint

open Prog

/-- Whether a call confirms a reminder, for whichever user. -/
def confirms (eventId : Id) (call : Call) : Bool :=
  match call.request with
  | .confirmReminder input => input.id = eventId
  | _ => false

/-- Whether the call at a position confirms a reminder. -/
def confirmsAt (eventId : Id) (calls : List Call) (position : Nat) : Bool :=
  calls[position]?.any (confirms eventId)

theorem confirms_iff {eventId : Id} {call : Call} :
    confirms eventId call ↔ ∃ input, call.request = .confirmReminder input ∧ input.id = eventId := by
  obtain ⟨now, request⟩ := call
  cases request <;> simp [confirms]

section Interleaved

variable (zone : Zone)

/-- Calls of every kind interleave over numbered stores without any condition. -/
def confirmation : Discipline (handle zone) fun _ _ => True :=
  interleaving zone _ Store.Numbered
    fun _ _ _ _ numbered _ commit => commit.numbered numbered

variable {zone}

/-- Without a condition every schedule may run. -/
theorem meets_true (pool : Pool Call Store) (schedule : List Nat) :
    pool.Meets (handle zone) (fun _ _ => True) schedule := by
  induction schedule generalizing pool with
  | nil => trivial
  | cons position schedule ih => exact ⟨fun _ _ _ => trivial, ih _⟩

/-- A confirmation that changes the store processes its reminder. -/
theorem confirmed_processed {eventId : Id} {call : Call} {seen : List Store} {s s' : Store}
    (confirm : confirms eventId call) (numbered : s.Numbered) (changed : s' ≠ s)
    (made : (confirmation zone).guar call seen s s') : s'.Processed eventId := by
  -- A confirmation that has changed the store has made its commit.
  obtain ⟨input, asked, rfl⟩ := confirms_iff.mp confirm
  obtain same | commit := made
  · exact absurd same changed
  · -- The only commit of the request completes the reminder.
    cases commit with
    | reminderConfirmed named done =>
      obtain rfl : input = _ := by simpa [asked] using named
      obtain ⟨event, own, waits⟩ := done.waiting
      have present := (Store.ownEvent_eq_some.mp own).1
      rw [done.after]
      -- The reminder is an old row, and the completion is what the commit has given it.
      refine ⟨(numbered.events.find? present).trans (Nat.lt_succ_self _), ?_⟩
      rintro ⟨later, found, waitsLater⟩
      obtain rfl := by simpa [Store.credit, present] using found
      simp at waitsLater
    | _ asked' => simp [asked] at asked'

/--
However calls interleave, at most one confirmation of a reminder commits, a completion is never
cleared, and while the reminder waits the store is the one that its confirmations never touched.
-/
theorem confirmReminder_at_most_once {s : Store} (numbered : s.Numbered) (calls : List Call)
    (eventId : Id) (schedule : List Nat) :
    (interleave zone s calls schedule).AtMostOne (handle zone) (confirms eventId ·) ∧
    (∀ earlier later, schedule = earlier ++ later → ∀ event event' instant,
      (interleave zone s calls earlier).store.events.find? eventId = some event →
      event.completedAt = some instant →
      (interleave zone s calls schedule).store.events.find? eventId = some event' →
      event'.completedAt = some instant) ∧
    ((interleave zone s calls schedule).store.Waiting eventId →
      (interleave zone s calls schedule).store = (interleave zone s calls
        (schedule.filter fun position => ¬confirmsAt eventId calls position)).store) := by
  -- All three parts follow from the rules about a pool whose threads keep to the discipline.
  have good : (confirmation zone).Good (Pool.start s calls) :=
    interleaving_start (fun _ numbered => numbered) numbered calls
  refine ⟨?_, ?_, fun waits => ?_⟩
  · -- An answer was granted by a store in which the reminder waited.
    refine (confirmation zone).unique_answer (confirms eventId ·) (Store.Waiting · eventId) ?_ good
      numbered schedule (meets_true _ _) ?_
    -- What a confirmation that answered concluded is that it met a waiting reminder.
    · intro call _ history s₁ confirm answered
      obtain ⟨input, asked, rfl⟩ := confirms_iff.mp confirm
      have concluded : ConfirmAnswered input.id history s₁ := answered.1 input asked
      exact ⟨concluded.1, concluded.2.2⟩
    -- No request has answered before the first step.
    · intro first _ thread _ located _ confirm _ ⟨value, answered⟩ _
      have member := List.mem_of_getElem? located
      have post := (confirmation zone).post_of_good good member answered
      obtain ⟨input, asked, -⟩ := confirms_iff.mp confirm
      obtain ⟨⟨_, last, _⟩, _⟩ := post.1 input asked
      obtain ⟨_, -, rfl⟩ := List.mem_map.mp member
      simp at last
  · -- Later stores continue earlier ones, and a continued reminder keeps its completion.
    rintro earlier later rfl event event' instant found completed found'
    obtain ⟨goodThen, numberedThen, _⟩ := interleaving_exec good numbered earlier (meets_true _ _)
    rw [interleave, Pool.exec_append] at found'
    have evolves := (interleaving_exec goodThen numberedThen later (meets_true _ _)).2.2
    obtain ⟨_, _, _, _, _, kept⟩ := evolves.events.frozen numberedThen.events found found'
    exact kept instant completed
  · -- A write of one of the confirmations would have left the reminder processed.
    have idle : (Pool.start s calls).Idle (handle zone)
        (fun position => confirmsAt eventId calls position) schedule := by
      refine (confirmation zone).idle_of_unmarked (confirms eventId ·) (Store.Processed · eventId)
        (fun _ _ _ _ confirm held changed made => confirmed_processed confirm held changed made)
        (fun _ _ _ moved marked => (moved.moved .refl).processed marked) good numbered schedule
        (meets_true _ _) ?_ fun marked => marked.2 waits
      -- The requests that are left out are the confirmations of this reminder.
      intro position thread erased located
      obtain ⟨call, here, rfl⟩ := by simpa [Pool.start] using located
      simpa [confirmsAt, here] using erased
    exact Pool.exec_erase (handle zone) _ ⟨rfl, fun _ _ => rfl⟩ schedule idle

end Interleaved

/-- A monthly rent, due on the fifteenth, with a reminder some days before. -/
def monthlyRent (userId walletId categoryId : Id) (reminderOffsetDays : Int) :
    CreateRecurringTransactionInput :=
  { userId
    name := "Rent"
    walletId := .given walletId
    categoryId := .given categoryId
    type := some .expense
    amountMode := some .fixed
    amount := some (.exact 100)
    frequency := some .monthly
    startDate := some "2026-01-15"
    reminderEnabled := some true
    reminderOffsetDays := .given (.finite reminderOffsetDays) }

/-- The calls up to a first reminder of a rent, which is event 15 of template 14. -/
def rentReminded : List Call :=
  onboarding 1 1000 5000 ++
    [{ now := 0, request := .createRecurringTransaction (monthlyRent 1 12 0 3) },
      { now := 0, request := .evaluateReminders "2026-01-12" none }]

/-- Three confirmations of one reminder race, one of them another user's, and one commits. -/
theorem confirmReminder_race :
    let zone := defaultTimezone.zone
    let calls : List Call := [{ now := 1, request := .confirmReminder { userId := 1, id := 15 } },
      { now := 2, request := .confirmReminder { userId := 1, id := 15 } },
      { now := 3, request := .confirmReminder { userId := 2, id := 15 } }]
    let finish := interleave zone (serveAll zone .empty rentReminded) calls [0, 1, 2, 0, 1, 0, 1, 1, 0]
    finish.AtMostOne (handle zone) (confirms 15 ·) ∧
    finish.store.events.rows.map RecurringReminderEvent.completedAt = [some 2] ∧
    finish.store.wallets.rows.map Wallet.balance = [900, 0] :=
  ⟨(confirmReminder_at_most_once (Reachable.numbered ⟨rentReminded, rfl⟩) _ 15 _).1,
    by decide +kernel, by decide +kernel⟩

end PocketMint
