import PocketMint.Invariant.Reminded
import PocketMint.Proofs.Confirmation

/-! Over any run, at most one transaction is generated for a template, an occurrence and an offset. -/

namespace PocketMint

open Prog

variable {zone : Zone}

/-- What a call generates: the transaction of an accepted confirmation, with its reminder's key. -/
def generated (zone : Zone) (s : Store) (call : Call) : Option ((Id × Instant × Int) × Transaction) :=
  match call.request, (serve zone s call).1 with
  | .confirmReminder input, .ok (.confirmation answer) =>
    ((s.events.find? input.id).bind reminderKey).map fun found => (found, answer.transaction.transaction)
  | _, _ => none

/-- What the calls of a run generate, in their order. -/
def generatedAll (zone : Zone) : Store → List Call → List ((Id × Instant × Int) × Transaction)
  | _, [] => []
  | s, call :: calls => (generated zone s call).toList ++ generatedAll zone (serve zone s call).2 calls

/-- Every reminder of a key is completed, and none of them can be made any more. -/
structure Store.Settled (s : Store) (found : Id × Instant × Int) : Prop where
  old : found.1 < s.nextId
  processed : ∀ row ∈ s.events.rows, reminderKey row = some found → row.completedAt.isSome
  there : (∃ row ∈ s.events.rows, reminderKey row = some found) ∨ s.templates.find? found.1 = none

/-- The template of a reminder's key is the reminder's. -/
theorem templateId_of_reminderKey {row : RecurringReminderEvent} {found : Id × Instant × Int}
    (key : reminderKey row = some found) : row.templateId = some found.1 := by
  obtain ⟨id, template, rfl⟩ := Option.map_eq_some_iff.mp key
  exact template

/-- A key that is settled stays settled, whatever is written. -/
theorem Commit.settled {between : Store → Store → Prop} {call : Call} {seen : List Store} {s s' : Store}
    (commit : Commit between zone call seen s s') (numbered : s.Numbered) (reminded : s.Reminded)
    {found : Id × Instant × Int} (settled : s.Settled found) : s'.Settled found := by
  have evolves := commit.evolves
  -- The reminders of the key stay processed, and none is made again while its key or no template is there.
  refine ⟨settled.old.trans_le evolves.nextId, ?_, ?_⟩
  · intro row' member key
    obtain ⟨row, among, -, frozen⟩ | made := commit.reminder numbered member
    · have own : reminderKey row = some found := frozen.reminderKey ▸ key
      obtain ⟨instant, completed⟩ := Option.isSome_iff_exists.mp (settled.processed row among own)
      obtain ⟨-, -, -, -, -, kept⟩ := frozen
      simp [kept instant completed]
    · -- A new reminder needs the template, and the key to be missing.
      have known := made.known found.1 (templateId_of_reminderKey key)
      obtain ⟨row, among, own⟩ | gone := settled.there
      · exact absurd own (made.absent found key row among)
      · simp [gone] at known
  -- The reminder of the key stays as long as its template does.
  · obtain ⟨row, among, own⟩ | gone := settled.there
    · have template := templateId_of_reminderKey own
      have alone : row.installmentId = none := by
        refine (reminded.source row among).resolve_left ?_
        simp [template]
      obtain ⟨row', member, same⟩ | removed := commit.keptReminder among template alone
      · exact .inl ⟨row', member, same.trans own⟩
      · exact .inr removed
    -- A template that is gone does not return, since keys are not handed out again.
    · refine .inr (Option.eq_none_iff_forall_ne_some.mpr fun template found' => ?_)
      obtain ⟨before, here, -⟩ := evolves.templates.find? settled.old found'
      rw [gone] at here
      cases here

section Runs

variable {s : Store}

/-- A confirmation that answers completes a reminder of a template, which was waiting. -/
theorem confirmReminder_completes {now : Instant} {input : ConfirmReminderInput}
    {answer : ConfirmReminderResult} {s' : Store}
    (ran : (confirmReminder now input).run s = (.ok answer, s')) :
    ∃ event event' id, s.events.find? input.id = some event ∧ event.completedAt = none ∧
      event.templateId = some id ∧ (s.templates.find? id).isSome ∧
      s'.events.find? input.id = some event' ∧ event'.completedAt.isSome ∧
      reminderKey event' = reminderKey event := by
  have outline : (confirmReminder now input).Sat Eq (fun _ _ _ => True) (fun _ _ s' =>
      ∃ event event' id, s.events.find? input.id = some event ∧ event.completedAt = none ∧
        event.templateId = some id ∧ (s.templates.find? id).isSome ∧
        s'.events.find? input.id = some event' ∧ event'.completedAt.isSome ∧
        reminderKey event' = reminderKey event) [] s := by
    -- Running alone, every step sees the store that the call was given.
    unfold confirmReminder
    refine sat_query_bind fun _ same₁ => sat_orThrow_bind fun existing found => ?_
    refine sat_throwIf_bind fun _ => sat_throwIf_bind fun _ => ?_
    refine sat_orThrow_bind fun template sourced => sat_ofExcept_bind fun _ _ => ?_
    refine sat_query_bind fun _ same₂ => sat_orThrow_bind fun _ _ => ?_
    refine sat_orThrow_bind fun _ _ => sat_query_bind fun _ same₃ => ?_
    refine sat_orThrow_bind fun _ _ => sat_ofExcept_bind fun _ _ => ?_
    -- The write finds the reminder still open, and completes it with the time of the call.
    refine sat_commit (fun _ _ => trivial) fun _ _ after same₄ done => ⟨trivial, ?_⟩
    obtain ⟨row, rows, -, -, ⟨event, own, waits⟩, -, -, -, rfl⟩ := writeConfirm_ok done
    -- The reminder that was read is the one that is written.
    obtain rfl := same₁
    obtain rfl := same₂
    obtain rfl := same₃
    obtain rfl := same₄
    obtain ⟨present, owned⟩ := Store.ownEvent_eq_some.mp own
    have joined : s.includeEvent event = existing := by simpa [own] using found
    rw [← joined] at sourced
    obtain ⟨id, named, there⟩ := Option.bind_eq_some_iff.mp sourced
    obtain ⟨_, known, -⟩ := Option.map_eq_some_iff.mp there
    -- Completing changes neither the template nor the key of the reminder.
    refine ⟨event, { event with completedAt := some now, generatedTransactionId := some row.id }, id, present,
      waits, named, by simp [known], ?_, rfl, rfl⟩
    show (s.events.update input.id _).find? input.id = _
    rw [Table.find?_update, if_pos rfl, present]
    rfl
  obtain ⟨history, -, post⟩ := Prog.run_answers outline rfl ran
  exact post

/-- What is generated is generated by an accepted confirmation of a reminder of its key. -/
theorem generated_eq_some {call : Call} {found : Id × Instant × Int} {row : Transaction}
    (made : generated zone s call = some (found, row)) :
    ∃ input answer, (confirmReminder call.now input).run s = (.ok answer, (serve zone s call).2) ∧
      (s.events.find? input.id).bind reminderKey = some found := by
  obtain ⟨now, request⟩ := call
  -- Only a confirmation generates a transaction, and only when it succeeds.
  cases request with
  | confirmReminder input =>
    -- The answer of the request is the answer of the service.
    unfold generated at made
    cases ran : (confirmReminder now input).run s with
    | mk reply s' =>
      have served : serve zone s { now, request := .confirmReminder input } =
          (reply.map Response.confirmation, s') := by
        show (confirmReminder now input >>= fun answer => pure (Response.confirmation answer)).run s = _
        rw [Prog.run_bind, ran]
        cases reply <;> rfl
      rw [served] at made
      cases reply with
      | error failure => simp [Except.map] at made
      | ok answer =>
        simp only [Except.map, Option.map_eq_some_iff, Prod.mk.injEq] at made
        obtain ⟨_, key, rfl, -⟩ := made
        exact ⟨input, answer, by rw [ran, served], key⟩
  | _ => simp [generated] at made

/-- A call that generates a transaction finds its key unsettled, and settles it. -/
theorem generated_settles (reached : Reachable zone s) {call : Call} {found : Id × Instant × Int}
    {row : Transaction} (made : generated zone s call = some (found, row)) :
    ¬s.Settled found ∧ (serve zone s call).2.Settled found := by
  obtain ⟨input, answer, ran, key⟩ := generated_eq_some made
  obtain ⟨event, event', id, here, waits, template, known, there, completed, same⟩ :=
    confirmReminder_completes ran
  -- The reminder of the call has the key of what was generated.
  rw [here, Option.bind_some] at key
  obtain rfl : id = found.1 := Option.some.inj (template.symm.trans (templateId_of_reminderKey key))
  have after := (reached.step call).reminded
  -- Before the confirmation the reminder waited, and after it the reminder is completed.
  constructor
  -- A settled reminder is completed, while this one was still waiting.
  · intro settled
    have processed := settled.processed event (Table.mem_of_find? here) key
    simp [waits] at processed
  · refine ⟨?_, fun other member own => ?_, .inl ⟨event', Table.mem_of_find? there, same.trans key⟩⟩
    -- The template was stored before the call, so its key had been handed out.
    · obtain ⟨existing, found⟩ := Option.isSome_iff_exists.mp known
      have evolves : s.Evolves (serve zone s call).2 :=
        serve_preserves reached.numbered (fun _ _ _ _ held commit => held.trans commit.evolves) (.refl s)
      exact (reached.numbered.templates.find? found).trans_le evolves.nextId
    · -- The completed reminder is the only one of its key.
      have named := after.unique other member event' (Table.mem_of_find? there) found own (same.trans key)
      have only : (serve zone s call).2.events.find? input.id = some other := by
        have own : other.id = input.id := named.trans (Table.key_of_find? there)
        exact own ▸ Table.find?_of_mem member
      obtain rfl := Option.some.inj (there.symm.trans only)
      exact completed

end Runs

/-- A settled key generates nothing any more, in any run. -/
theorem generatedAll_settled {s : Store} (reached : Reachable zone s) {found : Id × Instant × Int}
    (settled : s.Settled found) (calls : List Call) :
    found ∉ (generatedAll zone s calls).map Prod.fst := by
  -- A settled occurrence stays settled through every call, and none of them generates it.
  induction calls generalizing s with
  | nil => simp [generatedAll]
  | cons call calls ih =>
    -- What is carried along is the soundness of the reminders together with the settled key.
    let holds (s : Store) : Prop := s.Numbered ∧ s.Reminded ∧ s.Settled found
    have start : holds s := ⟨reached.numbered, reached.reminded, settled⟩
    have kept : holds (serve zone s call).2 := by
      refine serve_preserves reached.numbered ?_ start
      rintro _ _ _ _ ⟨numbered, reminded, held⟩ commit
      exact ⟨commit.numbered numbered, commit.reminded numbered reminded,
        commit.settled numbered reminded held⟩
    have next := kept.2.2
    -- What the call generates is not the settled key, and the rest follows by induction.
    rw [generatedAll, List.map_append, List.mem_append, not_or]
    refine ⟨?_, ih (reached.step call) next⟩
    cases made : generated zone s call with
    | none => simp
    | some pair =>
      obtain ⟨key, row⟩ := pair
      intro among
      obtain rfl : found = key := by simpa using among
      exact (generated_settles reached made).1 settled

/--
Whatever calls follow each other, no two transactions are generated for one template, occurrence and
offset.
-/
theorem confirmReminder_once {s : Store} (reached : Reachable zone s) (calls : List Call) :
    ((generatedAll zone s calls).map Prod.fst).Nodup := by
  -- Each generation settles its key, and the calls after it leave the key settled.
  induction calls generalizing s with
  | nil => exact List.nodup_nil
  | cons call calls ih =>
    rw [generatedAll, List.map_append]
    cases made : generated zone s call with
    | none => simpa using ih (reached.step call)
    | some pair =>
      obtain ⟨key, row⟩ := pair
      have settled := (generated_settles reached made).2
      exact List.nodup_cons.mpr
        ⟨generatedAll_settled (reached.step call) settled calls, ih (reached.step call)⟩

/-- A rent that is reminded of a week ahead, and then three days ahead, of the same occurrence. -/
def rentRemindedTwice : List Call :=
  [{ now := 1, request := .evaluateReminders "2026-01-08" none },
    { now := 2, request := .updateRecurringTransaction
        { userId := 1, id := 14, reminderOffsetDays := .given (.finite 3) } },
    { now := 3, request := .evaluateReminders "2026-01-12" none },
    { now := 4, request := .confirmReminder { userId := 1, id := 15 } },
    { now := 5, request := .confirmReminder { userId := 1, id := 16 } }]

/-- The calls up to a rent that is reminded of a week ahead. -/
def rentAhead : List Call :=
  onboarding 1 1000 5000 ++
    [{ now := 0, request := .createRecurringTransaction (monthlyRent 1 12 0 7) }]

/-- Both reminders are confirmed, and each of their keys once. -/
theorem confirmReminder_once_rent :
    let zone := defaultTimezone.zone
    let made := generatedAll zone (serveAll zone .empty rentAhead) rentRemindedTwice
    (made.map Prod.fst).Nodup ∧ made.length = 2 :=
  ⟨confirmReminder_once ⟨rentAhead, rfl⟩ rentRemindedTwice, by decide +kernel⟩

/-- Each of the two reminders generates a transaction for the rent of the fifteenth of January. -/
theorem confirmReminder_twice :
    let zone := defaultTimezone.zone
    let s := serveAll zone .empty rentAhead
    (generatedAll zone s rentRemindedTwice).map Prod.fst =
      [(14, defaultTimezone.midnight 20468, 7), (14, defaultTimezone.midnight 20468, 3)] ∧
    ¬((generatedAll zone s rentRemindedTwice).map fun made => (made.1.1, made.1.2.1)).Nodup ∧
    (serveAll zone s rentRemindedTwice).transactions.rows.map Transaction.amount = [100, 100] := by
  decide +kernel

end PocketMint
