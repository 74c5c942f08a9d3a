import PocketMint.Commit.Runs
import PocketMint.Services.ReminderRuns

/-! Every reminder of a reachable store has one source, and no two reminders share a template's key. -/

namespace PocketMint

open Prog

/-- A reminder that a store may gain: it has one source, which is there, and a key that is not. -/
structure Store.NewReminder (s : Store) (row : RecurringReminderEvent) : Prop where
  named : row.id = s.nextId
  source : row.templateId = none ∨ row.installmentId = none
  known : ∀ id ∈ row.templateId, (s.templates.find? id).isSome
  absent : ∀ found ∈ reminderKey row, ∀ other ∈ s.events.rows, reminderKey other ≠ some found

/-- A reminder keeps its key when it keeps its frozen columns. -/
theorem RecurringReminderEvent.Frozen.reminderKey {row row' : RecurringReminderEvent}
    (frozen : row.Frozen row') : reminderKey row' = reminderKey row := by
  obtain ⟨template, -, -, occurrence, offset, -⟩ := frozen
  rw [PocketMint.reminderKey, PocketMint.reminderKey, template, occurrence, offset]

section Commits

variable {between : Store → Store → Prop} {zone : Zone} {call : Call} {seen : List Store} {s s' : Store}

/-- Only evaluations make reminders, of a template or of an instalment. -/
theorem Commit.recorded (commit : Commit between zone call seen s s') (numbered : s.Numbered)
    {row : RecurringReminderEvent} (member : row ∈ s'.events.rows) (fresh : s.nextId ≤ row.id) :
    ∃ date userId, call.request = .evaluateReminders date userId ∧
      ((∃ template offsetDays occurrence reminder rows, TemplateReminded zone call.now date userId
          template offsetDays occurrence reminder row rows s s') ∨
        ∃ installment occurrence reminder rows, InstallmentReminded zone call.now date userId
          installment occurrence reminder row rows s s') := by
  -- A row of a fresh number was not in the table before.
  have old : row ∉ s.events.rows := fun among => absurd (numbered.events row among) (Nat.not_lt.mpr fresh)
  -- Only the two upserts insert, and every other write keeps or rewrites rows of old numbers.
  cases commit with
  | templateReminded asked made =>
    have after := member
    rw [made.after] at after
    obtain before | rfl := (Table.mem_insert made.inserted).mp after
    · exact absurd before old
    · exact ⟨_, _, asked, .inl ⟨_, _, _, _, _, made⟩⟩
  | installmentReminded asked made =>
    have after := member
    rw [made.after] at after
    obtain before | rfl := (Table.mem_insert made.inserted).mp after
    · exact absurd before old
    · exact ⟨_, _, asked, .inr ⟨_, _, _, _, made⟩⟩
  -- What a deleted wallet leaves of the reminders was there before.
  | walletDeleted asked made =>
    rw [made.after] at member
    obtain ⟨before, among, rfl⟩ := List.mem_map.mp member
    exact absurd (numbered.events before (List.mem_filter.mp among).1) (Nat.not_lt.mpr fresh)
  -- A reminder may lose its transaction, but it keeps its number.
  | regularDeleted asked made =>
    rw [made.after] at member
    obtain ⟨before, among, rfl⟩ := List.mem_map.mp member
    exact absurd (numbered.events before among) (Nat.not_lt.mpr fresh)
  | installmentDeleted asked made =>
    rw [made.after] at member
    -- The reminders of the plan go, and the others keep their numbers.
    split at member
    · obtain ⟨before, among, rfl⟩ := List.mem_map.mp (List.mem_filter.mp member).1
      exact absurd (numbered.events before among) (Nat.not_lt.mpr fresh)
    · obtain ⟨before, among, rfl⟩ := List.mem_map.mp member
      exact absurd (numbered.events before among) (Nat.not_lt.mpr fresh)
  -- A reminder that is rewritten keeps its number.
  | eventRead asked made =>
    rw [made.after] at member
    exact absurd (numbered.events.update (fun _ => by rfl) row member) (Nat.not_lt.mpr fresh)
  | reminderConfirmed asked made =>
    rw [made.after] at member
    exact absurd (numbered.events.update (fun _ => by rfl) row member) (Nat.not_lt.mpr fresh)
  | _ asked made =>
    rw [made.after] at member
    exact absurd member old

/-- A reminder that a write makes has one source, and a key that no reminder has. -/
theorem Commit.newReminder (commit : Commit between zone call seen s s') (numbered : s.Numbered)
    {row : RecurringReminderEvent} (member : row ∈ s'.events.rows) (fresh : s.nextId ≤ row.id) :
    s.NewReminder row := by
  -- The row is new, so it is of one of the two upserts.
  obtain ⟨_, _, -, made | made⟩ := commit.recorded numbered member fresh
  · obtain ⟨_, _, _, _, _, made⟩ := made
    refine ⟨congrArg RecurringReminderEvent.id made.shape, .inr (by rw [made.shape]; rfl),
      made.keys.1, fun found named other among same => ?_⟩
    -- Its key is that of the template and the date, which no reminder had.
    rw [made.shape] at named
    obtain rfl : (_, _, _) = found := Option.some.inj named
    obtain ⟨id, template, key⟩ := Option.map_eq_some_iff.mp same
    simp only [Prod.mk.injEq] at key
    exact made.absent other among ⟨key.1 ▸ template, key.2.1, key.2.2⟩
  · -- An instalment's reminder has no template, and so no key of one.
    obtain ⟨_, _, _, _, made⟩ := made
    have none : row.templateId = none := by rw [made.shape]; rfl
    refine ⟨congrArg RecurringReminderEvent.id made.shape, .inl none, by simp [none], ?_⟩
    simp [reminderKey, none]

/-- A call that evaluates nothing makes no reminder. -/
theorem Commit.reminderKept (commit : Commit between zone call seen s s') (numbered : s.Numbered)
    (other : ∀ date userId, call.request ≠ .evaluateReminders date userId)
    {row' : RecurringReminderEvent} (member : row' ∈ s'.events.rows) :
    ∃ row ∈ s.events.rows, row.id = row'.id ∧ row.Frozen row' := by
  by_cases old : row'.id < s.nextId
  · exact commit.evolves.events row' member old
  · obtain ⟨date, userId, asked, -⟩ := commit.recorded numbered member (not_lt.mp old)
    exact absurd asked (other date userId)

/-- A reminder of a template alone is removed only along with its template. -/
theorem Commit.keptReminder (commit : Commit between zone call seen s s') {row : RecurringReminderEvent}
    (member : row ∈ s.events.rows) {id : Id} (template : row.templateId = some id)
    (alone : row.installmentId = none) :
    (∃ row' ∈ s'.events.rows, reminderKey row' = reminderKey row) ∨ s'.templates.find? id = none := by
  -- A rewriting of reminders that keeps their keys leaves one of the same key.
  have rewritten : ∀ {rows : List RecurringReminderEvent},
      rows.map reminderKey = s.events.rows.map reminderKey →
        ∃ row' ∈ rows, reminderKey row' = reminderKey row := by
    intro rows same
    have named := List.mem_map_of_mem (f := reminderKey) member
    rw [← same] at named
    exact List.mem_map.mp named
  -- The reminder is kept, unless its template goes.
  cases commit with
  | templateReminded asked made =>
    rw [made.after]
    exact .inl ⟨row, (Table.mem_insert made.inserted).mpr (.inl member), rfl⟩
  | installmentReminded asked made =>
    rw [made.after]
    exact .inl ⟨row, (Table.mem_insert made.inserted).mpr (.inl member), rfl⟩
  | @walletDeleted input asked made =>
    rw [made.after]
    cases gone : s.templateOn input.walletId id with
    | true =>
      -- The deletion cascades to the template.
      refine .inr ?_
      show (s.templates.filter fun row => row.walletId ≠ input.walletId).find? id = none
      rw [Table.find?_filter]
      unfold Store.templateOn at gone
      cases found : s.templates.find? id with
      | none => rfl
      | some other =>
        rw [found] at gone
        simpa using gone
    | false =>
      -- The template is on another wallet, so the reminder stays.
      have stays : row ∈ s.events.rows.filter fun row =>
          !row.templateId.any (s.templateOn input.walletId) &&
            !row.installmentId.any (s.installmentOn input.walletId) :=
        List.mem_filter.mpr ⟨member, by simp [template, alone, gone]⟩
      exact .inl ⟨_, List.mem_map_of_mem stays, rfl⟩
  | regularDeleted asked made =>
    rw [made.after]
    exact .inl ⟨_, List.mem_map_of_mem member, rfl⟩
  | installmentDeleted asked made =>
    rw [made.after]
    refine .inl ?_
    split
    -- The reminder is of no instalment, so it stays.
    · exact ⟨_, List.mem_filter.mpr ⟨List.mem_map_of_mem member, by simp [alone]⟩, rfl⟩
    · exact ⟨_, List.mem_map_of_mem member, rfl⟩
  | eventRead asked made =>
    rw [made.after]
    -- What is rewritten is no part of the key.
    exact .inl (rewritten (Table.map_rows_update (fun _ => by rfl) fun _ => rfl))
  | reminderConfirmed asked made =>
    rw [made.after]
    exact .inl (rewritten (Table.map_rows_update (fun _ => by rfl) fun _ => rfl))
  | _ asked made =>
    rw [made.after]
    exact .inl ⟨row, member, rfl⟩

/-- A reminder after a write was there before, with what it reminds of, or the write has made it. -/
theorem Commit.reminder (commit : Commit between zone call seen s s') (numbered : s.Numbered)
    {row' : RecurringReminderEvent} (member : row' ∈ s'.events.rows) :
    (∃ row ∈ s.events.rows, row.id = row'.id ∧ row.Frozen row') ∨ s.NewReminder row' := by
  by_cases old : row'.id < s.nextId
  · exact .inl (commit.evolves.events row' member old)
  · exact .inr (commit.newReminder numbered member (not_lt.mp old))

end Commits

namespace Store

/-- Every reminder has one source, and reminders of one template's key are one reminder. -/
structure Reminded (s : Store) : Prop where
  source : ∀ row ∈ s.events.rows, row.templateId = none ∨ row.installmentId = none
  unique : ∀ row ∈ s.events.rows, ∀ other ∈ s.events.rows, ∀ found,
    reminderKey row = some found → reminderKey other = some found → row.id = other.id

theorem Reminded.empty : Store.empty.Reminded := by
  constructor <;> simp [Store.empty]

end Store

/-- Every write keeps the sources and the keys of the reminders apart. -/
theorem Commit.reminded {between : Store → Store → Prop} {zone : Zone} {call : Call} {seen : List Store}
    {s s' : Store} (commit : Commit between zone call seen s s') (numbered : s.Numbered)
    (reminded : s.Reminded) : s'.Reminded := by
  -- Both parts follow from where a reminder comes from: it was there before, or it is new.
  constructor
  · intro row member
    -- A reminder that was there before keeps its source.
    obtain ⟨before, among, -, frozen⟩ | made := commit.reminder numbered member
    · rw [frozen.1, frozen.2.1]
      exact reminded.source before among
    · exact made.source
  · intro row member other member' found key key'
    rcases commit.reminder numbered member, commit.reminder numbered member' with
      -- Both were there before, and the key was unique.
      ⟨⟨before, among, same, frozen⟩ | made, ⟨before', among', same', frozen'⟩ | made'⟩
    · rw [frozen.reminderKey] at key
      rw [frozen'.reminderKey] at key'
      rw [← same, ← same']
      exact reminded.unique before among before' among' found key key'
    · -- A reminder is made only where its key is missing.
      rw [frozen.reminderKey] at key
      exact absurd key (made'.absent found key' before among)
    · rw [frozen'.reminderKey] at key'
      exact absurd key' (made.absent found key before' among')
    -- Only one is made at a time.
    · exact made.named.trans made'.named.symm

theorem Reachable.reminded {zone : Zone} {s : Store} (reached : Reachable zone s) : s.Reminded := by
  let holds (s : Store) : Prop := s.Numbered ∧ s.Reminded
  have numbers : ∀ s, holds s → s.Numbered := fun _ held => held.1
  exact (reached.invariant numbers ⟨.empty, .empty⟩ fun _ _ _ _ held commit =>
    ⟨commit.numbered held.1, commit.reminded held.1 held.2⟩).2

end PocketMint
