import PocketMint.Invariant.Isolated

/-! Every write of a user's request, as the rest of the database sees it. -/

namespace PocketMint

open Prog

namespace Store

/-- Every key points to a row of the same user, and no row is numbered past the counter. -/
structure Intact (s : Store) : Prop where
  linked : s.Linked
  numbered : s.Numbered

/-- What a user's category must differ in from the user's other ones. -/
def categoryKeys (s : Store) : List (Id × CategoryType × String) :=
  s.categories.rows.map fun row => (row.userId, row.type, row.name)

/-- A user has a category of a type and a name. -/
def HasCategory (s : Store) (userId : Id) (entry : CategoryType × String) : Prop :=
  (userId, entry) ∈ s.categoryKeys

/-- A write of one user: the database stays sound, no category goes, and no one else's row changes. -/
structure OwnWrite (userId : Id) (s s' : Store) : Prop where
  sound : s'.Intact
  evolves : s.Evolves s'
  categories : ∀ id row, s.categories.find? id = some row → s'.categories.find? id = some row
  distinct : s.categoryKeys.Nodup → s'.categoryKeys.Nodup
  spares : ∀ other, userId ≠ other → Spares other s s'

end Store

open Store (OwnWrite)

/-- Only the default categories are ever written. -/
theorem Commit.categories_same {between : Store → Store → Prop} {zone : Zone}
    {call : Call} {seen : List Store}
    {s s' : Store} (others : ∀ owner, call.request ≠ .ensureDefaultCategories owner)
    (commit : Commit between zone call seen s s') : s'.categories = s.categories := by
  cases commit with
  -- Only that request adds categories.
  | categoryCreated asked made => exact absurd asked (others _)
  | installmentDeleted asked made =>
    rw [made.after]
    -- The two ways to delete an instalment leave the categories alike.
    split <;> rfl
  | _ asked made =>
    have after := congrArg Store.categories made.after
    exact after

/-- Every other write of a request that acts for a user is one of that user. -/
theorem Commit.ownWrite {between : Store → Store → Prop} (reading : Reading between)
    (earlier : ∀ {s₁ s}, between s₁ s → s.Linked → s₁.Linked) {zone : Zone} {call : Call} {seen : List Store}
    {s s' : Store} {actor : Id} (acts : call.request.actor = some actor)
    (others : ∀ owner, call.request ≠ .ensureDefaultCategories owner) (sound : s.Intact)
    (commit : Commit between zone call seen s s') : OwnWrite actor s s' where
  sound := ⟨commit.linked reading sound.numbered sound.linked, commit.numbered sound.numbered⟩
  evolves := commit.evolves
  categories id row found := by
    rw [commit.categories_same others]
    exact found
  distinct distinct := by
    rw [Store.categoryKeys, commit.categories_same others]
    exact distinct
  spares other apart := commit.spares reading earlier sound.numbered sound.linked acts apart

section Housekeeping

variable {s : Store} {userId id : Id}

/-- A template of the user is deleted with its reminders. -/
theorem Store.Intact.deleteTemplate (sound : s.Intact)
    (own : ∀ row, s.templates.find? id = some row → row.userId = userId) :
    OwnWrite userId s (s.deleteTemplate id) where
  sound :=
    { linked :=
        { transactions := sound.linked.transactions
          installments := sound.linked.installments
          templates := fun row member => sound.linked.templates row (List.mem_filter.mp member).1
          events := fun row member => by
            -- A reminder that stays names another template, which stays as well.
            obtain ⟨among, apart⟩ := List.mem_filter.mp member
            have links := sound.linked.events row among
            refine ⟨fun other named => ?_, links.2⟩
            have different : other ≠ id := by
              rintro rfl
              exact of_decide_eq_true apart named
            simpa [ownTemplate, Store.deleteTemplate, different] using links.1 other named }
      numbered :=
        { sound.numbered with
          templates := sound.numbered.templates.filter _
          events := sound.numbered.events.filter _ } }
  evolves :=
    { Store.Evolves.refl s with
      templates := .filter RecurringTransactionTemplate.Frozen.refl _
      events := .filter RecurringReminderEvent.Frozen.refl _ }
  categories _ _ found := found
  distinct distinct := distinct
  spares other apart :=
    { templates := Table.filter_erase_other fun row found => decide_eq_false (own row found ▸ apart)
      events := by
        apply Table.filter_filter_other
        intro row member mine
        -- A reminder of someone else names a template of someone else.
        refine decide_eq_true fun named => ?_
        obtain ⟨template, owned⟩ := Option.isSome_iff_exists.mp ((sound.linked.events row member).1 id named)
        rcases ownTemplate_eq_some.mp owned with ⟨found, user⟩
        exact apart ((own template found).symm.trans (user.trans (of_decide_eq_true mine))) }

/-- The reminders of the user are marked as read. -/
theorem Store.Intact.markRead (sound : s.Intact) (now : Instant) :
    OwnWrite userId s { s with
      events := s.events.mapRows fun row =>
        { row with readAt := if row.userId = userId && row.readAt.isNone then some now else row.readAt }
          } where
  sound :=
    { linked := Store.Retains.linked {} sound.linked
        { events := fun row member => by
            obtain ⟨old, among, rfl⟩ := List.mem_map.mp member
            exact .inr (sound.linked.events old among) }
      numbered := { sound.numbered with events := sound.numbered.events.mapRows } }
  evolves :=
    { Store.Evolves.refl s with
      -- Marking a reminder as read leaves what is frozen.
      events := .mapRows fun _ => ⟨rfl, rfl, rfl, rfl, rfl, fun _ same => same⟩ }
  categories _ _ found := found
  distinct distinct := distinct
  spares other apart :=
    { events := Table.filter_rewritten_other rfl (fun _ => rfl) fun row member theirs => by
        -- A reminder of someone else is rewritten to itself.
        have foreign : row.userId ≠ userId := of_decide_eq_true theirs ▸ apart.symm
        simp [foreign] }

end Housekeeping

/-! Every step of a user's request is one such write, or none. -/

section Outlines

variable {zone : Zone} {now : Instant} {history : List Store} {s : Store} {actor : Id}

/-- A sound store is sound after the others' moves. -/
theorem Store.Intact.within {s' : Store} (sound : s.Intact) (moved : Within Store.Intact Store.Evolves s s') :
    s'.Intact :=
  moved.inv_iff.mp sound

/-- What a sound store was reached from was linked. -/
theorem linked_before {s₁ : Store} (moved : Within Store.Intact Store.Evolves s₁ s) (linked : s.Linked) :
    s₁.Linked := by
  rcases moved with rfl | ⟨started, _, _⟩
  · exact linked
  · exact started.linked

/-- A default category is added for the user unless the user has it. -/
theorem upsertCategory_own (type : CategoryType) (name : String) (sound : s.Intact) :
    (CategoryService.upsert actor type name).Sat (Within Store.Intact Store.Evolves)
      (fun _ s s' => s' = s ∨ OwnWrite actor s s') (fun _ _ s => s.Intact ∧ s.HasCategory actor (type, name))
      history s := by
  have reading : Reading (Within Store.Intact Store.Evolves) := .within fun _ sound => sound.numbered
  refine sat_commit (fun _ _ => .inl rfl) fun s' category after moved done => ?_
  -- The store is intact when the transaction begins.
  have sound' := sound.within moved
  cases taken : s'.categories.rows.find? fun row => row.userId = actor && row.name = name &&
      row.type = type with
  | some category =>
    simp only [taken, Except.ok.injEq, Prod.mk.injEq] at done
    obtain ⟨rfl, rfl⟩ := done
    -- The category is there already, with its name and its kind.
    refine ⟨.inl rfl, sound', List.mem_map.mpr ⟨category, List.mem_of_find?_eq_some taken, ?_⟩⟩
    have wanted := List.find?_some taken
    simp only [Bool.and_eq_true, decide_eq_true_eq] at wanted
    rw [wanted.1.1, wanted.2, wanted.1.2]
  | none =>
    simp only [taken] at done
    obtain ⟨rfl, -, rows, inserted, rfl⟩ := Tx.insert_ok.mp done
    -- The insertion is the one that the request for default categories commits.
    have commit : Commit (Within Store.Intact Store.Evolves) defaultTimezone.zone
        ⟨0, .ensureDefaultCategories actor⟩ [] s' { s' with nextId := s'.nextId + 1, categories := rows } :=
      .categoryCreated rfl ⟨rfl, inserted, rfl⟩
    have after : rows.rows = s'.categories.rows ++ [{ id := s'.nextId, userId := actor, name, type }] :=
      (Table.insert?_eq_some_iff.mp inserted).2
    have own : OwnWrite actor s' { s' with nextId := s'.nextId + 1, categories := rows } :=
      { sound := ⟨commit.linked reading sound'.numbered sound'.linked, commit.numbered sound'.numbered⟩
        evolves := commit.evolves
        categories := fun id row found => by
          show rows.find? id = some row
          -- An old category is not at the new identifier.
          rw [Table.find?_insert inserted, if_neg]
          · exact found
          · rintro rfl
            rw [(Table.insert?_eq_some_iff.mp inserted).1] at found
            cases found
        distinct := fun distinct => by
          -- The new key was looked for, and not found.
          show (rows.rows.map _).Nodup
          rw [after, List.map_append, List.map_singleton]
          refine List.nodup_append.mpr ⟨distinct, List.nodup_singleton _, fun key among other here => ?_⟩
          obtain rfl := List.mem_singleton.mp here
          rintro rfl
          obtain ⟨row, member, same⟩ := List.mem_map.mp among
          have missing := List.find?_eq_none.mp taken row member
          simp only [Prod.mk.injEq] at same
          simp [same] at missing
        spares := fun other apart =>
          commit.spares reading linked_before sound'.numbered sound'.linked rfl apart }
    refine ⟨.inr own, own.sound, ?_⟩
    -- The new category is the one that was asked for.
    show _ ∈ rows.rows.map _
    rw [after, List.map_append]
    exact List.mem_append_right _ (List.mem_singleton.mpr rfl)

theorem upsertCategories_own (entries : List (CategoryType × String)) (sound : s.Intact) :
    (upsertCategories actor entries).Sat (Within Store.Intact Store.Evolves)
      (fun _ s s' => s' = s ∨ OwnWrite actor s s') (fun _ _ _ => True) history s := by
  induction entries generalizing history s with
  | nil => exact sat_ret.mpr trivial
  | cons entry rest ih => exact sat_seq (upsertCategory_own _ _ sound) fun _ _ _ done => ih done.1

/-- A call that acts for a user makes only writes of that user. -/
theorem handle_own (zone : Zone) (call : Call) (acts : call.request.actor = some actor) (sound : s.Intact) :
    (handle zone call).Sat (Within Store.Intact Store.Evolves) (fun _ s s' => s' = s ∨ OwnWrite actor s s')
      (fun _ _ _ => True) [] s := by
  have reading : Reading (Within Store.Intact Store.Evolves) := .within fun _ sound => sound.numbered
  by_cases ensures : ∃ owner, call.request = .ensureDefaultCategories owner
  · -- Categories are added one by one, and every addition checks that it is needed.
    obtain ⟨owner, asked⟩ := ensures
    obtain rfl : owner = actor := by simpa [asked, Request.actor] using acts
    simp only [handle, asked]
    exact sat_seq (upsertCategories_own _ sound) fun _ _ _ _ => sat_ret.mpr trivial
  -- Any other request leaves the categories, and its commits are the actor's own.
  · have others : ∀ owner, call.request ≠ .ensureDefaultCategories owner :=
      fun owner asked => ensures ⟨owner, asked⟩
    refine ((handle_sat reading sound.numbered).assume sound
      (fun _ _ held moved => held.within moved) ?_).mono
      (fun _ _ same => same) (fun _ _ _ same => same) fun _ _ _ _ => trivial
    intro seen s₁ s' held made
    rcases made with rfl | commit
    · exact ⟨.inl rfl, held⟩
    · have own := commit.ownWrite reading linked_before acts others held
      exact ⟨.inr own, own.sound⟩

theorem deleteRecurringTransaction_own (input : DeleteRecurringTransactionInput) (sound : s.Intact) :
    (deleteRecurringTransaction input).Sat (Within Store.Intact Store.Evolves)
      (fun _ s s' => s' = s ∨ OwnWrite input.userId s s') (fun _ _ _ => True) history s := by
  have reading : Reading (Within Store.Intact Store.Evolves) := .within fun _ sound => sound.numbered
  unfold deleteRecurringTransaction
  refine sat_query_bind fun s₁ moved₁ => sat_orThrow_bind fun existing own => ?_
  refine sat_commit (fun _ _ => .inl rfl) fun s' value after moved done => ⟨.inr ?_, trivial⟩
  -- The template that was read belongs to the user for good.
  have sound' := (sound.within moved₁).within moved
  simp only [Tx.bind_ok, Tx.pure_ok, Tx.deleteTemplate] at done
  obtain ⟨_, _, deleted, _, rfl⟩ := done
  obtain ⟨_, rfl⟩ := Tx.delete_ok.mp deleted
  exact sound'.deleteTemplate fun row found =>
    Store.ownTemplate_later reading sound'.numbered moved own found

theorem markAllNotificationsRead_own (sound : s.Intact) :
    (markAllNotificationsRead now actor).Sat (Within Store.Intact Store.Evolves)
      (fun _ s s' => s' = s ∨ OwnWrite actor s s') (fun _ _ _ => True) history s := by
  refine sat_commit (fun _ _ => .inl rfl) fun s' value after moved done => ⟨.inr ?_, trivial⟩
  obtain ⟨-, rfl⟩ := Prod.mk.inj (Except.ok.inj done)
  exact (sound.within moved).markRead now

end Outlines

end PocketMint
