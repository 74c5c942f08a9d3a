import PocketMint.Services.Notification

/-! The pages of a user's reminders hold each matching reminder once, from the latest to the earliest. -/

namespace PocketMint

open NotificationService

/-- The strict order of a list of reminders: a later reminder date first, and of one date a later row. -/
def RecurringReminderEvent.Before (row other : RecurringReminderEvent) : Prop :=
  other.reminderDate < row.reminderDate ∨ other.reminderDate = row.reminderDate ∧ other.id < row.id

namespace NotificationService

instance : Std.Total NotBefore where
  total row other := by
    -- Of one date, the rows are compared by their keys.
    rcases lt_trichotomy row.reminderDate other.reminderDate with before | same | after
    · exact .inr (.inl before)
    · rcases le_total row.id other.id with less | more
      · exact .inr (.inr ⟨same, less⟩)
      · exact .inl (.inr ⟨same.symm, more⟩)
    · exact .inl (.inl after)

instance : IsTrans RecurringReminderEvent NotBefore where
  trans first second third := by
    rintro (earlier | ⟨same, less⟩) (earlier' | ⟨same', less'⟩)
    · exact .inl (earlier'.trans earlier)
    · exact .inl (same' ▸ earlier)
    · exact .inl (same ▸ earlier')
    · exact .inr ⟨same'.trans same, less'.trans less⟩

/-- The limit is positive, whatever is asked for. -/
theorem limit_pos (page limit : Option Numeric) : 0 < (resolvePagination page limit).2 := by
  -- An integer that is no positive one is left out before the default is put in its place.
  simp only [resolvePagination, positiveInteger]
  cases number : (limit.bind Numeric.toInteger).filter fun number => 0 < number with
  | none => decide
  | some value =>
    have positive := (Option.filter_eq_some_iff.mp number).2
    simp only [decide_eq_true_eq] at positive
    simp only [Option.map_some, Option.getD_some, maxLimit]
    omega

/-- A positive page is the page that is listed, and the limit does not depend on it. -/
theorem resolvePagination_page {page : Nat} (positive : 0 < page) (limit : Option Numeric) :
    resolvePagination (some (.finite page)) limit = (page, (resolvePagination none limit).2) := by
  simp [resolvePagination, positiveInteger, Numeric.toInteger, Option.filter, positive]

/-- As many pages as are counted hold so many rows, and no fewer pages do. -/
theorem totalPages_le_iff {total size count : Nat} (positive : 0 < size) :
    max 1 ⌈(total : ℚ) / size⌉₊ ≤ count ↔ 1 ≤ count ∧ total ≤ count * size := by
  have least : (0 : ℚ) < size := by exact_mod_cast positive
  rw [max_le_iff, Nat.ceil_le, div_le_iff₀ least]
  exact_mod_cast Iff.rfl

end NotificationService

namespace Store

variable (s : Store) (userId : Id) (filter : Option NotificationFilter)

/-- The listed reminders are those that match. -/
theorem listedEvents_perm :
    (s.listedEvents userId filter).Perm (s.events.rows.filter fun row => Listed userId filter row) :=
  List.perm_insertionSort _ _

/-- No row is listed twice. -/
theorem listedEvents_nodup : ((s.listedEvents userId filter).map RecurringReminderEvent.id).Nodup := by
  -- Rows keep their keys apart when they are filtered and sorted.
  have apart : ((s.events.rows.filter fun row => Listed userId filter row).map Keyed.key).Nodup :=
    s.events.unique.sublist (List.filter_sublist.map _)
  exact ((listedEvents_perm s userId filter).map _).nodup_iff.mpr apart

theorem listedEvents_before : (s.listedEvents userId filter).Pairwise RecurringReminderEvent.Before := by
  -- The order is total up to equal rows, and equal rows have equal keys.
  have sorted : (s.listedEvents userId filter).Pairwise NotBefore := List.pairwise_insertionSort _ _
  have apart := List.pairwise_map.mp (listedEvents_nodup s userId filter)
  refine sorted.imp₂ ?_ apart
  intro row other order distinct
  rcases order with earlier | ⟨same, less⟩
  · exact .inl earlier
  · exact .inr ⟨same, lt_of_le_of_ne less (Ne.symm distinct)⟩

/-- The number of matching reminders is that of the listed ones. -/
theorem length_listedEvents :
    (s.listedEvents userId filter).length = s.events.rows.countP fun row => Listed userId filter row := by
  rw [List.countP_eq_length_filter, (listedEvents_perm s userId filter).length_eq]

/-- What a list answers for a page. -/
def listedPage (limit : Option Numeric) (page : Nat) : ListNotificationsResult :=
  let size := (resolvePagination none limit).2
  let total := s.events.rows.countP fun row => Listed userId filter row
  let totalPages := max 1 ⌈(total : ℚ) / size⌉₊
  { items := (pageAt size (s.listedEvents userId filter) (page - 1)).map s.includeEvent
    pagination := { page, limit := size, total, totalPages, hasMore := page < totalPages } }

theorem run_listNotifications (limit : Option Numeric) {page : Nat} (positive : 0 < page) :
    (listNotifications { userId, page := some (.finite page), limit, filter }).run s =
      (.ok (s.listedPage userId filter limit page), s) := by
  simp only [listNotifications, resolvePagination_page positive limit]
  rfl

end Store

/--
For every limit and filter, the pages up to the last hold each matching reminder of the user once, in
descending order; all but the last are full, those after it are empty, and there is more after a page
exactly when a later page has an item.
-/
theorem listNotifications_pages (s : Store) (userId : Id) (filter : Option NotificationFilter)
    (limit : Option Numeric) :
    let size := (resolvePagination none limit).2
    ∃ (pages : Nat → ListNotificationsResult) (totalPages : Nat),
      (∀ page : Nat, 0 < page →
        (listNotifications { userId, page := some (.finite page), limit, filter }).run s =
            (.ok (pages page), s) ∧
          (pages page).pagination.totalPages = totalPages ∧ (pages page).pagination.limit = size) ∧
      (let listed := ((List.range totalPages).flatMap fun index => (pages (index + 1)).items).map
          NotificationWithTemplate.event;
        listed.Perm (s.events.rows.filter fun row => Listed userId filter row) ∧
          (listed.map RecurringReminderEvent.id).Nodup ∧
          listed.Pairwise RecurringReminderEvent.Before) ∧
      (∀ page, 0 < page → page < totalPages → (pages page).items.length = size) ∧
      (∀ page, totalPages < page → (pages page).items = []) ∧
      ∀ page, 0 < page →
        ((pages page).pagination.hasMore = true ↔
          ∃ later, page < later ∧ ∃ item, item ∈ (pages later).items) := by
  intro size
  have positive : 0 < size := limit_pos none limit
  have total := s.length_listedEvents userId filter
  set events := s.listedEvents userId filter with listing
  -- The pages are counted by the number of reminders that are listed.
  have counted : ∀ count, max 1 ⌈(events.length : ℚ) / size⌉₊ ≤ count ↔
      1 ≤ count ∧ events.length ≤ count * size := fun count => totalPages_le_iff positive
  have pagesTotal : ∀ page, (s.listedPage userId filter limit page).pagination.totalPages =
      max 1 ⌈(events.length : ℚ) / size⌉₊ := by
    intro page
    simp only [Store.listedPage, total, size]
  generalize max 1 ⌈(events.length : ℚ) / size⌉₊ = totalPages at counted pagesTotal
  refine ⟨s.listedPage userId filter limit, totalPages, ?_, ?_, ?_, ?_, ?_⟩
  -- Each page is an answer of the service, and reading changes nothing.
  · intro page first
    exact ⟨s.run_listNotifications userId filter limit first, pagesTotal page, rfl⟩
  · -- All pages together are the whole list.
    have whole : ((List.range totalPages).flatMap fun index =>
        (s.listedPage userId filter limit (index + 1)).items).map NotificationWithTemplate.event =
            events := by
      have enough := ((counted totalPages).mp (le_refl _)).2
      have items : ∀ index, ((s.listedPage userId filter limit (index + 1)).items).map
          NotificationWithTemplate.event = pageAt size events index := by
        intro index
        simp only [Store.listedPage, Nat.add_sub_cancel, List.map_map]
        exact List.map_id _
      rw [List.map_flatMap]
      simp only [items]
      rw [flatMap_pageAt, List.take_of_length_le enough]
    simp only [whole]
    exact ⟨s.listedEvents_perm userId filter, s.listedEvents_nodup userId filter,
      s.listedEvents_before userId filter⟩
  · intro page first before
    -- A page that were not full would be enough as the last.
    have within : page * size ≤ events.length := by
      by_contra short
      exact absurd ((counted page).mpr ⟨first, (not_le.mp short).le⟩) (not_le.mpr before)
    rw [Store.listedPage, List.length_map]
    apply length_pageAt_eq
    rwa [Nat.sub_add_cancel first]
  -- A page behind the last begins after the end of the list.
  · intro page after
    have enough := ((counted (page - 1)).mp (by omega)).2
    rw [Store.listedPage, pageAt_eq_nil size events enough, List.map_nil]
  · intro page first
    have more : (s.listedPage userId filter limit page).pagination.hasMore = true ↔ page < totalPages := by
      rw [← pagesTotal page]
      exact decide_eq_true_iff
    -- More pages follow exactly if a later page has an item.
    rw [more]
    have holds : ∀ later, (∃ item, item ∈ (s.listedPage userId filter limit later).items) ↔
        (later - 1) * size < events.length := by
      intro later
      rw [← exists_mem_pageAt_iff size events positive]
      simp only [Store.listedPage, List.mem_map, ← listing]
      constructor
      · rintro ⟨_, row, member, -⟩
        exact ⟨row, member⟩
      · rintro ⟨row, member⟩
        exact ⟨_, row, member, rfl⟩
    constructor
    · intro before
      -- The next page begins where this one ends, which is before the end of the list.
      refine ⟨page + 1, Nat.lt_succ_self page, (holds (page + 1)).mpr ?_⟩
      rw [Nat.add_sub_cancel]
      by_contra short
      exact absurd ((counted page).mpr ⟨first, not_lt.mp short⟩) (not_le.mpr before)
    -- Conversely, an item on a later page lies beyond what the pages up to this one hold.
    · rintro ⟨later, after, item⟩
      by_contra last
      have enough := ((counted page).mp (not_lt.mp last)).2
      have begins := (holds later).mp item
      have further : page * size ≤ (later - 1) * size := Nat.mul_le_mul_right size (by omega)
      omega

end PocketMint
