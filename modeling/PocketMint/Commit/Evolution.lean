import PocketMint.Commit.Request

/-! No write of any request makes an old row anew or changes a frozen column. -/

namespace PocketMint

/-- Every write lets the store evolve. -/
theorem Commit.evolves {between : Store → Store → Prop} {zone : Zone} {call : Call}
    {seen : List Store} {s s' : Store} (commit : Commit between zone call seen s s') :
    s.Evolves s' := by
  -- Inserted rows take the next identifiers, and what is edited keeps its frozen fields.
  cases commit with
  | walletCreated asked made =>
    rw [made.after]
    exact { Store.Evolves.refl s with
      nextId := Nat.le_succ _
      wallets := .insert Wallet.Frozen.refl made.id.ge made.inserted }
  | walletEdited asked made =>
    rw [made.after]
    exact { Store.Evolves.refl s with
      -- An edit leaves the owner, the opening balance and the instant of creation.
      wallets := .update Wallet.Frozen.refl fun _ _ => by exact ⟨rfl, rfl, rfl⟩ }
  | walletDeleted asked made =>
    rw [made.after]
    exact .deleteWallet s _
  | regularCreated asked made =>
    rw [made.after]
    have fresh : s.nextId ≤ _ := (congrArg Transaction.id made.shape).ge
    exact (Store.Evolves.insertTransaction fresh (Nat.le_succ _) made.inserted).trans (.credit _ _)
  | creditCreated asked made =>
    rw [made.after]
    -- The plan takes the next identifier and the row the one after it.
    have backing := (congrArg Installment.id made.backing).ge
    have fresh : s.nextId ≤ _ := (Nat.le_succ _).trans (congrArg Transaction.id made.shape).ge
    refine Store.Evolves.trans ?_ (.credit _ _)
    exact { Store.Evolves.refl s with
      nextId := Nat.le_add_right _ _
      installments := .insert Installment.Frozen.refl backing made.backed
      transactions := .insert Transaction.Frozen.refl fresh made.inserted }
  | transactionUpdated asked made =>
    rw [made.after]
    -- The row is rewritten, and then the old effect is taken back and the new one is added.
    refine Store.Evolves.trans (Store.Evolves.trans ?_ (.credit _ _)) (.credit _ _)
    exact { Store.Evolves.refl s with
      transactions := .update Transaction.Frozen.refl fun _ _ => by exact ⟨rfl, rfl, rfl⟩ }
  | regularDeleted asked made =>
    rw [made.after]
    exact (Store.Evolves.deleteTransaction s _).trans (.credit _ _)
  | installmentDeleted asked made =>
    rw [made.after]
    -- The plan goes with its row where the row still names one.
    refine Store.Evolves.trans ?_ (.credit _ _)
    split
    · exact (Store.Evolves.deleteTransaction s _).trans (.deleteInstallment _ _)
    · exact .deleteTransaction s _
  | installmentPaid asked made =>
    rw [made.after]
    have fresh : s.nextId ≤ _ := (congrArg Transaction.id made.shape).ge
    -- The transfer is inserted and the plan advanced before the balances move.
    refine Store.Evolves.trans ?_ (.credit _ _)
    exact { Store.Evolves.refl s with
      nextId := Nat.le_succ _
      transactions := .insert Transaction.Frozen.refl fresh made.inserted
      installments := .update Installment.Frozen.refl fun _ _ => by exact ⟨rfl, rfl, rfl, rfl, rfl⟩ }
  | templateCreated asked made =>
    rw [made.after]
    have fresh := (congrArg RecurringTransactionTemplate.id made.shape).ge
    exact { Store.Evolves.refl s with
      nextId := Nat.le_succ _
      templates := .insert RecurringTransactionTemplate.Frozen.refl fresh made.inserted }
  | templateEdited asked made =>
    rw [made.after]
    exact { Store.Evolves.refl s with
      templates := .update RecurringTransactionTemplate.Frozen.refl fun _ _ => by exact rfl }
  | templateReminded asked made =>
    rw [made.after]
    exact .insertEvent (congrArg RecurringReminderEvent.id made.shape) made.inserted
  | installmentReminded asked made =>
    rw [made.after]
    exact .insertEvent (congrArg RecurringReminderEvent.id made.shape) made.inserted
  | eventRead asked made =>
    rw [made.after]
    exact .updateEvent fun _ _ => ⟨rfl, rfl, rfl, rfl, rfl, fun _ same => same⟩
  | reminderConfirmed asked made =>
    rw [made.after]
    -- The posting is inserted and the reminder completed before the balances move.
    have fresh : s.nextId ≤ _ := (congrArg Transaction.id made.shape).ge
    refine Store.Evolves.trans (Store.Evolves.trans
      (.insertTransaction fresh (Nat.le_succ _) made.inserted) (.updateEvent fun event found => ?_))
      (.credit _ _)
    -- Only a reminder that waits is completed, so no completion is overwritten.
    obtain ⟨waiting, own, waits⟩ := made.waiting
    obtain rfl : waiting = event :=
      Option.some.inj ((Store.ownEvent_eq_some.mp own).1.symm.trans found)
    exact ⟨rfl, rfl, rfl, rfl, rfl, fun instant same => by simp [waits] at same⟩
  | categoryCreated asked made =>
    rw [made.after]
    have fresh := (congrArg Category.id made.shape).ge
    exact { Store.Evolves.refl s with
      nextId := Nat.le_succ _
      categories := .insert (fun _ => rfl) fresh made.inserted }

/-- Every write draws the identifiers of its new rows from the counter. -/
theorem Commit.numbered {between : Store → Store → Prop} {zone : Zone} {call : Call}
    {seen : List Store} {s s' : Store} (commit : Commit between zone call seen s s')
    (numbered : s.Numbered) : s'.Numbered := by
  -- A commit numbers the rows it inserts from the next identifier, and moves that one past them.
  -- Rows that are edited keep their identifiers, and rows that remain keep theirs.
  cases commit with
  | walletCreated asked made =>
    rw [made.after]
    exact { numbered.later (Nat.le_succ _) with
      wallets := numbered.wallets.insert (Nat.lt_succ_of_le made.id.le) (Nat.le_succ _) made.inserted }
  | walletEdited asked made =>
    rw [made.after]
    exact { numbered with wallets := numbered.wallets.update }
  | walletDeleted asked made =>
    rw [made.after]
    exact numbered.deleteWallet _
  | regularCreated asked made =>
    rw [made.after]
    have named := Nat.lt_succ_of_le (congrArg Transaction.id made.shape).le
    exact (numbered.insertTransaction named (Nat.le_succ _) made.inserted).credit _
  | creditCreated asked made =>
    rw [made.after]
    -- The plan and the row take two identifiers.
    have backing := (congrArg Installment.id made.backing).trans_lt (Nat.lt_add_of_pos_right two_pos)
    have named := Nat.lt_succ_of_le (congrArg Transaction.id made.shape).le
    have grows := Nat.le_add_right s.nextId 2
    refine Store.Numbered.credit ?_ _
    exact { numbered.later grows with
      installments := numbered.installments.insert backing grows made.backed
      transactions := numbered.transactions.insert named grows made.inserted }
  | transactionUpdated asked made =>
    rw [made.after]
    refine (Store.Numbered.credit ?_ _).credit _
    exact { numbered with transactions := numbered.transactions.update }
  | regularDeleted asked made =>
    rw [made.after]
    exact (numbered.deleteTransaction _).credit _
  | installmentDeleted asked made =>
    -- The plan is deleted or already gone.
    rw [made.after]
    split
    · exact ((numbered.deleteTransaction _).deleteInstallment _).credit _
    · exact (numbered.deleteTransaction _).credit _
  | installmentPaid asked made =>
    rw [made.after]
    have named := Nat.lt_succ_of_le (congrArg Transaction.id made.shape).le
    refine Store.Numbered.credit ?_ _
    exact { numbered.insertTransaction named (Nat.le_succ _) made.inserted with
      installments := (numbered.installments.mono (Nat.le_succ _)).update }
  | templateCreated asked made =>
    rw [made.after]
    have named := Nat.lt_succ_of_le (congrArg RecurringTransactionTemplate.id made.shape).le
    exact { numbered.later (Nat.le_succ _) with
      templates := numbered.templates.insert named (Nat.le_succ _) made.inserted }
  | templateEdited asked made =>
    rw [made.after]
    exact { numbered with templates := numbered.templates.update }
  | templateReminded asked made =>
    rw [made.after]
    exact numbered.insertEvent (congrArg RecurringReminderEvent.id made.shape) made.inserted
  | installmentReminded asked made =>
    rw [made.after]
    exact numbered.insertEvent (congrArg RecurringReminderEvent.id made.shape) made.inserted
  | eventRead asked made =>
    rw [made.after]
    exact { numbered with events := numbered.events.update }
  | reminderConfirmed asked made =>
    rw [made.after]
    have named := Nat.lt_succ_of_le (congrArg Transaction.id made.shape).le
    refine Store.Numbered.credit ?_ _
    exact { numbered.insertTransaction named (Nat.le_succ _) made.inserted with
      events := (numbered.events.mono (Nat.le_succ _)).update }
  | categoryCreated asked made =>
    rw [made.after]
    have named := Nat.lt_succ_of_le (congrArg Category.id made.shape).le
    exact { numbered.later (Nat.le_succ _) with
      categories := numbered.categories.insert named (Nat.le_succ _) made.inserted }

end PocketMint
