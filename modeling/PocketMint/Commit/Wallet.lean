import PocketMint.Services.Wallet
import PocketMint.Store.ClientLaws

/-! What the wallet service's requests can write. -/

namespace PocketMint

open Prog

/-- The creation of a wallet. -/
structure WalletCreated (now : Instant) (input : CreateWalletInput) (row : Wallet)
    (rows : Table Wallet) (s s' : Store) : Prop where
  id : row.id = s.nextId
  user : row.userId = input.userId
  seeded : row.initialBalance = row.balance
  created : row.createdAt = now
  asset : row.type.isAsset → 0 ≤ row.balance
  credit : row.type.isCredit → row.balance = 0
  inserted : s.wallets.insert? row = some rows
  after : s' = { s with nextId := s.nextId + 1, wallets := rows }

/-- The update of a wallet, which the request has read as its user's. -/
structure WalletEdited (between : Store → Store → Prop) (input : UpdateWalletInput)
    (creditLimit interestRate adminFee : Option Decimal) (s s' : Store) : Prop where
  owned : Before between (fun s₁ => (s₁.ownWallet input.walletId input.userId).isSome) s
  found : (s.wallets.find? input.walletId).isSome
  after : s' = { s with
    wallets := s.wallets.update input.walletId (editedWallet input creditLimit interestRate adminFee) }

/-- The deletion of a wallet, behind gates that the request has checked. -/
structure WalletDeleted (between : Store → Store → Prop) (input : DeleteWalletInput) (s s' : Store) :
    Prop where
  owned : Before between (fun s₁ => (s₁.ownWallet input.walletId input.userId).isSome) s
  noTransfer : Before between (fun s₂ => s₂.transferCount input.userId input.walletId = 0) s
  noHistory : Before between
    (fun s₃ => s₃.transactionCount input.userId input.walletId = 0 ∨ input.force) s
  found : (s.wallets.find? input.walletId).isSome
  after : s' = s.deleteWallet input.walletId

/-- A column takes only finite numbers. -/
theorem columnValue_ok {number : Numeric} {value : Decimal} :
    columnValue number = .ok value ↔ number = .finite value := by
  cases number <;> simp [columnValue]

/-- A new asset wallet opens with what the client sent, and a new credit wallet with nothing. -/
theorem opening_sign {type : WalletType} {given : Numeric} {principal : Option DecimalInput}
    {opening : Decimal} (nonnegative : ¬(type.isAsset ∧ given.IsLess 0))
    (opened : columnValue (openingBalance type given principal) = .ok opening) :
    (type.isAsset → 0 ≤ opening) ∧ (type.isCredit → opening = 0) := by
  rw [columnValue_ok] at opened
  cases type <;> simp_all [WalletType.isAsset, WalletType.isCredit, openingBalance, Numeric.IsLess]

section Wallet

variable {between : Store → Store → Prop} {s : Store} {history : List Store}

/-- Creating a wallet writes nothing but the wallet. -/
theorem createWallet_sat {now : Instant} {input : CreateWalletInput} :
    (createWallet now input).Sat between
      (fun _ s s' => s' = s ∨ ∃ row rows, WalletCreated now input row rows s s')
      (fun _ _ _ => True) history s := by
  unfold createWallet
  -- The inputs are checked before anything is read or written.
  refine sat_throwIf_bind fun _ => sat_throwIf_bind fun _ => sat_throwIf_bind fun _ => ?_
  refine sat_ofExcept_bind fun _ _ => sat_ofExcept_bind fun _ _ => ?_
  refine sat_ofExcept_bind fun given _ => ?_
  refine sat_throwIf_bind fun nonnegative => sat_throwIf_bind fun _ => ?_
  refine sat_throwIf_bind fun _ => sat_throwIf_bind fun _ => ?_
  refine sat_ofExcept_bind fun opening opened => sat_ofExcept_bind fun creditLimit _ => ?_
  refine sat_ofExcept_bind fun interestRate _ => sat_ofExcept_bind fun adminFee _ => ?_
  refine sat_commit (fun _ _ => .inl rfl) fun s' value after _ done => ⟨.inr ?_, trivial⟩
  -- The new wallet takes the next identifier.
  obtain ⟨rfl, -, rows, inserted, rfl⟩ := Tx.insert_ok.mp done
  -- What was checked of the sent balance holds of the stored one.
  have sign := opening_sign nonnegative opened
  exact ⟨_, rows, rfl, rfl, rfl, rfl, sign.1, sign.2, inserted, rfl⟩

/-- Updating a wallet rewrites nothing but the fields of that wallet it was sent. -/
theorem updateWallet_sat {input : UpdateWalletInput} :
    (updateWallet input).Sat between
      (fun _ s s' => s' = s ∨ ∃ creditLimit interestRate adminFee,
        WalletEdited between input creditLimit interestRate adminFee s s')
      (fun _ _ _ => True) history s := by
  unfold updateWallet
  -- The checks before the write refuse inputs, and none of them matters to what is written.
  refine sat_throwIf_bind fun _ => ?_
  refine sat_ofExcept_bind fun _ _ => sat_ofExcept_bind fun _ _ => ?_
  refine sat_query_bind fun s₁ _ => sat_orThrow_bind fun owned found => ?_
  refine sat_throwIf_bind fun _ => ?_
  refine sat_ofExcept_bind fun creditLimit _ => sat_ofExcept_bind fun _ _ => ?_
  refine sat_ofExcept_bind fun interestRate _ => sat_ofExcept_bind fun adminFee _ => ?_
  refine sat_commit (fun _ _ => .inl rfl) fun s' value after moved done => ⟨.inr ?_, trivial⟩
  -- The wallet must exist at the write.
  obtain ⟨row, present, -, -, rfl⟩ := Tx.modify_ok.mp done
  exact ⟨creditLimit, interestRate, adminFee, ⟨s₁, moved, by simp [found]⟩, by simp [present], rfl⟩

/-- Deleting a wallet writes nothing but its deletion, once its gates have passed. -/
theorem deleteWallet_sat {input : DeleteWalletInput}
    (chain : ∀ {a b c}, between a b → between b c → between a c) :
    (deleteWallet input).Sat between
      (fun _ s s' => s' = s ∨ WalletDeleted between input s s')
      (fun _ _ _ => True) history s := by
  unfold deleteWallet
  refine sat_query_bind fun s₁ _ => sat_orThrow_bind fun owned found => ?_
  -- The two counts are read one after the other, each in a store of its own.
  refine sat_query_bind fun s₂ moved₂ => sat_throwIf_bind fun noTransfer => ?_
  refine sat_query_bind fun s₃ moved₃ => sat_throwIf_bind fun noHistory => ?_
  refine sat_commit (fun _ _ => .inl rfl) fun s' value after moved done => ⟨.inr ?_, trivial⟩
  -- The wallet must still exist, and what depends on it goes with it.
  obtain ⟨_, _, deleted, done⟩ := Tx.bind_ok.mp done
  obtain ⟨present, rfl⟩ := Tx.delete_ok.mp deleted
  obtain ⟨-, rfl⟩ := Tx.pure_ok.mp done
  refine ⟨⟨s₁, chain moved₂ (chain moved₃ moved), by simp [found]⟩, ⟨s₂, chain moved₃ moved, ?_⟩,
    ⟨s₃, moved, ?_⟩, present, rfl⟩
  · omega
  -- A wallet with history is deleted by force alone.
  · by_cases forced : input.force
    · exact .inr forced
    · exact .inl (Nat.eq_zero_of_not_pos fun history => noHistory ⟨history, forced⟩)

end Wallet

end PocketMint
