import PocketMint.Commit.Transaction
import PocketMint.Services.InstallmentPayment

/-! What the instalment payment service's requests can write. -/

namespace PocketMint

open Prog InstallmentPaymentService

/-- The payment of a term, from the instalment and the source wallet the request has read. -/
structure InstallmentPaid (between : Store → Store → Prop) (zone : Zone) (now : Instant)
    (seen : List Store) (input : PayInstallmentInput) (installment : Installment)
    (walletName : String) (source : Wallet) (date due : Instant) (row : Transaction)
    (rows : Table Transaction) (s s' : Store) : Prop where
  read : ∃ s₁, seen.head? = some s₁ ∧ between s₁ s ∧
    s₁.ownInstallment input.installmentId input.userId = some installment
  active : installment.status = .active
  unpaid : installment.paidTerms < installment.installmentMonths
  positive : 0 < expectedAmount installment
  held : Before between (fun s₂ => s₂.ownWallet source.id input.userId = some source) s
  named : input.sourceWalletId = .given source.id
  asset : source.type.isAsset
  funded : expectedAmount installment ≤ source.balance
  dated : nextDueDate zone now installment = .ok due
  shape : row =
    paymentRow now input source.id installment walletName (expectedAmount installment) date s.nextId
  keys : s.TransactionKeys row
  inserted : s.transactions.insert? row = some rows
  found : (s.installments.find? installment.id).isSome
  after : s' = Store.credit
    { s with
      nextId := s.nextId + 1
      transactions := rows
      installments := s.installments.update installment.id (advanced installment due) }
    (plainDeltas row.type row.amount row.walletId row.toWalletId)

/-- A payment is of exactly the amount of the next term, which is positive. -/
theorem paymentAmount_ok {installment : Installment} {sent : Option DecimalInput} {amount : Decimal}
    (paid : paymentAmount installment sent = .ok amount) :
    amount = expectedAmount installment ∧ 0 < amount := by
  unfold paymentAmount at paid
  -- The amount that is sent must be the expected one, which is taken where none is sent.
  cases sent with
  | none =>
    simp only at paid
    split at paid
    · cases paid
    · rename_i positive
      cases paid
      exact ⟨rfl, lt_of_not_ge positive⟩
  | some sent =>
    simp only at paid
    -- A sent amount is parsed first, and then tested for its sign and against the expected one.
    split at paid <;> try cases paid
    split at paid <;> try cases paid
    rename_i positive
    split at paid <;> try cases paid
    rename_i same
    exact ⟨same, lt_of_not_ge positive⟩

/-- The write of a payment inserts its transfer, moves the amount, and advances the instalment. -/
theorem writePayment_ok {now : Instant} {input : PayInstallmentInput} {sourceWalletId : Id}
    {installment : Installment} {walletName : String} {amount : Decimal} {date due : Instant}
    {value : PayInstallmentResult} {s after : Store}
    (done : writePayment now input sourceWalletId installment walletName amount date due s =
      .ok (value, after)) :
    ∃ row rows,
      row = paymentRow now input sourceWalletId installment walletName amount date s.nextId ∧
      s.TransactionKeys row ∧ s.transactions.insert? row = some rows ∧
      (s.installments.find? installment.id).isSome ∧ value.transaction = row ∧
      after = Store.credit
        { s with
          nextId := s.nextId + 1
          transactions := rows
          installments := s.installments.update installment.id (advanced installment due) }
        (plainDeltas row.type row.amount row.walletId row.toWalletId) := by
  -- The steps are the insert, the deltas and the update of the instalment; the others read.
  obtain ⟨row, s₁, created, done⟩ := Tx.bind_ok.mp done
  -- The row has the next identifier and passes its keys.
  obtain ⟨rfl, keys, rows, inserted, rfl⟩ := Tx.createTransaction_ok.mp created
  obtain ⟨_, s₂, viewed, done⟩ := Tx.bind_ok.mp done
  obtain ⟨-, rfl⟩ := Tx.view_ok.mp viewed
  obtain ⟨_, s₃, viewedTo, done⟩ := Tx.bind_ok.mp done
  obtain ⟨-, rfl⟩ := Tx.view_ok.mp viewedTo
  obtain ⟨effect, s₄, lifted, done⟩ := Tx.bind_ok.mp done
  obtain ⟨computed, rfl⟩ := Tx.lift_ok.mp lifted
  -- The deltas of a transfer are the plain ones of its row.
  obtain ⟨-, rfl⟩ := computeBalanceEffect_ok.mp computed
  obtain ⟨_, s₅, applied, done⟩ := Tx.bind_ok.mp done
  obtain ⟨-, rfl⟩ := applyBalanceDeltas_ok.mp applied
  obtain ⟨updated, s₆, advancing, done⟩ := Tx.bind_ok.mp done
  -- The plan was found and is advanced to its next due date.
  obtain ⟨stored, found, -, -, rfl⟩ := Tx.updateInstallment_ok.mp advancing
  obtain ⟨_, s₇, viewedWallet, done⟩ := Tx.bind_ok.mp done
  obtain ⟨-, rfl⟩ := Tx.view_ok.mp viewedWallet
  obtain ⟨rfl, rfl⟩ := Tx.pure_ok.mp done
  have present : s.installments.find? installment.id = some stored := found
  exact ⟨_, rows, rfl, keys, inserted, by simp [present], rfl, rfl⟩

/-- The writes of a payment. -/
def PaymentWrites (between : Store → Store → Prop) (zone : Zone) (now : Instant)
    (input : PayInstallmentInput) (seen : List Store) (s s' : Store) : Prop :=
  ∃ installment walletName source date due row rows,
    InstallmentPaid between zone now seen input installment walletName source date due row rows s s'

/-- Paying an instalment writes nothing but one term's payment. -/
theorem payInstallment_sat {between : Store → Store → Prop} {s : Store} {zone : Zone}
    {now : Instant} {input : PayInstallmentInput}
    (chain : ∀ {a b c}, between a b → between b c → between a c) :
    (payInstallment zone now input).Sat between
      (fun seen s s' => s' = s ∨ PaymentWrites between zone now input seen s s')
      (fun answer => Wrote (PaymentWrites between zone now input) none answer.transaction)
      [] s := by
  unfold payInstallment
  -- The checks follow the source, and the two reads are kept for the one write.
  refine sat_ofExcept_bind fun date _ => ?_
  refine sat_query_bind fun s₁ _ => sat_orThrow_bind fun ⟨installment, walletName⟩ found => ?_
  refine sat_throwIf_bind fun active => sat_throwIf_bind fun unpaid => ?_
  refine sat_ofExcept_bind fun amount paid => ?_
  refine sat_query_bind fun s₂ moved₂ => sat_orThrow_bind fun source foundSource => ?_
  refine sat_throwIf_bind fun asset => sat_throwIf_bind fun funded => ?_
  refine sat_ofExcept_bind fun due dated => ?_
  refine sat_commit (fun _ _ => .inl rfl) fun s' _ after moved done => ?_
  -- The plan is the user's own, with the wallet that it is charged on.
  obtain ⟨row, own, same⟩ := Option.map_eq_some_iff.mp found
  obtain ⟨rfl, -⟩ := by simpa using same
  obtain ⟨rfl, positive⟩ := paymentAmount_ok paid
  obtain ⟨transfer, rows, shape, keys, inserted, present, answered, rfl⟩ := writePayment_ok done
  -- What is left to show is the record of the write, from which the answer follows.
  suffices writes : PaymentWrites between zone now input [s₁, s₂] s' _ by
    rw [answered]
    exact ⟨.inr writes, .now writes (.insert inserted rfl)⟩
  -- The source wallet was read by its identifier, and it is the user's own.
  obtain ⟨sourceId, named, foundSource⟩ := Option.bind_eq_some_iff.mp foundSource
  obtain rfl : source.id = sourceId := Table.key_of_find? (Store.ownWallet_eq_some.mp foundSource).1
  refine ⟨row, walletName, source, date, due, transfer, rows, ⟨s₁, rfl, chain moved₂ moved, own⟩,
    by simpa using active, by omega, positive, ⟨s₂, moved, foundSource⟩, ?_, by simpa using asset,
    by simpa using funded, dated, shape, keys, inserted, present, rfl⟩
  -- The source that is named is the one that was sent.
  cases sent : input.sourceWalletId <;> simp_all [Arg.truthy]

end PocketMint
