import PocketMint.Relational.Continues
import PocketMint.Store.ClientLaws

/-! What no request changes: who gave a row its identifier, and the frozen columns of every row. -/

namespace PocketMint

/-! The columns of a row that no write of any service changes. -/

def Wallet.Frozen (row row' : Wallet) : Prop :=
  row'.userId = row.userId ∧ row'.initialBalance = row.initialBalance ∧ row'.createdAt = row.createdAt

def Transaction.Frozen (row row' : Transaction) : Prop :=
  row'.userId = row.userId ∧ row'.isInstallment = row.isInstallment ∧ row'.createdAt = row.createdAt

def Installment.Frozen (row row' : Installment) : Prop :=
  row'.userId = row.userId ∧ row'.walletId = row.walletId ∧ row'.grandTotal = row.grandTotal ∧
  row'.monthlyAmount = row.monthlyAmount ∧ row'.installmentMonths = row.installmentMonths

def RecurringTransactionTemplate.Frozen (row row' : RecurringTransactionTemplate) : Prop :=
  row'.userId = row.userId

/-- A reminder keeps what it reminds of, and once completed it stays completed. -/
def RecurringReminderEvent.Frozen (row row' : RecurringReminderEvent) : Prop :=
  row'.templateId = row.templateId ∧ row'.installmentId = row.installmentId ∧
  row'.userId = row.userId ∧ row'.occurrenceDate = row.occurrenceDate ∧
  row'.offsetDays = row.offsetDays ∧
  ∀ instant, row.completedAt = some instant → row'.completedAt = some instant

namespace Store

/-- A later store makes no old row anew and keeps the frozen columns of those it still has. -/
structure Evolves (s s' : Store) : Prop where
  nextId : s.nextId ≤ s'.nextId
  categories : s.categories.Continues s.nextId Eq s'.categories
  wallets : s.wallets.Continues s.nextId Wallet.Frozen s'.wallets
  transactions : s.transactions.Continues s.nextId Transaction.Frozen s'.transactions
  installments : s.installments.Continues s.nextId Installment.Frozen s'.installments
  templates : s.templates.Continues s.nextId RecurringTransactionTemplate.Frozen s'.templates
  events : s.events.Continues s.nextId RecurringReminderEvent.Frozen s'.events

end Store

/-! Every frozen part is a preorder. -/

theorem Wallet.Frozen.refl (row : Wallet) : row.Frozen row := ⟨rfl, rfl, rfl⟩

theorem Wallet.Frozen.trans {a b c : Wallet} : a.Frozen b → b.Frozen c → a.Frozen c := by
  simp only [Wallet.Frozen]; grind

theorem Transaction.Frozen.refl (row : Transaction) : row.Frozen row := ⟨rfl, rfl, rfl⟩

theorem Transaction.Frozen.trans {a b c : Transaction} : a.Frozen b → b.Frozen c → a.Frozen c := by
  simp only [Transaction.Frozen]; grind

theorem Installment.Frozen.refl (row : Installment) : row.Frozen row := ⟨rfl, rfl, rfl, rfl, rfl⟩

theorem Installment.Frozen.trans {a b c : Installment} : a.Frozen b → b.Frozen c → a.Frozen c := by
  simp only [Installment.Frozen]; grind

theorem RecurringTransactionTemplate.Frozen.refl (row : RecurringTransactionTemplate) :
    row.Frozen row := rfl

theorem RecurringTransactionTemplate.Frozen.trans {a b c : RecurringTransactionTemplate}
    (first : a.Frozen b) (second : b.Frozen c) : a.Frozen c := Eq.trans second first

theorem RecurringReminderEvent.Frozen.refl (row : RecurringReminderEvent) : row.Frozen row :=
  ⟨rfl, rfl, rfl, rfl, rfl, fun _ same => same⟩

theorem RecurringReminderEvent.Frozen.trans {a b c : RecurringReminderEvent} :
    a.Frozen b → b.Frozen c → a.Frozen c := by
  simp only [RecurringReminderEvent.Frozen]; grind

namespace Store.Evolves

variable {s s' s'' : Store}

theorem refl (s : Store) : s.Evolves s where
  nextId := Nat.le_refl _
  categories := .refl (fun _ => rfl) _
  wallets := .refl Wallet.Frozen.refl _
  transactions := .refl Transaction.Frozen.refl _
  installments := .refl Installment.Frozen.refl _
  templates := .refl RecurringTransactionTemplate.Frozen.refl _
  events := .refl RecurringReminderEvent.Frozen.refl _

theorem trans (first : s.Evolves s') (second : s'.Evolves s'') : s.Evolves s'' where
  nextId := first.nextId.trans second.nextId
  categories := first.categories.trans Eq.trans first.nextId second.categories
  wallets := first.wallets.trans Wallet.Frozen.trans first.nextId second.wallets
  transactions := first.transactions.trans Transaction.Frozen.trans first.nextId second.transactions
  installments := first.installments.trans Installment.Frozen.trans first.nextId second.installments
  templates :=
    first.templates.trans RecurringTransactionTemplate.Frozen.trans first.nextId second.templates
  events := first.events.trans RecurringReminderEvent.Frozen.trans first.nextId second.events

/-- Inserting a reminder keeps every older row. -/
theorem insertEvent {row : RecurringReminderEvent} {rows : Table RecurringReminderEvent}
    (fresh : row.id = s.nextId) (inserted : s.events.insert? row = some rows) :
    s.Evolves { s with nextId := s.nextId + 1, events := rows } :=
  { refl s with
    nextId := Nat.le_succ _
    events := .insert RecurringReminderEvent.Frozen.refl fresh.ge inserted }

/-- Crediting balances freezes everything else. -/
theorem credit (s : Store) (deltas : List WalletDelta) : s.Evolves (s.credit deltas) :=
  { refl s with wallets := .mapRows fun _ => ⟨rfl, rfl, rfl⟩ }

/-- Deleting a transaction only makes reminders forget it. -/
theorem deleteTransaction (s : Store) (id : Id) : s.Evolves (s.deleteTransaction id) :=
  { refl s with
    transactions := .filter Transaction.Frozen.refl _
    events := .mapRows fun _ => ⟨rfl, rfl, rfl, rfl, rfl, fun _ same => same⟩ }

/-- Deleting an instalment only makes transactions forget it. -/
theorem deleteInstallment (s : Store) (id : Id) : s.Evolves (s.deleteInstallment id) :=
  { refl s with
    installments := .filter Installment.Frozen.refl _
    transactions := .mapRows fun _ => ⟨rfl, rfl, rfl⟩
    events := .filter RecurringReminderEvent.Frozen.refl _ }

/-- Deleting a wallet only makes the rows that stay forget what went with it. -/
theorem deleteWallet (s : Store) (id : Id) : s.Evolves (s.deleteWallet id) :=
  { refl s with
    wallets := .filter Wallet.Frozen.refl _
    transactions := (Table.Continues.filter Transaction.Frozen.refl _).trans
      Transaction.Frozen.trans (Nat.le_refl _) (.mapRows fun _ => ⟨rfl, rfl, rfl⟩)
    installments := .filter Installment.Frozen.refl _
    templates := .filter RecurringTransactionTemplate.Frozen.refl _
    events := (Table.Continues.filter RecurringReminderEvent.Frozen.refl _).trans
      RecurringReminderEvent.Frozen.trans (Nat.le_refl _)
      (.mapRows fun _ => ⟨rfl, rfl, rfl, rfl, rfl, fun _ same => same⟩) }

/-- Inserting a transaction keeps every older row. -/
theorem insertTransaction {row : Transaction} {rows : Table Transaction} {next : Id}
    (fresh : s.nextId ≤ row.id) (grows : s.nextId ≤ next)
    (inserted : s.transactions.insert? row = some rows) :
    s.Evolves { s with nextId := next, transactions := rows } :=
  { refl s with
    nextId := grows
    transactions := .insert Transaction.Frozen.refl fresh inserted }

/-- Rewriting an event that waits, or without completing it, keeps what it reminds of. -/
theorem updateEvent {id : Id} {rewrite : RecurringReminderEvent → RecurringReminderEvent}
    {keeps : ∀ row, (rewrite row).id = row.id}
    (kept : ∀ row, s.events.find? id = some row → row.Frozen (rewrite row)) :
    s.Evolves { s with events := s.events.update id rewrite keeps } :=
  { refl s with events := .update RecurringReminderEvent.Frozen.refl kept keeps }

end Store.Evolves

namespace Store

/-- The counter is past the identifier of every row. -/
structure Numbered (s : Store) : Prop where
  categories : s.categories.Below s.nextId
  wallets : s.wallets.Below s.nextId
  transactions : s.transactions.Below s.nextId
  installments : s.installments.Below s.nextId
  templates : s.templates.Below s.nextId
  events : s.events.Below s.nextId

namespace Numbered

theorem empty : Store.empty.Numbered := by
  constructor <;> exact fun row member => by simp [Store.empty] at member

variable {s : Store} (numbered : s.Numbered)

include numbered

/-- A store whose counter is no smaller is numbered when the tables that changed are. -/
theorem later {next : Id} (grows : s.nextId ≤ next) : { s with nextId := next }.Numbered where
  categories := numbered.categories.mono grows
  wallets := numbered.wallets.mono grows
  transactions := numbered.transactions.mono grows
  installments := numbered.installments.mono grows
  templates := numbered.templates.mono grows
  events := numbered.events.mono grows

theorem credit (deltas : List WalletDelta) : (s.credit deltas).Numbered :=
  { numbered with wallets := numbered.wallets.mapRows }

theorem deleteTransaction (id : Id) : (s.deleteTransaction id).Numbered :=
  { numbered with
    transactions := numbered.transactions.filter _
    events := numbered.events.mapRows }

theorem deleteInstallment (id : Id) : (s.deleteInstallment id).Numbered :=
  { numbered with
    installments := numbered.installments.filter _
    transactions := numbered.transactions.mapRows
    events := numbered.events.filter _ }

theorem deleteWallet (id : Id) : (s.deleteWallet id).Numbered :=
  { numbered with
    wallets := numbered.wallets.filter _
    transactions := (numbered.transactions.filter _).mapRows
    installments := numbered.installments.filter _
    templates := numbered.templates.filter _
    events := (numbered.events.filter _).mapRows }

theorem insertTransaction {row : Transaction} {rows : Table Transaction} {next : Id}
    (named : row.id < next) (grows : s.nextId ≤ next)
    (inserted : s.transactions.insert? row = some rows) :
    { s with nextId := next, transactions := rows }.Numbered :=
  { numbered.later grows with transactions := numbered.transactions.insert named grows inserted }

theorem insertEvent {row : RecurringReminderEvent} {rows : Table RecurringReminderEvent}
    (named : row.id = s.nextId) (inserted : s.events.insert? row = some rows) :
    { s with nextId := s.nextId + 1, events := rows }.Numbered :=
  { numbered.later (Nat.le_succ _) with
    events := numbered.events.insert (Nat.lt_succ_of_le named.le) (Nat.le_succ _) inserted }

end Numbered

/-- A numbered store and what it evolved into. -/
structure Later (s s' : Store) : Prop where
  started : s.Numbered
  numbered : s'.Numbered
  evolves : s.Evolves s'

theorem Later.trans {s s' s'' : Store} (first : s.Later s') (second : s'.Later s'') :
    s.Later s'' :=
  ⟨first.started, second.numbered, first.evolves.trans second.evolves⟩

end Store

/-- What holds between the store of a read and the store of a later step of the same request. -/
structure Reading (between : Store → Store → Prop) : Prop where
  stays : ∀ s, between s s
  chain : ∀ {a b c}, between a b → between b c → between a c
  numbered : ∀ {s s'}, between s s' → (s.Numbered ↔ s'.Numbered)
  evolves : ∀ {s s'}, between s s' → s.Evolves s'

/-- A request that runs alone reads the store it writes. -/
theorem Reading.alone : Reading Eq where
  stays _ := rfl
  chain := Eq.trans
  numbered same := same ▸ Iff.rfl
  evolves same := same ▸ .refl _

/-- The later stores of a numbered store are all that its interleaved requests see. -/
theorem Reading.within {inv : Store → Prop} (numbers : ∀ s, inv s → s.Numbered) :
    Reading (Prog.Within inv Store.Evolves) where
  -- Reading changes nothing, and what is stored only moves on.
  stays := .refl
  chain := .trans .trans
  numbered moved := by
    -- The counter is past every row in both stores or in neither.
    obtain rfl | ⟨started, ended, _⟩ := moved
    · exact Iff.rfl
    · exact ⟨fun _ => numbers _ ended, fun _ => numbers _ started⟩
  evolves moved := Prog.Within.moved .refl moved

theorem Reading.later {between : Store → Store → Prop} (reading : Reading between) {s s' : Store}
    (moved : between s s') (numbered : s.Numbered) : s.Later s' :=
  ⟨numbered, (reading.numbered moved).mp numbered, reading.evolves moved⟩

end PocketMint
