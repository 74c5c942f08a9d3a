import PocketMint.Program.Prog
import PocketMint.Program.Atomic
import PocketMint.Program.Rely
import PocketMint.Program.Breach
import PocketMint.Program.Pool
import PocketMint.Program.Serial
import PocketMint.Program.Zoom
import PocketMint.Program.Local
import PocketMint.Relational.Table
import PocketMint.Relational.Continues
import PocketMint.Relational.Group
import PocketMint.Relational.Window
import PocketMint.Relational.Pages
import PocketMint.Relational.Selection
import PocketMint.Csv.Reader
import PocketMint.Csv.Writer
import PocketMint.Calendar.Civil
import PocketMint.Calendar.Months
import PocketMint.Calendar.Recurrence
import PocketMint.Calendar.DueDates
import PocketMint.Calendar.Closing
import PocketMint.Calendar.Clock
import PocketMint.Js.Number
import PocketMint.Js.NumberLaws
import PocketMint.Js.Cents
import PocketMint.Js.Date
import PocketMint.Js.Object
import PocketMint.Domain.ReportingTime
import PocketMint.Domain.ReportingDays
import PocketMint.Domain.ReportingMonths
import PocketMint.Domain.LocalMidnight
import PocketMint.Domain.BillingCycle
import PocketMint.Domain.DateText
import PocketMint.Domain.PaddedText
import PocketMint.Domain.BillingCycleLaws
import PocketMint.Domain.DayOpenings
import PocketMint.Domain.Budget
import PocketMint.Domain.Installment
import PocketMint.Domain.InstallmentLaws
import PocketMint.Domain.TransactionBalance
import PocketMint.Domain.BalanceLaws
import PocketMint.Domain.ReportingEffect
import PocketMint.Domain.Reconciliation
import PocketMint.Domain.RepairPlan
import PocketMint.Domain.Financial
import PocketMint.Domain.FinancialLaws
import PocketMint.Utils.Logger
import PocketMint.Store.Schema
import PocketMint.Store.Client
import PocketMint.Store.ClientLaws
import PocketMint.Store.Evolution
import PocketMint.Store.Linked
import PocketMint.Store.Balance
import PocketMint.Store.Tenant
import PocketMint.Store.SeenBy
import PocketMint.Controllers.TransactionCsv
import PocketMint.Controllers.TransactionExport
import PocketMint.Controllers.ExportHandler
import PocketMint.Controllers.Notification
import PocketMint.Services.Wallet
import PocketMint.Services.SavingGoal
import PocketMint.Services.Transaction
import PocketMint.Services.InstallmentPayment
import PocketMint.Services.RecurringTransaction
import PocketMint.Services.ReminderEngine
import PocketMint.Services.ReminderLaws
import PocketMint.Services.HandledRows
import PocketMint.Services.ReminderRuns
import PocketMint.Services.ReminderAnswers
import PocketMint.Services.Notification
import PocketMint.Services.Category
import PocketMint.Services.WalletQuery
import PocketMint.Services.TransactionQuery
import PocketMint.Services.TransactionQueryLaws
import PocketMint.Services.BudgetQuery
import PocketMint.Services.Budget
import PocketMint.Services.BudgetCommand
import PocketMint.System.Request
import PocketMint.System.Api
import PocketMint.Commit.Wallet
import PocketMint.Commit.Transaction
import PocketMint.Commit.Payment
import PocketMint.Commit.Template
import PocketMint.Commit.Reminder
import PocketMint.Commit.Request
import PocketMint.Commit.Purchase
import PocketMint.Commit.Posting
import PocketMint.Commit.Evolution
import PocketMint.Commit.Runs
import PocketMint.Invariant.Linked
import PocketMint.Invariant.Paired
import PocketMint.Invariant.Balanced
import PocketMint.Invariant.Planned
import PocketMint.Invariant.Reminded
import PocketMint.Invariant.Rules
import PocketMint.Invariant.Isolated
import PocketMint.Invariant.OwnWrites
import PocketMint.Invariant.OwnGoals
import PocketMint.Invariant.Tenancy
import PocketMint.Invariant.SeenWrites
import PocketMint.Invariant.SeenTransactions
import PocketMint.Invariant.SeenSchedules
import PocketMint.Invariant.SeenReminders
import PocketMint.Invariant.SeenRequests
import PocketMint.Invariant.Booked
import PocketMint.Proofs.Confirmation
import PocketMint.Proofs.Occurrences
import PocketMint.Proofs.Reminders
import PocketMint.Proofs.Ledger
import PocketMint.Proofs.Purchases
import PocketMint.Proofs.PostingRules
import PocketMint.Proofs.ReportingEffects
import PocketMint.Proofs.Categories
import PocketMint.Proofs.CreditLimit
import PocketMint.Proofs.RepairPlan
import PocketMint.Proofs.CsvExport
import PocketMint.Proofs.Budgets
import PocketMint.Proofs.Periods
import PocketMint.Proofs.LedgerRaces
import PocketMint.Proofs.Payments
import PocketMint.Proofs.Billing
import PocketMint.Proofs.Lifecycle
import PocketMint.Proofs.MoneyScale
import PocketMint.Proofs.NetWorth
import PocketMint.Proofs.SavingGoals
import PocketMint.Proofs.Sparkline
import PocketMint.Proofs.ReminderDates
import PocketMint.Proofs.Recurrences
import PocketMint.Proofs.Templates
import PocketMint.Proofs.Conservation
import PocketMint.Proofs.Reversals
import PocketMint.Proofs.DueDates
import PocketMint.Proofs.Plans
import PocketMint.Proofs.Acceptance
import PocketMint.Proofs.Funds
import PocketMint.Proofs.Renewals
import PocketMint.Proofs.Repayment
import PocketMint.Proofs.BudgetStatus
import PocketMint.Proofs.FirstDueDates
import PocketMint.Proofs.Pagination
import PocketMint.Proofs.LogRedaction
import PocketMint.Proofs.ExportQueries
import PocketMint.Proofs.ExportedDates
import PocketMint.Proofs.LocalDays
import PocketMint.Proofs.ReminderCompletion
import PocketMint.Proofs.BudgetLifecycle
import PocketMint.Proofs.Isolation
import PocketMint.Proofs.Onboarding
import PocketMint.Proofs.Noninterference
import PocketMint.Proofs.Bookkeeping
import PocketMint.Proofs.Summaries
import PocketMint.Proofs.MonthLabels
