import PocketMint.Program.Pool
import PocketMint.Services.RecurringTransaction

/-! The saving goal service: records of what a user saves towards. -/

namespace PocketMint

open Prog (query throwIf orThrow ofExcept transact)
open RecurringTransactionService (trim)

inductive SavingGoalStatus where
  | active
  | completed
  | archived
  deriving DecidableEq

structure SavingGoal where
  id : Id
  userId : Id
  name : String
  targetAmount : Decimal
  currentAmount : Decimal
  targetDate : Option Instant
  notes : Option String
  status : SavingGoalStatus
  deriving DecidableEq

instance : Keyed SavingGoal := ⟨SavingGoal.id⟩

/-- Whether the amounts of a goal are within the range of their `Decimal(15, 2)` columns. -/
def SavingGoal.Fits (row : SavingGoal) : Prop :=
  |row.targetAmount| < 10 ^ 13 ∧ |row.currentAmount| < 10 ^ 13

instance : DecidablePred SavingGoal.Fits := fun _ => by
  unfold SavingGoal.Fits
  infer_instance

/-- The saving goals, which refer to no other row but their user's. -/
structure SavingGoalStore where
  nextId : Id
  savingGoals : Table SavingGoal

def SavingGoalStore.empty : SavingGoalStore := { nextId := 0, savingGoals := .empty }

/-- `findFirst({ where: { id, userId } })`. -/
def SavingGoalStore.ownGoal (s : SavingGoalStore) (id userId : Id) : Option SavingGoal :=
  (s.savingGoals.find? id).filter fun row => row.userId = userId

structure CreateSavingGoalInput where
  userId : Id
  name : String
  targetAmount : Option DecimalInput
  currentAmount : Option DecimalInput := none
  targetDate : Option String := none
  notes : Option String := none

/-- What a client sends to update a goal; omitted fields keep their stored values. -/
structure UpdateSavingGoalInput where
  userId : Id
  id : Id
  name : Option String := none
  targetAmount : Field DecimalInput := .omitted
  targetDate : Field String := .omitted
  notes : Field String := .omitted

structure UpdateSavingGoalProgressInput where
  userId : Id
  id : Id
  currentAmount : Option DecimalInput

structure ArchiveSavingGoalInput where
  userId : Id
  id : Id

structure GetSavingGoalInput where
  userId : Id
  id : Id

namespace SavingGoalService

/-- `Decimal.lessThanOrEqualTo`, which no comparison with `NaN` satisfies. -/
def lessThanOrEqualTo (bound : Decimal) : Numeric → Bool
  | .negInfinity => true
  | .finite value => value ≤ bound
  | _ => false

/-- Round to cents; what is not a finite number stays as it is. -/
def toMoney : Numeric → Numeric
  | .finite value => .finite (value.toDecimalPlaces 2)
  | number => number

def parseTargetDate (value : Option String) (field : String) (zone : Zone) (now : Instant) :
    Except Failure Instant :=
  (parseBusinessDate value zone now).mapError fun message =>
    .service (field ++ ": " ++ message) 400 "BAD_REQUEST"

/-- `new Prisma.Decimal(value)`. -/
def newDecimal (value : DecimalInput) : Except Failure Numeric :=
  match value.decimal with
  | some number => .ok number
  | none => .error (.thrown "[DecimalError] Invalid argument")

def parseTargetAmount (value : Option DecimalInput) : Except Failure Numeric :=
  let invalid : Failure := .service "targetAmount is required and must be a positive number" 400 "BAD_REQUEST"
  match value with
  | none => .error invalid
  | some sent =>
    -- What is no number is refused before the library could throw.
    if sent.number = .nan then .error invalid
    else do
      let amount := toMoney (← newDecimal sent)
      if lessThanOrEqualTo 0 amount then .error invalid else .ok amount

/-- The amount saved so far, zero when none is sent. -/
def parseCurrentAmount (value : Option DecimalInput) : Except Failure Numeric := do
  -- A missing amount is zero, and text that is no number makes the library throw.
  let amount := toMoney (← newDecimal (value.getD (.exact 0)))
  if amount.IsLess 0 then
    .error (.service "currentAmount must be zero or a positive number" 400 "BAD_REQUEST")
  else .ok amount

/-- Goals that are not archived recompute their status from the amounts. -/
def resolveStatus (currentAmount targetAmount : Decimal) : SavingGoalStatus :=
  if targetAmount ≤ currentAmount then .completed else .active

/-- `savingGoal.create`. -/
def createGoal (data : Id → SavingGoal) : Prog SavingGoalStore Failure SavingGoal :=
  transact fun s =>
    -- The columns refuse an amount that is too large for them.
    if ¬(data s.nextId).Fits then .error (.prisma "P2020")
    else
      match s.savingGoals.insert? (data s.nextId) with
      | none => .error (.prisma "P2002")
      | some rows => .ok (data s.nextId, { nextId := s.nextId + 1, savingGoals := rows })

/-- `savingGoal.update`. -/
def updateGoal (id : Id) (rewrite : SavingGoal → SavingGoal)
    (keeps : ∀ row, (rewrite row).id = row.id := by intro _; exact Eq.symm rfl) :
    Prog SavingGoalStore Failure SavingGoal :=
  transact fun s =>
    match s.savingGoals.find? id with
    | none => .error (.prisma "P2025")
    | some row =>
      if ¬(rewrite row).Fits then .error (.prisma "P2020")
      else .ok (rewrite row, { s with savingGoals := s.savingGoals.update id rewrite keeps })

/-- The goal a request names, when it is the user's. -/
def findOwned (userId id : Id) : Prog SavingGoalStore Failure SavingGoal := do
  let goal ← query fun s => s.ownGoal id userId
  orThrow goal (.service "Target tabungan tidak ditemukan" 404 "NOT_FOUND")

/-- The row of a new goal. -/
def newGoal (input : CreateSavingGoalInput) (targetAmount currentAmount : Decimal)
    (targetDate : Option Instant) (id : Id) : SavingGoal :=
  { id
    userId := input.userId
    name := trim input.name
    targetAmount
    currentAmount
    targetDate
    notes := input.notes
    status := resolveStatus currentAmount targetAmount }

/-- The new value of a goal row, of which date and status are always written. -/
def editedGoal (input : UpdateSavingGoalInput) (targetAmount : Decimal) (targetDate : Option Instant)
    (status : SavingGoalStatus) (row : SavingGoal) : SavingGoal :=
  { row with
    name := (input.name.map trim).getD row.name
    targetAmount := if input.targetAmount = .omitted then row.targetAmount else targetAmount
    targetDate
    notes := input.notes.resolve row.notes
    status }

end SavingGoalService

open SavingGoalService

def getSavingGoal (input : GetSavingGoalInput) : Prog SavingGoalStore Failure SavingGoal :=
  findOwned input.userId input.id

def createSavingGoal (zone : Zone) (now : Instant) (input : CreateSavingGoalInput) :
    Prog SavingGoalStore Failure SavingGoal := do
  throwIf (trim input.name = "") (.service "name is required" 400 "BAD_REQUEST")
  let targetAmount ← ofExcept (parseTargetAmount input.targetAmount)
  let currentAmount ← ofExcept (parseCurrentAmount input.currentAmount)
  let targetDate ← ofExcept (match input.targetDate with
    | none => .ok none
    -- The date is optional, but a date that is sent must be valid.
    | some text => (parseTargetDate (some text) "targetDate" zone now).map some)
  let targetAmount ← ofExcept (columnValue targetAmount)
  let currentAmount ← ofExcept (columnValue currentAmount)
  createGoal (newGoal input targetAmount currentAmount targetDate)

def updateSavingGoal (zone : Zone) (now : Instant) (input : UpdateSavingGoalInput) :
    Prog SavingGoalStore Failure SavingGoal := do
  let existing ← findOwned input.userId input.id
  -- An archived goal is not edited.
  throwIf (existing.status = .archived)
    (.service "Target tabungan yang diarsipkan tidak dapat diubah" 409 "CONFLICT")
  throwIf (∃ name ∈ input.name, trim name = "") (.service "name cannot be empty" 400 "BAD_REQUEST")
  let targetAmount ← ofExcept (match input.targetAmount with
    | .omitted => .ok (.finite existing.targetAmount)
    | .null => parseTargetAmount none
    | .given value => parseTargetAmount (some value))
  -- A null clears the date, and the old one stays when none is sent.
  let targetDate ← ofExcept (match input.targetDate with
    | .omitted => .ok existing.targetDate
    | .null => .ok none
    | .given text => (parseTargetDate (some text) "targetDate" zone now).map some)
  let targetAmount ← ofExcept (columnValue targetAmount)
  -- The amount saved so far is the one that was read, whatever is stored by now.
  updateGoal input.id
    (editedGoal input targetAmount targetDate (resolveStatus existing.currentAmount targetAmount))

def updateSavingGoalProgress (input : UpdateSavingGoalProgressInput) :
    Prog SavingGoalStore Failure SavingGoal := do
  let existing ← findOwned input.userId input.id
  throwIf (existing.status = .archived)
    (.service "Target tabungan yang diarsipkan tidak dapat diperbarui progresnya" 409 "CONFLICT")
  let currentAmount ← ofExcept (parseCurrentAmount input.currentAmount)
  let currentAmount ← ofExcept (columnValue currentAmount)
  -- The status comes from the target that was read, whatever is stored by now.
  updateGoal input.id fun row =>
    { row with currentAmount, status := resolveStatus currentAmount existing.targetAmount }

def archiveSavingGoal (input : ArchiveSavingGoalInput) : Prog SavingGoalStore Failure SavingGoal := do
  let existing ← findOwned input.userId input.id
  -- The archive writes the status alone.
  throwIf (existing.status = .archived) (.service "Target tabungan sudah diarsipkan" 409 "CONFLICT")
  updateGoal input.id fun row => { row with status := .archived }

/-- A request about one goal. -/
inductive SavingGoalRequest where
  | getSavingGoal (input : GetSavingGoalInput)
  | createSavingGoal (input : CreateSavingGoalInput)
  | updateSavingGoal (input : UpdateSavingGoalInput)
  | updateSavingGoalProgress (input : UpdateSavingGoalProgressInput)
  | archiveSavingGoal (input : ArchiveSavingGoalInput)

/-- A request, with the time its clock reads. -/
structure SavingGoalCall where
  now : Instant
  request : SavingGoalRequest

/-- The service a call runs, in a reporting zone. -/
def handleSavingGoal (zone : Zone) (call : SavingGoalCall) : Prog SavingGoalStore Failure SavingGoal :=
  match call.request with
  | .getSavingGoal input => PocketMint.getSavingGoal input
  | .createSavingGoal input => PocketMint.createSavingGoal zone call.now input
  | .updateSavingGoal input => PocketMint.updateSavingGoal zone call.now input
  | .updateSavingGoalProgress input => PocketMint.updateSavingGoalProgress input
  | .archiveSavingGoal input => PocketMint.archiveSavingGoal input

/-- The requests in flight over an empty database, after a schedule of their atomic steps. -/
def interleaveSavingGoals (zone : Zone) (calls : List SavingGoalCall) (schedule : List Nat) :
    Pool SavingGoalCall SavingGoalStore :=
  (Pool.start .empty calls).exec (handleSavingGoal zone) schedule

end PocketMint
