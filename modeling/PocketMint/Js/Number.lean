import Mathlib.Data.Int.Log
import Mathlib.Data.Rat.Floor

/-! Numbers as the JavaScript runtime and its decimal library hand them to the services. -/

namespace PocketMint

/-- A decimal money value. Sums and differences are exact; products and quotients are rounded. -/
abbrev Decimal := ℚ

/-- The nearest integer, with halves rounded away from zero. -/
def roundHalfUp (value : ℚ) : ℤ :=
  if 0 ≤ value then ⌊value + 1 / 2⌋ else -⌊-value + 1 / 2⌋

namespace Decimal

/-- The significant digits the decimal library keeps in a product or a quotient. -/
def precision : ℕ := 20

/-- Round to the library's significant digits, halves away from zero. -/
def roundSignificant (value : ℚ) : Decimal :=
  if value = 0 then 0
  else
    -- The scale leaves exactly that many digits in front of the point.
    let scale : ℚ := (10 : ℚ) ^ ((precision : ℤ) - 1 - Int.log 10 |value|)
    roundHalfUp (value * scale) / scale

/-- `Decimal.times`. -/
def times (left right : Decimal) : Decimal := roundSignificant (left * right)

/-- `Decimal.div`. -/
def div (left right : Decimal) : Decimal := roundSignificant (left / right)

/-- `Decimal.toDecimalPlaces` with the half-up rounding mode. -/
def toDecimalPlaces (value : Decimal) (places : ℕ) : Decimal :=
  roundHalfUp (value * 10 ^ places) / 10 ^ places

end Decimal

/-- What `Number(value)` can be: a number, an infinity, or no number at all. -/
inductive Numeric where
  | nan
  | negInfinity
  | infinity
  | finite (value : Decimal)
  deriving DecidableEq

namespace Numeric

/-- Neither `isNaN(x)` nor `x <= 0`. -/
def IsPositive : Numeric → Prop
  | infinity => True
  | finite value => 0 < value
  | _ => False

/-- `Number.isFinite(x) && x > 0`. -/
def IsFinitePositive : Numeric → Prop
  | finite value => 0 < value
  | _ => False

/-- `x < bound`, which no comparison with `NaN` satisfies. -/
def IsLess (bound : Decimal) : Numeric → Prop
  | negInfinity => True
  | finite value => value < bound
  | _ => False

/-- `x > bound`, which no comparison with `NaN` satisfies. -/
def IsGreater (bound : Decimal) : Numeric → Prop
  | infinity => True
  | finite value => bound < value
  | _ => False

instance : DecidablePred IsPositive
  | nan => isFalse id
  | negInfinity => isFalse id
  | infinity => isTrue trivial
  | finite value => inferInstanceAs (Decidable (0 < value))

instance : DecidablePred IsFinitePositive
  | nan => isFalse id
  | negInfinity => isFalse id
  | infinity => isFalse id
  | finite value => inferInstanceAs (Decidable (0 < value))

instance (bound : Decimal) : DecidablePred (IsLess bound)
  | nan => isFalse id
  | negInfinity => isTrue trivial
  | infinity => isFalse id
  | finite value => inferInstanceAs (Decidable (value < bound))

instance (bound : Decimal) : DecidablePred (IsGreater bound)
  | nan => isFalse id
  | negInfinity => isFalse id
  | infinity => isTrue trivial
  | finite value => inferInstanceAs (Decidable (bound < value))

/-- `Number.isInteger(x)`, with the integer. -/
def toInteger : Numeric → Option Int
  | finite value => if value.den = 1 then some value.num else none
  | _ => none

end Numeric

/-- A money value sent by a client, known by the two conversions the services make of it. -/
structure DecimalInput where
  /-- `Number(value)`. -/
  number : Numeric
  /-- `new Prisma.Decimal(value)`, or nothing when the constructor throws. -/
  decimal : Option Numeric
  deriving DecidableEq

/-- A value that both conversions read as the same finite number. -/
def DecimalInput.exact (value : Decimal) : DecimalInput :=
  { number := .finite value, decimal := some (.finite value) }

/-- An optional value of a request body, as sent: left out, naming nothing, or given. -/
inductive Arg (α : Type) where
  /-- The field is `undefined`. -/
  | omitted
  /-- The empty string where an identifier is meant, an unknown word where a keyword is meant. -/
  | invalid
  | given (value : α)
  deriving DecidableEq

/-- The given value; the empty string is falsy, like an omitted field. -/
def Arg.truthy {α : Type} : Arg α → Option α
  | given value => some value
  | _ => none

/-- An optional and nullable value of a request body: left out, `null`, or given. -/
inductive Field (α : Type) where
  | omitted
  | null
  | given (value : α)
  deriving DecidableEq

/-- The value a write leaves in a nullable column; an omitted field keeps the stored one. -/
def Field.resolve {α : Type} (stored : Option α) : Field α → Option α
  | omitted => stored
  | null => none
  | given value => some value

end PocketMint
