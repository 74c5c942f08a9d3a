import PocketMint.Js.Object

/-! The structured logger: what it keeps of the metadata of a log line. -/

namespace PocketMint

namespace Logger

open Js

def maxDepth : Nat := 6

def maxArray : Nat := 100

def maxKeys : Nat := 200

/-- `SENSITIVE_FRAGMENTS`. -/
def sensitiveFragments : List String :=
  ["password", "passwd", "pwd", "secret", "token", "authorization", "cookie", "apikey", "databaseurl",
    "connectionstring", "credential"]

/-- What `toLowerCase` and the removal of `[^a-z0-9]` leave of a character. -/
def normalizeChar (char : Char) : Option Char :=
  if char.isUpper then some char.toLower
  else if char.isLower || char.isDigit then some char
  -- Of the other letters, only a dotted capital i and the Kelvin sign have an ASCII letter in lower case.
  else if char = '\u0130' then some 'i'
  else if char = '\u212A' then some 'k'
  else none

/-- `SENSITIVE_FRAGMENTS.some((fragment) => normalized.includes(fragment))`. -/
def isSensitiveKey (key : String) : Bool :=
  let normalized := key.toList.filterMap normalizeChar
  sensitiveFragments.any fun fragment => normalized.tails.any fragment.toList.isPrefixOf

/-- The deep copy that redaction makes of a value. -/
inductive Redacted where
  | scalar (value : Scalar)
  | array (items : List Redacted)
  /-- The own properties, and the prototype when it is not the usual one. -/
  | object (properties : List (String × Redacted)) (prototype : Option Redacted)

namespace Redacted

def text (value : String) : Redacted := scalar (.text value)

/-- `REDACTED`. -/
def redacted : Redacted := text "[REDACTED]"

/-- Whether a value can be a prototype. -/
def isPrototype : Redacted → Bool
  | scalar value => value = .null
  | _ => true

/-- `out[key] = value`, where assigning to `__proto__` sets the prototype or does nothing. -/
def assign (out : List (String × Redacted) × Option Redacted) (key : String) (value : Redacted) :
    List (String × Redacted) × Option Redacted :=
  if key = "__proto__" then
    if value.isPrototype then (out.1, some value) else out
  else (out.1 ++ [(key, value)], out.2)

end Redacted

/-- A computation with the set of objects on the current path. -/
abbrev Redaction := StateM (List Nat)

/-- Redact an array or an object, with what is done to each value in it. -/
def redactNode (redactItem : Value → Redaction Redacted) : Node → Redaction Redacted
  | .array items => do
    let out ← (items.take maxArray).mapM redactItem
    if maxArray < items.length then
      return .array (out ++ [.text ("[+" ++ toString (items.length - maxArray) ++ " more]")])
    return .array out
  | .object properties => do
    let out ← (properties.take maxKeys).foldlM (fun out property => do
        let value ← if isSensitiveKey property.1 then pure .redacted else redactItem property.2
        return Redacted.assign out property.1 value) ([], none)
    return .object out.1 out.2

/-- Redact a value, with the number of levels that are left below the maximal depth. -/
def redactValue (heap : Heap) : Nat → Value → Redaction Redacted
  | _, .scalar value => pure (.scalar value)
  | 0, .reference address => do
    let seen ← get
    return .text (if address ∈ seen then "[Circular]" else "[Truncated]")
  | levels + 1, .reference address => do
    let seen ← get
    if address ∈ seen then return .text "[Circular]"
    set (address :: seen)
    let out ← redactNode (redactValue heap levels) (heap address)
    -- The path leaves the object again, so that its siblings may refer to it.
    modify fun seen => seen.erase address
    return out

/-- The redacted copy of a log line's metadata. -/
def redact (heap : Heap) (metadata : Value) : Redacted :=
  ((redactValue heap maxDepth metadata).run []).1

inductive Level where
  | info
  | warn
  | error
  deriving DecidableEq

def Level.text : Level → String
  | info => "info"
  | warn => "warn"
  | error => "error"

/-- The own properties that `{ ...value }` copies. -/
def ownProperties : Redacted → List (String × Redacted)
  | .scalar _ => []
  | .array items => items.zipIdx.map fun item => (toString item.2, item.1)
  | .object properties _ => properties

/-- A property of a fresh object literal: a key that is there already keeps its place. -/
def setProperty (record : List (String × Redacted)) (property : String × Redacted) :
    List (String × Redacted) :=
  if record.any fun other => other.1 = property.1 then
    record.map fun other => if other.1 = property.1 then property else other
  else record ++ [property]

/-- The line of a log entry, from what `JSON.stringify` makes of a record, or nothing when it throws. -/
def emitLine (stringify : List (String × Redacted) → Option String) (heap : Heap) (level : Level)
    (message : String) (metadata : Option Value) (timestamp : String) : Option String :=
  let safeMeta := (metadata.map fun value => ownProperties (redact heap value)).getD []
  let head : List (String × Redacted) :=
    [("level", .text level.text), ("message", .text message)]
  let record := setProperty (safeMeta.foldl setProperty head) ("ts", .text timestamp)
  match stringify record with
  | some line => some line
  | none =>
    stringify (head ++ [("ts", .text timestamp), ("meta", .text "[unserializable]")])

end Logger

end PocketMint
