import Mathlib.Data.List.Forall2
import PocketMint.Js.Number

/-! Values of the JavaScript runtime on a heap of arrays and objects, and heaps that agree in part. -/

namespace PocketMint

namespace Js

/-- A value that is no object. -/
inductive Scalar where
  | undefined
  | null
  | boolean (value : Bool)
  | number (value : Numeric)
  | bigint (value : Int)
  | text (value : String)
  /-- A symbol or a function, which only its identity tells from others. -/
  | named (identity : Nat)
  deriving DecidableEq

/-- A value: a scalar, or a reference to an array or an object. -/
inductive Value where
  | scalar (scalar : Scalar)
  | reference (address : Nat)
  deriving DecidableEq

/-- An array, or an object with the own enumerable properties that `Object.keys` lists. -/
inductive Node where
  | array (items : List Value)
  | object (properties : List (String × Value))
  deriving DecidableEq

/-- What each address holds. References may form cycles, and several may name one address. -/
abbrev Heap := Nat → Node

section Alike

/-! Two heaps agree outside the hidden keys, through a pairing of the addresses that are seen. -/

variable (hidden : String → Bool) (same : Nat → Nat → Prop)

/-- Values are alike when they are the same scalar, or references to addresses that are paired. -/
inductive Value.Alike : Value → Value → Prop where
  | scalar (scalar : Scalar) : Value.Alike (.scalar scalar) (.scalar scalar)
  | reference {address address' : Nat} (paired : same address address') :
    Value.Alike (.reference address) (.reference address')

/-- Properties are alike when their keys are equal and, unless the key is hidden, their values alike. -/
def PropertyAlike (property property' : String × Value) : Prop :=
  property.1 = property'.1 ∧ (hidden property.1 = false → Value.Alike same property.2 property'.2)

/-- Arrays are alike by their items, and objects by their properties. -/
inductive Node.Alike : Node → Node → Prop where
  | array {items items' : List Value} (each : List.Forall₂ (Value.Alike same) items items') :
    Node.Alike (.array items) (.array items')
  | object {properties properties' : List (String × Value)}
    (each : List.Forall₂ (PropertyAlike hidden same) properties properties') :
    Node.Alike (.object properties) (.object properties')

/-- Heaps are alike through a pairing that is one to one and pairs alike nodes. -/
structure Heap.Alike (heap heap' : Heap) : Prop where
  one : ∀ {first first' second second'}, same first first' → same second second' →
    (first = second ↔ first' = second')
  nodes : ∀ {address address'}, same address address' → Node.Alike hidden same (heap address) (heap' address')

end Alike

end Js

end PocketMint
