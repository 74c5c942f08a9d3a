import PocketMint.Utils.Logger

/-! Nothing under a sensitive key has any influence on what redaction makes of metadata. -/

namespace PocketMint

namespace Logger

open Js

/-- Two redactions answer alike, each with the objects on its own path, and leave these as they were. -/
def Agree {α : Type} (seen seen' : List Nat) (first second : Redaction α) : Prop :=
  ∃ out, first.run seen = (out, seen) ∧ second.run seen' = (out, seen')

section Agree

variable {α β : Type} {seen seen' : List Nat}

theorem Agree.pure (value : α) : Agree seen seen' (pure value) (pure value) :=
  ⟨value, rfl, rfl⟩

/-- Redactions agree when their first parts do, and what follows each answer. -/
theorem Agree.bind {first second : Redaction α} {next next' : α → Redaction β}
    (start : Agree seen seen' first second) (rest : ∀ out, Agree seen seen' (next out) (next' out)) :
    Agree seen seen' (first >>= next) (second >>= next') := by
  obtain ⟨out, left, right⟩ := start
  obtain ⟨result, left', right'⟩ := rest out
  refine ⟨result, ?_, ?_⟩
  · rw [StateT.run_bind, left]
    exact left'
  · rw [StateT.run_bind, right]
    exact right'

/-- Redactions of two lists agree when those of their elements do. -/
theorem Agree.mapM {step step' : Value → Redaction α} {items items' : List Value}
    (each : List.Forall₂ (fun item item' => Agree seen seen' (step item) (step' item')) items items') :
    Agree seen seen' (items.mapM step) (items'.mapM step') := by
  -- The induction follows both lists, which are as long as each other.
  induction each with
  | nil =>
    rw [List.mapM_nil, List.mapM_nil]
    exact .pure []
  | cons head _ ih =>
    rw [List.mapM_cons, List.mapM_cons]
    apply Agree.bind head
    intro first
    apply Agree.bind ih
    intro rest
    exact .pure (first :: rest)

/-- Folds over two lists agree when each of their steps does, whatever was folded before. -/
theorem Agree.foldlM {γ δ : Type} {step : β → γ → Redaction β} {step' : β → δ → Redaction β} {items : List γ}
    {items' : List δ}
    (each : List.Forall₂ (fun item item' => ∀ out, Agree seen seen' (step out item) (step' out item'))
      items items') :
    ∀ out, Agree seen seen' (items.foldlM step out) (items'.foldlM step' out) := by
  -- Both folds go through their items in step.
  induction each with
  | nil =>
    intro out
    exact .pure out
  | cons head _ ih =>
    intro out
    rw [List.foldlM_cons, List.foldlM_cons]
    exact Agree.bind (head out) ih

end Agree

/-- An object that is not on the path is redacted with itself on the path, which it then leaves. -/
theorem run_redactValue {heap : Heap} {levels address : Nat} {seen : List Nat} {out : Redacted}
    (fresh : address ∉ seen)
    (below : (redactNode (redactValue heap levels) (heap address)).run (address :: seen) =
      (out, address :: seen)) :
    (redactValue heap (levels + 1) (.reference address)).run seen = (out, seen) := by
  -- The address is put on the path, the node leaves the path as it finds it, and the address is taken off.
  simp only [redactValue, StateT.run_bind, StateT.run_get, pure_bind, if_neg fresh, StateT.run_set]
  rw [below]
  show (out, (address :: seen).erase address) = (out, seen)
  rw [List.erase_cons_head]

/-- Alike nodes are redacted alike when alike values are. -/
theorem redactNode_agree {redactItem redactItem' : Value → Redaction Redacted} {seen seen' : List Nat}
    (each : ∀ {value value'}, Value.Alike same value value' →
      Agree seen seen' (redactItem value) (redactItem' value'))
    {node node' : Node} (nodes : Node.Alike isSensitiveKey same node node') :
    Agree seen seen' (redactNode redactItem node) (redactNode redactItem' node') := by
  cases nodes with
  | @array items items' all =>
    -- Arrays of one length are cut at one place, and miss as many items.
    have kept := (List.forall₂_take maxArray all).imp fun _ _ => each
    rw [redactNode, redactNode, all.length_eq]
    apply Agree.bind (.mapM kept)
    intro out
    split <;> exact .pure _
  | @object properties properties' all =>
    rw [redactNode, redactNode]
    refine Agree.bind (.foldlM ((List.forall₂_take maxKeys all).imp ?_) _) fun out => .pure _
    -- A property has one key in both objects, and its values count only when the key is not sensitive.
    intro property property' properties out
    obtain ⟨key, values⟩ := properties
    -- A sensitive key hides its value in both objects, whatever it is.
    rw [← key]
    cases sensitive : isSensitiveKey property.1 with
    | true => exact .pure _
    | false => exact Agree.bind (each (values sensitive)) fun value => .pure _

section Redaction

variable {same : Nat → Nat → Prop} {heap heap' : Heap} (alike : Heap.Alike isSensitiveKey same heap heap')

include alike

/-- Paired addresses are on paired paths together or not at all. -/
theorem mem_seen_iff {seen seen' : List Nat} (paths : List.Forall₂ same seen seen') {address address' : Nat}
    (paired : same address address') : address ∈ seen ↔ address' ∈ seen' := by
  induction paths with
  | nil => simp
  | cons head _ ih => rw [List.mem_cons, List.mem_cons, ih, alike.one paired head]

/-- Alike values on paired paths are redacted alike, at every depth. -/
theorem redactValue_agree (levels : Nat) : ∀ {value value' : Value} {seen seen' : List Nat},
    Value.Alike same value value' → List.Forall₂ same seen seen' →
      Agree seen seen' (redactValue heap levels value) (redactValue heap' levels value') := by
  -- The induction is on the levels that are left; the path grows by paired addresses.
  induction levels with
  -- Without levels a reference becomes a mark, and which one depends on the path alone.
  | zero =>
    intro value value' seen seen' values paths
    cases values with
    | scalar value => exact .pure (Redacted.scalar value)
    | @reference address address' paired =>
      refine ⟨.text (if address ∈ seen then "[Circular]" else "[Truncated]"), rfl, ?_⟩
      simp only [mem_seen_iff alike paths paired]
      rfl
  | succ levels ih =>
    intro value value' seen seen' values paths
    cases values with
    -- A scalar is shown as it is in both.
    | scalar value => exact .pure (Redacted.scalar value)
    | @reference address address' paired =>
      have onPath := mem_seen_iff alike paths paired
      -- A reference that is on one path is on the other, and both become the same mark.
      by_cases circular : address ∈ seen
      · refine ⟨.text "[Circular]", ?_, ?_⟩
        · simp [redactValue, circular]
          rfl
        · simp [redactValue, onPath.mp circular]
          rfl
      · -- Below the node, both paths begin with the paired addresses.
        have below : List.Forall₂ same (address :: seen) (address' :: seen') := .cons paired paths
        obtain ⟨out, left, right⟩ :=
          redactNode_agree (fun values => ih values below) (alike.nodes paired)
        exact ⟨out, run_redactValue circular left, run_redactValue (mt onPath.mpr circular) right⟩

end Redaction

/--
Metadata that agree outside what is stored under sensitive keys are redacted to the same copy, and so
make the same line of the log.
-/
theorem redact_noninterference {same : Nat → Nat → Prop} {heap heap' : Heap}
    (alike : Heap.Alike isSensitiveKey same heap heap') {metadata metadata' : Value}
    (values : Value.Alike same metadata metadata') :
    redact heap metadata = redact heap' metadata' ∧
      ∀ stringify level message timestamp,
        emitLine stringify heap level message (some metadata) timestamp =
          emitLine stringify heap' level message (some metadata') timestamp := by
  have copies : redact heap metadata = redact heap' metadata' := by
    obtain ⟨out, left, right⟩ := redactValue_agree alike maxDepth values (.nil : List.Forall₂ same [] [])
    rw [redact, redact, left, right]
  refine ⟨copies, ?_⟩
  intro stringify level message timestamp
  simp only [emitLine, Option.map_some, copies]

/-- A request with a token and a list that refers back to it: the token may be any text or structure. -/
def loginHeap (token : Value) : Heap
  | 0 => .object [("user", .reference 1), ("accessToken", token)]
  | 1 => .array [.scalar (.text "budi"), .reference 0]
  | _ => .object [("pin", .scalar (.text "1234"))]

/-- A token that is a text, and one that is a structure, leave the same copy. -/
theorem redact_noninterference_token :
    redact (loginHeap (.scalar (.text "abc"))) (.reference 0) =
      redact (loginHeap (.reference 2)) (.reference 0) := by
  -- The two objects that are seen are paired with themselves.
  let same (address address' : Nat) : Prop := address = address' ∧ address < 2
  have values : Value.Alike same (.reference 0) (.reference 0) := .reference ⟨rfl, by decide⟩
  refine (redact_noninterference ⟨?_, ?_⟩ values).1
  · rintro first _ second _ ⟨rfl, -⟩ ⟨rfl, -⟩
    exact Iff.rfl
  · rintro address _ ⟨rfl, seen⟩
    match address, seen with
    | 0, _ =>
      refine .object (.cons ⟨rfl, fun _ => .reference ⟨rfl, by decide⟩⟩ (.cons ⟨rfl, ?_⟩ .nil))
      intro plain
      exact absurd plain (by decide)
    | 1, _ => exact .array (.cons (.scalar _) (.cons (.reference ⟨rfl, by decide⟩) .nil))

end Logger

end PocketMint
