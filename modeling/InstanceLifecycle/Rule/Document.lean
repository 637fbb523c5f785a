import InstanceLifecycle.Json.Writer
import InstanceLifecycle.Rule.Basic
import InstanceLifecycle.Text.Blank
import InstanceLifecycle.Text.Digits
import InstanceLifecycle.Width

/-!
# Rule documents

A rule is read from a JSON object, or from the first item of a list. Members with unknown names
are ignored. Where a section is expected an array may stand too, with the values of its fields in
their fixed order; it may be short but not long. Integers may be given as texts, as some control
planes do for large ones.

Of several faults the one is reported that comes first by the names of the members, or by place in
an array.

Results:

* `integer_natural`, `integer_text`: an integer may be a number or a text that denotes it;
* `Rule.ofDocument_empty`: the empty object says nothing.
-/

namespace InstanceLifecycle

open Json (Value)

/-- Why a document is no rule. -/
inductive RuleError
  /-- The list of rules has no item. -/
  | emptyList
  /-- The document is neither an object nor a list. -/
  | notObject
  /-- A text stands where an integer is expected. -/
  | notUnsigned (text : String)
  /-- A value has another form. -/
  | malformed
  deriving DecidableEq, Repr

/-- The error in words. -/
def RuleError.message : RuleError → String
  | emptyList => "lossless rule list is empty"
  | notObject => "lossless rule document must be a JSON object"
  | notUnsigned text => s!"`{text}` is not an unsigned integer"
  | malformed => "a value of the rule has another form"

namespace RuleDocument

/-! ## Values -/

/-- A truth value. -/
def flag : Value → Except RuleError Bool
  | .bool b => .ok b
  | _ => .error .malformed

/-- A text that may be null. -/
def text : Value → Except RuleError (Option String)
  | .null => .ok none
  | .string s => .ok (some s)
  | _ => .error .malformed

/-- An integer that may be null, given as a number or as a text; a blank text is null
(`lenient_u64`). -/
def integer : Value → Except RuleError (Option Nat)
  | .null => .ok none
  | .number (.natural n) => .ok (some n)
  | .string s =>
    if Text.isBlankText s then .ok none
    else
      match Text.readUnsigned? (Width.bound 64) (Text.trim s) with
      | some n => .ok (some n)
      | none => .error (.notUnsigned s)
  | _ => .error .malformed

theorem integer_natural (n : Nat) : integer (Value.nat n) = .ok (some n) := rfl

theorem integer_text {s : String} {n : Nat} (hb : Text.isBlankText s = false)
    (h : Text.readUnsigned? (Width.bound 64) (Text.trim s) = some n) :
    integer (.string s) = .ok (some n) := by
  simp [integer, hb, h]

/-- An integer or any other text, kept as a text; it may be null (`lenient_string`). -/
def integerText : Value → Except RuleError (Option String)
  | .null => .ok none
  | .number (.natural n) => .ok (some (String.ofList (Json.natChars n)))
  | .string s => .ok (some s)
  | _ => .error .malformed

/-- A section that may be null. -/
def nullable (read : Value → Except RuleError α) : Value → Except RuleError (Option α)
  | .null => .ok none
  | v => (read v).map some

/-! ## Sections -/

/-- The value of a field: a member of an object, or the item of an array at its place. -/
def field? (names : List String) (v : Value) (name : String) : Option Value :=
  match v with
  | .array items => (names.zip items).lookup name
  | v => v.member? name

/-- A field that may be left out. -/
def fieldOr (names : List String) (v : Value) (default : α) (read : Value → Except RuleError α)
    (name : String) : Except RuleError α :=
  match field? names v name with
  | none => .ok default
  | some x => read x

/-- Forgets the value that was read. -/
def outcome (r : Except RuleError α) : Except RuleError Unit := r.map fun _ => ()

/-- Reports the first fault of a section: by place in an array, which must not be too long, and by
name in an object. -/
def inOrder (v : Value) (outcomes : List (String × Except RuleError Unit)) :
    Except RuleError Unit :=
  match v with
  | .array items => do
    outcomes.forM Prod.snd
    if items.length > outcomes.length then .error .malformed else .ok ()
  | .object _ => (outcomes.mergeSort fun a b => a.1 ≤ b.1).forM Prod.snd
  | _ => .error .malformed

theorem forM_ok {outcomes : List (String × Except RuleError Unit)}
    (h : ∀ o ∈ outcomes, o.2 = .ok ()) : outcomes.forM Prod.snd = .ok () := by
  induction outcomes with
  | nil => rfl
  | cons o r ih =>
    simp only [List.forM, h o (by simp)]
    exact ih fun o' ho => h o' (by simp [ho])

/-- An object without faulty fields has no fault. -/
theorem inOrder_object (ms : List (String × Value))
    {outcomes : List (String × Except RuleError Unit)} (h : ∀ o ∈ outcomes, o.2 = .ok ()) :
    inOrder (.object ms) outcomes = .ok () :=
  forM_ok fun o ho => h o (List.mem_mergeSort.mp ho)

/-- A section with one field that switches something on. -/
def toggle (v : Value) : Except RuleError Bool := do
  let enable := fieldOr ["enable"] v false flag "enable"
  inOrder v [("enable", outcome enable)]
  enable

/-- The section on delayed registration. -/
def delay (v : Value) : Except RuleError RuleDelay := do
  let names := ["enable", "strategy", "intervalSecond", "healthCheckIntervalSecond"]
  let enable := fieldOr names v false flag "enable"
  let strategy := fieldOr names v none text "strategy"
  let interval := fieldOr names v none integer "intervalSecond"
  let healthInterval := fieldOr names v none integerText "healthCheckIntervalSecond"
  inOrder v
    (names.zip [outcome enable, outcome strategy, outcome interval, outcome healthInterval])
  .ok ⟨← enable, ← strategy, ← interval, ← healthInterval⟩

/-- The section on warm-up. -/
def warmup (v : Value) : Except RuleError RuleWarmup := do
  let names :=
    ["enable", "intervalSecond", "curvature", "enableOverloadProtection",
      "overloadProtectionThreshold"]
  let enable := fieldOr names v false flag "enable"
  let interval := fieldOr names v none integer "intervalSecond"
  let curvature := fieldOr names v none integer "curvature"
  let protection := fieldOr names v false flag "enableOverloadProtection"
  let threshold := fieldOr names v none integer "overloadProtectionThreshold"
  inOrder v
    (names.zip [outcome enable, outcome interval, outcome curvature, outcome protection,
      outcome threshold])
  .ok ⟨← enable, ← interval, ← curvature, ← protection, ← threshold⟩

theorem toggle_enable (b : Bool) : toggle (.object [("enable", .bool b)]) = .ok b := by
  have enable : fieldOr ["enable"] (.object [("enable", .bool b)]) false flag "enable" = .ok b := rfl
  simp only [toggle, enable]
  rw [inOrder_object _ (by simp [outcome, Except.map])]
  rfl

/-- The sections on bringing instances up. -/
def online (v : Value) : Except RuleError RuleOnline := do
  let names := ["delayRegister", "readiness", "warmup"]
  let delay := fieldOr names v none (nullable delay) "delayRegister"
  let readiness := fieldOr names v none (nullable toggle) "readiness"
  let warmup := fieldOr names v none (nullable warmup) "warmup"
  inOrder v (names.zip [outcome delay, outcome readiness, outcome warmup])
  .ok ⟨← delay, ← readiness, ← warmup⟩

/-- All sections of a rule. -/
def rule (v : Value) : Except RuleError Rule := do
  let names := ["losslessOnline", "losslessOffline"]
  let online := fieldOr names v none (nullable online) "losslessOnline"
  let offline := fieldOr names v none (nullable toggle) "losslessOffline"
  inOrder v (names.zip [outcome online, outcome offline])
  .ok ⟨← online, ← offline⟩

end RuleDocument

/-- The rule that a document holds (`from_document`). -/
def Rule.ofDocument : Value → Except RuleError Rule
  | .array (v :: _) => RuleDocument.rule v
  | .array [] => .error .emptyList
  | .object ms => RuleDocument.rule (.object ms)
  | _ => .error .notObject

/-- The empty object says nothing. -/
theorem Rule.ofDocument_empty : Rule.ofDocument (.object []) = .ok {} := by
  simp [Rule.ofDocument, RuleDocument.rule, RuleDocument.fieldOr, RuleDocument.field?,
    Value.member?, RuleDocument.inOrder, RuleDocument.outcome, bind, Except.bind, Except.map, pure,
    Except.pure, List.mergeSort]

end InstanceLifecycle
