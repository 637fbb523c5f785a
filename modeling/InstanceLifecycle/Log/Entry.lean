import InstanceLifecycle.Instance
import InstanceLifecycle.Log.Line
import InstanceLifecycle.Text.Letters

/-!
# Log entries

An entry has a level, the component that wrote it, perhaps a message, and fields. In its line the
fields that say which instance it is about stand in a fixed order before the others, which are
sorted by key; fields with one key keep their order.

Results:

* `Level.ofText?_name`: a level is found by its name;
* `mem_orderedFields`: ordering loses no field and adds none.
-/

namespace InstanceLifecycle.Log

/-! ## Entries -/

/-- How severe an entry is. -/
inductive Level
  | error | warn | info | debug | trace
  deriving DecidableEq, Repr

/-- The name of a level. -/
def Level.name : Level → String
  | error => "ERROR"
  | warn => "WARN"
  | info => "INFO"
  | debug => "DEBUG"
  | trace => "TRACE"

/-- All levels, the most severe first. -/
def Level.all : List Level := [error, warn, info, debug, trace]

/-- The level with this name; the case does not matter. -/
def Level.ofText? (s : String) : Option Level := all.find? fun l => l.name = Text.upper s

/-- A level is found by its name. -/
theorem Level.ofText?_name (l : Level) : ofText? l.name = some l := by
  cases l <;> decide +kernel

/-- A recorded entry. -/
structure Entry where
  level : Level
  component : String
  message : Option String
  fields : List (String × String)
  /-- The names of the spans around it, the outermost first. -/
  spans : List String := []
  deriving DecidableEq, Repr

/-- The entry with one more value recorded (`record_value`). One under the name `message` is the
message, in place of an earlier one; one without a name is dropped. -/
def Entry.record (e : Entry) (f : String × String) : Entry :=
  if f.1 = "" then e
  else if f.1 = "message" then { e with message := some f.2 }
  else { e with fields := e.fields ++ [f] }

/-! ## The order of fields -/

/-- The keys that come first, in this order. -/
def leadingKeys : List String := ["event", "namespace", "service", "host", "port"]

/-- The fields with a leading key in the order of these keys, then the others sorted by key
(`ordered_fields`). -/
def orderedFields (fs : List (String × String)) : List (String × String) :=
  (leadingKeys.flatMap fun k => fs.filter (·.1 = k)) ++
    (fs.filter fun f => ¬leadingKeys.contains f.1).mergeSort fun a b => a.1 ≤ b.1

/-- Ordering loses no field and adds none. -/
theorem mem_orderedFields (fs : List (String × String)) (f : String × String) :
    f ∈ orderedFields fs ↔ f ∈ fs := by
  by_cases h : f.1 ∈ leadingKeys <;> simp [orderedFields, h]

/-! ## Lines -/

/-- What is the same for all lines of a program: its name, the text that stands for the time, and
the message of an entry that has none. -/
structure Style where
  app : String
  time : String
  unnamed : String

/-- The line of an entry (`format_event`). -/
def Entry.line (e : Entry) (s : Style) : String :=
  let span := if e.spans.isEmpty then [] else [("span", ".".intercalate e.spans)]
  Log.line <|
    [("ts", s.time), ("level", e.level.name), ("app", s.app), ("component", e.component)] ++
      span ++ [("msg", e.message.getD s.unnamed)] ++ orderedFields e.fields

/-! ## Entries about instances -/

/-- The fields that say which instance an entry is about. -/
def instanceFields (event : String) (i : Instance) : List (String × String) :=
  [("event", event), ("namespace", i.namespaceName), ("service", i.service), ("host", i.host),
    ("port", toString i.port)]

/-- An entry about something that happened to an instance (`lossless_event`). -/
def ofInstance (level : Level) (component event : String) (i : Instance)
    (fields : List (String × String)) : Entry :=
  ⟨level, component, none, instanceFields event i ++ fields, []⟩

end InstanceLifecycle.Log
