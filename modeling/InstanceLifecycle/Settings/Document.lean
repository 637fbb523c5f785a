import InstanceLifecycle.Settings.Resolve
import InstanceLifecycle.Settings.Section
import InstanceLifecycle.Yaml.Node

/-!
# Settings documents

Settings are read from a document in markup. Its scalars are read by their spelling: truth values
and numbers only where they are plain, texts from every scalar. A document without content gives
all defaults; a second document is refused.
-/

namespace InstanceLifecycle

namespace Settings

open Yaml

/-! ## The values of a document -/

/-- Whether a scalar is read by its spelling although its tag could say otherwise. -/
def isLiteral (kind : String) (tag : Option String) (style : Style) : Bool :=
  style == .plain || (style == .literal && tag == some (coreTag kind))

/-- The members of a mapping by key; every key has to be known and may come once. -/
def mappingFields? (known : List String) (ms : List (Node × Node)) :
    Option (String → Option Node) := do
  let entries ← ms.mapM fun (k, v) =>
    match k with
    | .scalar _ s _ => if known.contains s then some (s, v) else none
    | _ => none
  if (entries.map Prod.fst).Nodup then some fun k => entries.lookup k else none

/-- How settings are read from the nodes of a document. -/
def documentFormat : SettingsFormat Node where
  fields? known
    | .mapping _ ms => mappingFields? known ms
    | .scalar _ s style => if s.isEmpty && style == .plain then some fun _ => none else none
    | .sequence .. => none
  missing?
    | .scalar tag s .plain =>
      match tag with
      | none => some (s.isEmpty || isNull s)
      | some t => if t == coreTag "null" then (if isNull s then some true else none) else some false
    | _ => some false
  bool?
    | .scalar tag s style => if isLiteral "bool" tag style then Yaml.bool? s else none
    | _ => none
  natural?
    | .scalar tag s style => if isLiteral "int" tag style then Yaml.natural? s else none
    | _ => none
  text?
    | .scalar _ s _ => some s
    | _ => none

/-! ## Whole documents -/

/-- The raw settings of the first document of some tokens, and the tokens behind it. -/
def readFirst? (ts : List Token) : Option (RawSettings × List Token) :=
  match Document.next true ts with
  | .none => some ({}, [])
  | .malformed => none
  | .document es rest => do
    let n ← Node.ofEvents? es
    some (← documentFormat.settings? n, rest)

/-- Whether another document follows; nothing if it is malformed. -/
def another? (ts : List Token) : Option Bool :=
  match ts with
  | [] => some false
  | ts =>
    match Document.next false ts with
    | .none => some false
    | .malformed => none
    | .document es _ => do
      let n ← Node.ofEvents? es
      let _ ← n.content?
      some true

/-- The raw settings of a text. -/
def parse (s : String) : Except SettingsError RawSettings :=
  if !s.toList.all isAllowed then .error .malformed
  else
    match readFirst? (Token.ofText s) with
    | none => .error .malformed
    | some (raw, rest) =>
      match another? rest with
      | none => .error .malformed
      | some true => .error .severalDocuments
      | some false => .ok raw

variable [DurationReader]

/-- The settings of a text (`from_yaml_str`). -/
def read (s : String) : Except SettingsError Settings := do
  Settings.ofRaw (← parse s)

/-- The settings in the bytes of a file (`from_reader`). -/
def readBytes (bytes : ByteArray) : Except SettingsError Settings :=
  match String.fromUTF8? bytes with
  | some s => read s
  | none => .error (.unreadable "stream did not contain valid UTF-8")

/-- The settings of a file; there may be no such file (`from_path`). -/
def readIfPresent (bytes : Option ByteArray) : Except SettingsError Settings :=
  match bytes with
  | some b => readBytes b
  | none => .error (.unreadable "No such file or directory (os error 2)")

end Settings

end InstanceLifecycle
