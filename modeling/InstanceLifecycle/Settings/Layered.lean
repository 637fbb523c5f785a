import InstanceLifecycle.Settings.Document
import InstanceLifecycle.Text.Letters

/-!
# Layered settings

Settings may also be put together from a file and from environment variables that override it. The
variables start with `LOSSLESS__` in any case; two underscores in the rest of a name part the
levels of sections. As a variable holds nothing but text, values are converted where they are
read: texts to truth values and numbers, and numbers and truth values to texts.
-/

namespace InstanceLifecycle

/-! ## Values -/

/-- A value of a layer. -/
inductive Layer
  | nothing
  | bool (b : Bool)
  | integer (n : Int)
  | decimal (x : Float)
  | text (s : String)
  | list (items : List Layer)
  | table (members : List (String × Layer))
  deriving Inhabited

namespace Layer

/-- The members of a table; another value has none. -/
def members : Layer → List (String × Layer)
  | table ms => ms
  | _ => []

/-- The value at a key. -/
def get? (l : Layer) (key : String) : Option Layer := l.members.lookup key

/-- The table with a value put at a key; another value makes place for a table. -/
def set (l : Layer) (key : String) (v : Layer) : Layer :=
  .table ((key, v) :: l.members.filter fun m => m.1 ≠ key)

/-- Puts a value at a path of keys. -/
def setPath (l : Layer) (path : List String) (v : Layer) : Layer :=
  match path with
  | [] => l
  | [key] => l.set key v
  | key :: rest => l.set key (setPath ((l.get? key).getD .nothing) rest v)

mutual

/-- Puts a value at a key; the members of a table are put one by one. -/
def merge (l : Layer) (key : String) : Layer → Layer
  | .table ms => l.set key (mergeAll (.table ((l.get? key).getD (.table [])).members) ms)
  | v => l.set key v

/-- Puts several values at their keys. -/
def mergeAll (l : Layer) : List (String × Layer) → Layer
  | [] => l
  | (k, v) :: ms => mergeAll (l.merge k v) ms

end

/-! ## Reading -/

/-- The truth value of a word. -/
def word? (s : String) : Option Bool :=
  let s := Text.lower s
  if ["1", "true", "on", "yes"].contains s then some true
  else if ["0", "false", "off", "no"].contains s then some false
  else none

/-- The number nearest to a double, within a word. -/
def nearest (x : Float) : Nat := (x.round.toUInt64).toNat

/-- How settings are read from layers. A list stands for a section by the order of its keys. -/
def format : SettingsFormat Layer where
  fields? known
    | .table ms => if ms.all fun m => known.contains m.1 then some fun k => ms.lookup k else none
    | .list vs => some fun k => (known.zip vs).lookup k
    | _ => none
  missing?
    | .nothing => some true
    | _ => some false
  bool?
    | .bool b => some b
    | .integer n => some (n ≠ 0)
    | .decimal x => some (x != 0)
    | .text s => word? s
    | _ => none
  natural?
    | .bool b => some b.toNat
    | .integer n => if n < 0 then none else some n.toNat
    | .decimal x => some (nearest x)
    | .text s =>
      match (word? s).filter fun _ => (Text.readUnsigned? (Width.bound 64) s).isNone with
      | some b => some b.toNat
      | none => Text.readUnsigned? (Width.bound 64) s
    | _ => none
  text?
    | .text s => some s
    | .bool b => some (if b then "true" else "false")
    | .integer n => some (toString n)
    | .decimal x => some (Decimal.renderPositional x)
    | _ => none

/-! ## Files -/

/-- The 64-bit integer that a plain text of a file stands for. -/
def fileInteger? (s : String) : Option Int :=
  let limit (n : Option Nat) (bound : Nat) : Option Nat := n.filter (· < bound)
  match s.toList with
  | '0' :: 'x' :: r => (limit (Text.readNat? 16 r) (Width.bound 63)).map Int.ofNat
  | '0' :: 'o' :: r => (limit (Text.readNat? 8 r) (Width.bound 63)).map Int.ofNat
  | '+' :: r => (limit (Text.readNat? 10 r) (Width.bound 63)).map Int.ofNat
  | '-' :: r => (limit (Text.readNat? 10 r) (Width.bound 63 + 1)).map fun n => -(n : Int)
  | cs => (limit (Text.readNat? 10 cs) (Width.bound 63)).map Int.ofNat

/-- The value of a plain text of a file; nothing if it is not finite. -/
def ofPlain? (s : String) : Option Layer :=
  if s.isEmpty || s == "~" || s == "null" then some .nothing
  else if s == "true" then some (.bool true)
  else if s == "false" then some (.bool false)
  else
    match fileInteger? s with
    | some n => some (.integer n)
    | none =>
      if [".inf", ".Inf", ".INF", "+.inf", "+.Inf", "+.INF", "-.inf", "-.Inf", "-.INF", ".nan",
          "NaN", ".NAN"].contains s then none
      else
        match Yaml.float? s with
        | some x => some (.decimal x)
        | none => some (.text s)

/-- The value of a scalar of a file. -/
def ofScalar? (tag : Option String) (s : String) (style : Yaml.Style) : Option Layer :=
  if style ≠ .plain then some (.text s)
  else
    match tag with
    | none => ofPlain? s
    | some t =>
      if t == Yaml.coreTag "bool" then
        some (if s == "true" then .bool true else if s == "false" then .bool false else .nothing)
      else if t == Yaml.coreTag "int" then some (((fileInteger? s).map .integer).getD .nothing)
      else if t == Yaml.coreTag "float" then some (((Yaml.float? s).map .decimal).getD .nothing)
      else if t == Yaml.coreTag "null" then some .nothing
      else some (.text s)

/-- The key that a value of a file is. -/
def key? : Layer → Option String
  | .text s => some s
  | .integer n => some (toString n)
  | _ => none

mutual

/-- The value of a node of a file. -/
def ofNode? : Yaml.Node → Option Layer
  | .scalar tag s style => ofScalar? tag s style
  | .sequence _ items => (ofItems? items).map .list
  | .mapping _ ms => (ofMembers? ms).map .table

/-- The values of some nodes. -/
def ofItems? : List Yaml.Node → Option (List Layer)
  | [] => some []
  | n :: ns => do some ((← ofNode? n) :: (← ofItems? ns))

/-- The members of a table; of two with one key the later one counts. -/
def ofMembers? : List (Yaml.Node × Yaml.Node) → Option (List (String × Layer))
  | [] => some []
  | (k, v) :: ms => do
    let key ← (← ofNode? k).key?
    let v ← ofNode? v
    let rest ← ofMembers? ms
    some (if (rest.lookup key).isSome then rest else (key, v) :: rest)

end

/-- The characters that a key of a path consists of. -/
def isKeyChar (c : Char) : Bool := c.isAlphanum || c == ' ' || c == '_' || c == '-'

/-- The keys of a path that is written with points; a text of another form is one key. -/
def path (s : String) : List String :=
  let keys := s.splitOn "."
  if keys.all fun k => !k.isEmpty && k.toList.all isKeyChar then keys else [s]

/-- Puts the members of a file to a layer; their keys may be paths. -/
def addFile (l : Layer) (file : List (String × Layer)) : Layer :=
  file.foldl (fun l (k, v) =>
    match path k with
    | [key] => l.merge key v
    | keys => l.setPath keys v) l

/-- The members of a file: one document with a table, or none. -/
def readFileText? (s : String) : Option (List (String × Layer)) :=
  let cs := s.toList
  let s := if cs.head? == some '\ufeff' then String.ofList cs.tail else s
  match Yaml.Document.next true (Yaml.Token.ofText s) with
  | .none => some []
  | .malformed => none
  | .document es rest =>
    match Yaml.Document.next false rest with
    | .none => do
      match ← ofNode? (← Yaml.Node.ofEvents? es) with
      | .table ms => some ms
      | _ => none
    | _ => none

/-! ## Variables -/

/-- The path that a variable sets, if it is one of the program's. -/
def variablePath? (name : String) : Option (List String) :=
  let name := (Text.lower name).toList
  let start := "lossless__".toList
  if start.isPrefixOf name then
    some (path (".".intercalate ((String.ofList (name.drop start.length)).splitOn "__")))
  else none

/-- Puts a variable to a layer. -/
def addVariable (l : Layer) (v : String × String) : Layer :=
  match variablePath? v.1 with
  | some p => l.setPath p (.text v.2)
  | none => l

end Layer

namespace Settings

/-- The names of the files that settings are looked for in. -/
def fileNames : List String := ["lossless.yaml", "lossless.yml"]

/-- The settings in the text of a file, if there is one, and in environment variables (`load`). -/
def readLayers [DurationReader] (file : Option String) (named : List (String × String)) :
    Except SettingsError Settings :=
  match (file.map Layer.readFileText?).getD (some []) with
  | none => .error .malformedLayers
  | some ms =>
    let layer := named.foldl Layer.addVariable (Layer.addFile (.table []) ms)
    match Layer.format.settings? layer with
    | none => .error .malformedLayers
    | some raw => Settings.ofRaw raw

end Settings

end InstanceLifecycle
