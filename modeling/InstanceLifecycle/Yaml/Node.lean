import InstanceLifecycle.Yaml.Event
import InstanceLifecycle.Decimal.Shortest

/-!
# Nodes

The tree of a document, with each alias replaced by the node it names. An anchor is kept under the
number of different names seen before it; a name that is anchored anew moves to the next number, so
the number, and with it the node, may come to be shared with a later name.

A tree is at most 128 collections deep, and of aliases at most a hundred times as many are followed
as there are events; beyond that a document is refused.
-/

namespace InstanceLifecycle.Yaml

/-! ## Trees -/

/-- A node of a document. -/
inductive Node
  | scalar (tag : Option String) (text : String) (style : Style)
  | sequence (tag : Option String) (items : List Node)
  | mapping (tag : Option String) (members : List (Node × Node))
  deriving Repr, BEq, Inhabited

/-! ## Anchors -/

/-- The numbers of the anchored names, and the places of the nodes by number. -/
structure Anchors where
  numbers : List (String × Nat) := []
  places : List (Nat × Nat) := []

namespace Anchors

/-- Anchors a name at the event with this place. -/
def bind (a : Anchors) (name : String) (place : Nat) : Anchors :=
  let number := a.numbers.length
  ⟨(name, number) :: a.numbers.filter (·.1 ≠ name), (number, place) :: a.places⟩

/-- The number of a name. -/
def number? (a : Anchors) (name : String) : Option Nat := a.numbers.lookup name

/-- The place of the node with a number. -/
def place? (a : Anchors) (number : Nat) : Option Nat := a.places.lookup number

end Anchors

/-- An event with its anchor bound and its alias resolved to a number. -/
inductive Entry
  | alias (number : Nat)
  | scalar (tag : Option String) (text : String) (style : Style)
  | sequence (tag : Option String)
  | mapping (tag : Option String)
  | close
  deriving Inhabited

/-- The events of a document with the places of its anchors. -/
structure Entries where
  entries : Array Entry := #[]
  anchors : Anchors := {}

namespace Entries

/-- Binds the anchor of a node that comes next. -/
def bind (e : Entries) (p : Properties) : Entries :=
  match p.anchor with
  | none => e
  | some n => { e with anchors := e.anchors.bind n e.entries.size }

/-- Adds an event; an alias has to name an anchor before it. -/
def add? (e : Entries) : Event → Option Entries
  | .alias n => (e.anchors.number? n).map fun k => { e with entries := e.entries.push (.alias k) }
  | .scalar p t s =>
    let e := e.bind p
    some { e with entries := e.entries.push (.scalar p.tag t s) }
  | .sequence p =>
    let e := e.bind p
    some { e with entries := e.entries.push (.sequence p.tag) }
  | .mapping p =>
    let e := e.bind p
    some { e with entries := e.entries.push (.mapping p.tag) }
  | .close => some { e with entries := e.entries.push .close }

/-- The entries of some events. -/
def ofEvents? (es : List Event) : Option Entries := es.foldlM add? {}

mutual

/-- The node at a place, the place behind it and the number of aliases followed so far. `depth`
more collections may be nested. -/
def node? (e : Entries) (fuel depth followed place : Nat) : Option (Node × Nat × Nat) :=
  match fuel with
  | 0 => none
  | fuel + 1 =>
    match e.entries[place]? with
    | none | some .close => none
    | some (.alias k) => do
      if followed + 1 > 100 * e.entries.size then none
      else
        let (n, _, followed) ← node? e fuel depth (followed + 1) (← e.anchors.place? k)
        some (n, place + 1, followed)
    | some (.scalar tag text style) => some (.scalar tag text style, place + 1, followed)
    | some (.sequence tag) =>
      match depth with
      | 0 => none
      | depth + 1 =>
        (items? e fuel depth followed (place + 1)).map fun (ns, r) => (.sequence tag ns, r)
    | some (.mapping tag) =>
      match depth with
      | 0 => none
      | depth + 1 =>
        (members? e fuel depth followed (place + 1)).map fun (ms, r) => (.mapping tag ms, r)

/-- The items of a sequence from a place on. -/
def items? (e : Entries) (fuel depth followed place : Nat) : Option (List Node × Nat × Nat) :=
  match fuel with
  | 0 => none
  | fuel + 1 =>
    match e.entries[place]? with
    | some .close => some ([], place + 1, followed)
    | _ => do
      let (n, place, followed) ← node? e fuel depth followed place
      let (ns, place, followed) ← items? e fuel depth followed place
      some (n :: ns, place, followed)

/-- The members of a mapping from a place on. -/
def members? (e : Entries) (fuel depth followed place : Nat) :
    Option (List (Node × Node) × Nat × Nat) :=
  match fuel with
  | 0 => none
  | fuel + 1 =>
    match e.entries[place]? with
    | some .close => some ([], place + 1, followed)
    | _ => do
      let (k, place, followed) ← node? e fuel depth followed place
      let (v, place, followed) ← node? e fuel depth followed place
      let (ms, place, followed) ← members? e fuel depth followed place
      some ((k, v) :: ms, place, followed)

end

end Entries

/-- The tree of a document. -/
def Node.ofEvents? (es : List Event) : Option Node := do
  let e ← Entries.ofEvents? es
  (e.node? (130 * (e.entries.size + 2)) 128 0 0).map Prod.fst

/-! ## Plain values -/

/-- Whether a plain text stands for nothing. -/
def isNull (s : String) : Bool := s == "null" || s == "Null" || s == "NULL" || s == "~"

/-- The truth value that a plain text stands for. -/
def bool? (s : String) : Option Bool :=
  if s == "true" || s == "True" || s == "TRUE" then some true
  else if s == "false" || s == "False" || s == "FALSE" then some false
  else none

/-- The digits of a number in base sixteen, eight or two with a mark before them. -/
def marked? : List Char → Option Nat
  | '0' :: 'x' :: r => Text.readNat? 16 r
  | '0' :: 'o' :: r => Text.readNat? 8 r
  | '0' :: 'b' :: r => Text.readNat? 2 r
  | _ => none

/-- Whether digits start with a zero that is not all of them. -/
def hasLeadingZero (cs : List Char) : Bool :=
  cs.length > 1 && cs.head? == some '0' && cs.all Char.isDigit

/-- The natural number that a plain text stands for; one plus sign may precede it. -/
def natural? (s : String) : Option Nat :=
  let cs := s.toList
  let cs := if cs.head? == some '+' then cs.tail else cs
  (marked? cs).or (if hasLeadingZero cs then none else Text.readNat? 10 cs)

/-- The negative number that a plain text stands for, without its sign. -/
def negative? (s : String) : Option Nat :=
  match s.toList with
  | '-' :: r => (marked? r).or (if hasLeadingZero r then none else Text.readNat? 10 r)
  | _ => none

/-- The decimal that a text stands for: its sign, its digits as a number and its exponent. -/
def decimal? (cs : List Char) : Option (Bool × Nat × Int) := do
  let (isNegative, cs) :=
    match cs with
    | '-' :: r => (true, r)
    | '+' :: r => (false, r)
    | cs => (false, cs)
  let (whole, cs) := cs.span Char.isDigit
  let (places, cs) :=
    match cs with
    | '.' :: r => r.span Char.isDigit
    | cs => ([], cs)
  let m ← Text.readNat? 10 (whole ++ places)
  let e ←
    match cs with
    | [] => some (0 : Int)
    | x :: r =>
      if x == 'e' || x == 'E' then
        match r with
        | '-' :: r => (Text.readNat? 10 r).map fun n => -(n : Int)
        | '+' :: r => (Text.readNat? 10 r).map fun n => (n : Int)
        | r => (Text.readNat? 10 r).map fun n => (n : Int)
      else none
  some (isNegative, m, e - places.length)

/-- The finite double that a text stands for. -/
def float? (s : String) : Option Float := do
  let (isNegative, m, e) ← decimal? s.toList
  let x := Float.ofScientific m (e < 0) e.natAbs
  if x.isFinite then some (if isNegative then -x else x) else none

/-- The meaning of a scalar. -/
inductive Meaning
  | null
  | bool (b : Bool)
  | integer (n : Int)
  /-- A decimal, by its bits. -/
  | float (bits : UInt64)
  | text (s : String)
  deriving DecidableEq, Repr

/-- The bits of the double that a text stands for; zero has no sign. -/
def floatBits? (s : String) : Option UInt64 :=
  if [".inf", ".Inf", ".INF", "+.inf", "+.Inf", "+.INF"].contains s then some 0x7FF0000000000000
  else if ["-.inf", "-.Inf", "-.INF"].contains s then some 0xFFF0000000000000
  else if [".nan", ".NaN", ".NAN"].contains s then some 0x7FF8000000000000
  else (float? s).map fun x => if x == 0 then 0 else x.toBits

/-- The integer that a plain text stands for. -/
def integer? (s : String) : Option Int :=
  match (natural? s).filter (· < Width.bound 128) with
  | some n => some n
  | none => ((negative? s).filter (· ≤ Width.bound 127)).map fun n => -(n : Int)

/-- The digits of a number behind its sign. -/
def unsignedPart (s : String) : List Char :=
  match s.toList with
  | '+' :: r => r
  | '-' :: r => r
  | cs => cs

/-- The meaning of a plain text. -/
def Meaning.ofPlain (s : String) : Meaning :=
  if s.isEmpty || isNull s then .null
  else
    match bool? s, integer? s with
    | some b, _ => .bool b
    | none, some n => .integer n
    | none, none =>
      if hasLeadingZero (unsignedPart s) then .text s
      else
        match floatBits? s with
        | some b => .float b
        | none => .text s

/-! ## Any value -/

/-- The tags of the basic kinds of scalars. -/
def coreTag (kind : String) : String := "tag:yaml.org,2002:" ++ kind

/-- Whether a tag is one of the document's own. -/
def isLocalTag (tag : String) : Bool := tag.startsWith "!"

/-- The meaning of a scalar with a tag; nothing if the text does not fit the tag. -/
def Meaning.ofScalar? (tag : Option String) (text : String) (style : Style) : Option Meaning :=
  match tag with
  | none => some (if style = .plain then .ofPlain text else .text text)
  | some t =>
    if t == coreTag "bool" then (bool? text).map .bool
    else if t == coreTag "int" then (integer? text).map .integer
    else if t == coreTag "float" then (floatBits? text).map .float
    else if t == coreTag "null" then if isNull text then some .null else none
    else if isLocalTag t && style = .plain then some (.ofPlain text)
    else some (.text text)

/-- A node by its meaning. -/
inductive Content
  | scalar (tag : Option String) (meaning : Meaning)
  | sequence (tag : Option String) (items : List Content)
  | mapping (tag : Option String) (members : List (Content × Content))
  deriving BEq

mutual

/-- The meaning of a node; nothing if a scalar does not fit its tag or a mapping has two keys with
one meaning. -/
def Node.content? : Node → Option Content
  | .scalar tag text style =>
    (Meaning.ofScalar? tag text style).map (.scalar (tag.filter isLocalTag))
  | .sequence tag items => (itemContents? items).map (.sequence (tag.filter isLocalTag))
  | .mapping tag members => do
    let ms ← memberContents? members
    let keys := ms.map Prod.fst
    if keys.zipIdx.any fun (k, i) => (keys.drop (i + 1)).contains k then none
    else some (.mapping (tag.filter isLocalTag) ms)

/-- The meanings of some nodes. -/
def itemContents? : List Node → Option (List Content)
  | [] => some []
  | n :: ns => do some ((← n.content?) :: (← itemContents? ns))

/-- The meanings of some keys and values. -/
def memberContents? : List (Node × Node) → Option (List (Content × Content))
  | [] => some []
  | (k, v) :: ms => do some ((← k.content?, ← v.content?) :: (← memberContents? ms))

end

end InstanceLifecycle.Yaml
