import InstanceLifecycle.Yaml.Token

/-!
# Events

A document is a tree that is told from left to right: scalars, aliases, and the starts and ends of
collections. The grammar turns tokens into such a list. A node that is left out is an empty plain
scalar.
-/

namespace InstanceLifecycle.Yaml

/-! ## Events -/

/-- The properties of a node: its anchor and its tag. -/
structure Properties where
  anchor : Option String := none
  tag : Option String := none
  deriving DecidableEq, Repr

/-- A step through a document. -/
inductive Event
  | alias (name : String)
  | scalar (properties : Properties) (text : String) (style : Style)
  | sequence (properties : Properties)
  | mapping (properties : Properties)
  /-- The end of the innermost collection. -/
  | close
  deriving DecidableEq, Repr

/-- What stands for a node that is left out. -/
def Event.blank (p : Properties) : Event := .scalar p "" .plain

/-! ## Tags -/

/-- The tag handles of a document and what they stand for. -/
abbrev Handles := List (String × String)

/-- The handles that need no directive. -/
def defaultHandles : Handles := [("!", "!"), ("!!", "tag:yaml.org,2002:")]

/-- The tag with a handle and a suffix; without handle the suffix is all of it. -/
def resolveTag? (hs : Handles) (handle suffix : String) : Option String :=
  if handle.isEmpty then some suffix else (hs.lookup handle).map (· ++ suffix)

/-- The properties at the start of some tokens. -/
def properties? (hs : Handles) : List Token → Option (Properties × List Token)
  | .anchor a :: .tag h s :: r => (resolveTag? hs h s).map fun t => (⟨some a, some t⟩, r)
  | .tag h s :: .anchor a :: r => (resolveTag? hs h s).map fun t => (⟨some a, some t⟩, r)
  | .anchor a :: r => some (⟨some a, none⟩, r)
  | .tag h s :: r => (resolveTag? hs h s).map fun t => (⟨none, some t⟩, r)
  | r => some ({}, r)

/-! ## The grammar -/

/-- Whether the first token is one of these; nothing if there is no token. -/
def next? (ts : List Token) (ends : List Token) : Option Bool :=
  ts.head?.map ends.contains

mutual

/-- A node: `block` allows block collections, `indentless` a sequence at the column of its
parent. -/
def node? (fuel : Nat) (hs : Handles) (block indentless : Bool) (ts : List Token) :
    Option (List Event × List Token) :=
  match fuel with
  | 0 => none
  | fuel + 1 =>
    match ts with
    | .alias n :: r => some ([.alias n], r)
    | ts => do
      let (p, ts) ← properties? hs ts
      let wrap (start : Event) : List Event × List Token → List Event × List Token :=
        fun (es, r) => (start :: es ++ [.close], r)
      match ts, block, indentless with
      | .blockEntry :: _, _, true => (indentlessItems? fuel hs ts).map (wrap (.sequence p))
      | .scalar text style :: r, _, _ => some ([.scalar p text style], r)
      | .flowSequence :: r, _, _ => (flowItems? fuel hs true r).map (wrap (.sequence p))
      | .flowMapping :: r, _, _ => (flowMembers? fuel hs true r).map (wrap (.mapping p))
      | .blockSequence :: r, true, _ => (blockItems? fuel hs r).map (wrap (.sequence p))
      | .blockMapping :: r, true, _ => (blockMembers? fuel hs r).map (wrap (.mapping p))
      | [], _, _ => none
      | ts, _, _ => if p = {} then none else some ([.blank p], ts)

/-- A node that may be left out before certain tokens. -/
def optionalNode? (fuel : Nat) (hs : Handles) (block indentless : Bool) (ends : List Token)
    (ts : List Token) : Option (List Event × List Token) :=
  match fuel with
  | 0 => none
  | fuel + 1 => do
    if ← next? ts ends then some ([.blank {}], ts) else node? fuel hs block indentless ts

/-- The items of a block sequence and its end. -/
def blockItems? (fuel : Nat) (hs : Handles) (ts : List Token) : Option (List Event × List Token) :=
  match fuel with
  | 0 => none
  | fuel + 1 =>
    match ts with
    | .blockEntry :: r => do
      let (es, r) ← optionalNode? fuel hs true false [.blockEntry, .blockEnd] r
      let (fs, r) ← blockItems? fuel hs r
      some (es ++ fs, r)
    | .blockEnd :: r => some ([], r)
    | _ => none

/-- The items of a sequence without an indentation of its own. -/
def indentlessItems? (fuel : Nat) (hs : Handles) (ts : List Token) :
    Option (List Event × List Token) :=
  match fuel with
  | 0 => none
  | fuel + 1 =>
    match ts with
    | .blockEntry :: r => do
      let (es, r) ← optionalNode? fuel hs true false [.blockEntry, .key, .value, .blockEnd] r
      let (fs, r) ← indentlessItems? fuel hs r
      some (es ++ fs, r)
    | [] => none
    | ts => some ([], ts)

/-- The members of a block mapping and its end. -/
def blockMembers? (fuel : Nat) (hs : Handles) (ts : List Token) :
    Option (List Event × List Token) :=
  match fuel with
  | 0 => none
  | fuel + 1 =>
    match ts with
    | .key :: r => do
      let ends := [Token.key, .value, .blockEnd]
      let (ks, r) ← optionalNode? fuel hs true true ends r
      let (vs, r) ←
        match r with
        | .value :: r => optionalNode? fuel hs true true ends r
        | [] => none
        | r => some ([.blank {}], r)
      let (fs, r) ← blockMembers? fuel hs r
      some (ks ++ vs ++ fs, r)
    | .blockEnd :: r => some ([], r)
    | _ => none

/-- The value of a member between brackets, if a colon comes. -/
def flowValue? (fuel : Nat) (hs : Handles) (ends : List Token) (ts : List Token) :
    Option (List Event × List Token) :=
  match fuel with
  | 0 => none
  | fuel + 1 =>
    match ts with
    | .value :: r => optionalNode? fuel hs false false ends r
    | [] => none
    | r => some ([.blank {}], r)

/-- The items of a sequence between brackets and its end. -/
def flowItems? (fuel : Nat) (hs : Handles) (first : Bool) (ts : List Token) :
    Option (List Event × List Token) :=
  match fuel with
  | 0 => none
  | fuel + 1 =>
    let ts? :=
      match first, ts with
      | true, ts => some ts
      | false, .flowEntry :: r => some r
      | false, .flowSequenceEnd :: r => some (.flowSequenceEnd :: r)
      | false, _ => none
    match ts? with
    | none => none
    | some (.flowSequenceEnd :: r) => some ([], r)
    | some (.key :: r) => do
      let ends := [Token.flowEntry, .flowSequenceEnd]
      let (ks, r) ←
        if ← next? r (.value :: ends) then some ([.blank {}], r.tail)
        else node? fuel hs false false r
      let (vs, r) ← flowValue? fuel hs ends r
      let (fs, r) ← flowItems? fuel hs false r
      some (.mapping {} :: ks ++ vs ++ .close :: fs, r)
    | some ts => do
      let (es, r) ← node? fuel hs false false ts
      let (fs, r) ← flowItems? fuel hs false r
      some (es ++ fs, r)

/-- The members of a mapping between braces and its end. -/
def flowMembers? (fuel : Nat) (hs : Handles) (first : Bool) (ts : List Token) :
    Option (List Event × List Token) :=
  match fuel with
  | 0 => none
  | fuel + 1 =>
    let ts? :=
      match first, ts with
      | true, ts => some ts
      | false, .flowEntry :: r => some r
      | false, .flowMappingEnd :: r => some (.flowMappingEnd :: r)
      | false, _ => none
    match ts? with
    | none => none
    | some (.flowMappingEnd :: r) => some ([], r)
    | some (.key :: r) => do
      let ends := [Token.flowEntry, .flowMappingEnd]
      let (ks, r) ← optionalNode? fuel hs false false (.value :: ends) r
      let (vs, r) ← flowValue? fuel hs ends r
      let (fs, r) ← flowMembers? fuel hs false r
      some (ks ++ vs ++ fs, r)
    | some ts => do
      let (ks, r) ← node? fuel hs false false ts
      let (fs, r) ← flowMembers? fuel hs false r
      some (ks ++ .blank {} :: fs, r)

end

/-! ## Documents -/

/-- The directives at the start of some tokens. Each may be given once, and only versions 1.1 and
1.2 are known. -/
def directives? (versionSeen : Bool) (hs : Handles) : List Token → Option (Handles × List Token)
  | .version major minor :: r =>
    if versionSeen || major != 1 || !(minor == 1 || minor == 2) then none
    else directives? true hs r
  | .tagHandle h p :: r =>
    if (hs.lookup h).isSome then none else directives? versionSeen (hs ++ [(h, p)]) r
  | ts => some (hs ++ defaultHandles, ts)

/-- What comes next in a stream of documents. -/
inductive Document.Next
  | none
  | malformed
  | document (events : List Event) (rest : List Token)

/-- The next document of a stream. Only the first one may do without its marker. -/
def Document.next (first : Bool) (ts : List Token) : Document.Next :=
  let fuel := 8 * ts.length + 8
  let starts := [Token.documentStart, .streamEnd]
  let isDirective : Token → Bool
    | .version .. | .tagHandle .. => true
    | _ => false
  let finish : Option (List Event × List Token) → Document.Next
    | some (es, .documentEnd :: r) => .document es r
    | some (es, t :: r) => .document es (t :: r)
    | _ => .malformed
  let ts := if first then ts else ts.dropWhile (· == .documentEnd)
  match ts with
  | [] => .malformed
  | t :: r =>
    if t = .streamEnd then .none
    else if first && !starts.contains t && !isDirective t then
      finish (node? fuel defaultHandles true false (t :: r))
    else
      match directives? false [] (t :: r) with
      | some (hs, .documentStart :: r) =>
        match r with
        | [] => .malformed
        | t :: _ =>
          if t = .documentEnd || starts.contains t || isDirective t then
            finish (some ([.blank {}], r))
          else finish (node? fuel hs true false r)
      | _ => .malformed

end InstanceLifecycle.Yaml
