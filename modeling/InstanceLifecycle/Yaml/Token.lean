import InstanceLifecycle.Width
import InstanceLifecycle.Yaml.Scalar

/-!
# Tokens

Markup is a sequence of tokens. Most of them are written; the starts and ends of block collections
follow from the columns, and the key of a mapping without a question mark is only known as one at
the colon behind it. A possible key is therefore remembered with its place, and its token is put
there when the colon comes. A key has to stand in one line, within 1024 characters of its colon.
-/

namespace InstanceLifecycle.Yaml

/-! ## Tokens -/

/-- How a scalar is written, as far as it matters for its meaning. -/
inductive Style
  | plain | literal | other
  deriving DecidableEq, Repr, BEq

/-- A token. -/
inductive Token
  | version (major minor : Nat)
  | tagHandle (handle stem : String)
  | documentStart | documentEnd | streamEnd
  | blockSequence | blockMapping | blockEnd
  | flowSequence | flowSequenceEnd | flowMapping | flowMappingEnd
  | blockEntry | flowEntry | key | value
  | alias (name : String)
  | anchor (name : String)
  | tag (handle suffix : String)
  | scalar (text : String) (style : Style)
  deriving DecidableEq, Repr

/-! ## The lexer's state -/

/-- A place where a key may have started. -/
structure KeyMark where
  /-- How many tokens precede the key. -/
  token : Nat
  /-- Whether nothing but a key may stand there. -/
  required : Bool
  index : Nat
  line : Nat
  column : Nat

/-- What the lexer knows between two tokens. -/
structure Lexer where
  cursor : Cursor
  tokens : Array Token := #[]
  /-- The columns of the open block collections, the innermost first. -/
  indents : List Nat := []
  /-- Whether a key may start at the next token. -/
  keyAllowed : Bool := true
  /-- The possible key of the block context and of each open bracket, the innermost first. -/
  keys : List (Option KeyMark) := [none]

namespace Lexer

/-- Whether a bracket is open. -/
def inFlow (l : Lexer) : Bool := l.keys.length > 1

/-- The lexer with another token. -/
def push (l : Lexer) (t : Token) : Lexer := { l with tokens := l.tokens.push t }

/-- The lexer with another token that is one character long. -/
def pushChar (l : Lexer) (t : Token) : Lexer := { l.push t with cursor := l.cursor.advance }

/-- Whether a possible key can still be one at this place. -/
def KeyMark.isFresh (k : KeyMark) (c : Cursor) : Bool :=
  k.line == c.line && c.index ≤ k.index + 1024

/-- Forgets possible keys that are too far away; none of them may be required. -/
def dropStaleKeys? (l : Lexer) : Option Lexer := do
  let keys ← l.keys.mapM fun k =>
    match k with
    | some m =>
      if KeyMark.isFresh m l.cursor then some (some m) else if m.required then none else some none
    | none => some none
  some { l with keys := keys }

/-- Forgets the possible key of this context; it must not be required. -/
def dropKey? (l : Lexer) : Option Lexer :=
  match l.keys with
  | some m :: ks => if m.required then none else some { l with keys := none :: ks }
  | _ => some l

/-- Remembers that a key may start here. -/
def saveKey? (l : Lexer) : Option Lexer :=
  if l.keyAllowed then do
    let required := !l.inFlow && l.indents.head? == some l.cursor.column
    let m : KeyMark := ⟨l.tokens.size, required, l.cursor.index, l.cursor.line, l.cursor.column⟩
    let l ← l.dropKey?
    some { l with keys := some m :: l.keys.tail }
  else some l

/-- Opens a block collection at a column unless it lies in an open one; its token is put before
those from number `at_` on. -/
def indentTo (l : Lexer) (column : Nat) (at_ : Nat) (t : Token) : Lexer :=
  if l.inFlow || l.indents.head?.any (column ≤ ·) then l
  else
    { l with
      indents := column :: l.indents
      tokens := l.tokens.insertIdxIfInBounds at_ t }

/-- Closes the block collections whose columns satisfy a condition. -/
def closeWhile (l : Lexer) (p : Nat → Bool) : Lexer :=
  if l.inFlow then l
  else
    let closed := l.indents.takeWhile p
    { l with
      indents := l.indents.dropWhile p
      tokens := l.tokens ++ (closed.map fun _ => Token.blockEnd).toArray }

/-- Closes all block collections before something that stands outside of them. -/
def closeAll? (l : Lexer) : Option Lexer := do
  let l ← (l.closeWhile fun _ => true).dropKey?
  some { l with keyAllowed := false }

/-! ## Between tokens -/

/-- Skips blanks, comments and line ends before the next token. -/
def skipToToken (fuel : Nat) (l : Lexer) : Lexer :=
  match fuel with
  | 0 => l
  | fuel + 1 =>
    let c := l.cursor
    let c := if c.column == 0 && c.at? '\ufeff' then c.advance else c
    let tabs := l.inFlow || !l.keyAllowed
    let c := c.skipWhile fun x => x == ' ' || (tabs && x == '\t')
    let c := if c.at? '#' then c.skipLineRest else c
    if c.atBreak then
      skipToToken fuel { l with cursor := c.skipBreak, keyAllowed := l.keyAllowed || !l.inFlow }
    else { l with cursor := c }

/-! ## Directives -/

/-- A number of a version. -/
def versionNumber? (c : Cursor) : Option (Nat × Cursor) := do
  let (ds, c) := c.takeWhile Char.isDigit
  if ds.length > 9 then none else some (← Text.readNat? 10 ds, c)

/-- The handle of a tag. A directive's handle has to end in an exclamation mark. -/
def tagHandle? (directive : Bool) (c : Cursor) : Option (List Char × Cursor) :=
  if c.at? '!' then
    let (name, c) := c.advance.takeWhile isNameChar
    if c.at? '!' then some ('!' :: name ++ ['!'], c.advance)
    else if directive && !name.isEmpty then none
    else some ('!' :: name, c)
  else none

/-- May stand in the text of a tag; brackets and commas only in one between angle brackets. -/
def isTagChar (verbatim : Bool) (x : Char) : Bool :=
  isNameChar x || ";/?:@&=+$.%!~*'()".toList.contains x || (verbatim && ",[]".toList.contains x)

/-- The number of octets of a character that starts with this octet. -/
def octetCount? (n : Nat) : Option Nat :=
  if n < 0x80 then some 1 else if n / 0x20 = 6 then some 2 else if n / 0x10 = 14 then some 3
  else if n / 0x08 = 30 then some 4 else none

/-- The octets of an escaped character, and the text behind it. -/
def escapedOctets? : Nat → List Char → Option (List Nat × List Char)
  | 0, cs => some ([], cs)
  | n + 1, '%' :: a :: b :: r => do
    let x ← Text.readNat? 16 [a, b]
    let (xs, r) ← escapedOctets? n r
    some (x :: xs, r)
  | _ + 1, _ => none

/-- The code that the octets of a character stand for. -/
def octetsCode? : List Nat → Option Nat
  | [] => none
  | x :: xs =>
    let lead := if xs.isEmpty then x else x % Width.bound (6 - xs.length)
    xs.foldlM (fun n y => if y / 0x40 = 2 then some (n * 0x40 + y % 0x40) else none) lead

/-- The text of a tag with its escapes read. -/
def unescapeTag? (fuel : Nat) (cs : List Char) : Option (List Char) :=
  match fuel, cs with
  | _, [] => some []
  | 0, _ => none
  | fuel + 1, '%' :: a :: b :: r => do
    let n ← octetCount? (← Text.readNat? 16 [a, b])
    let (xs, r) ← escapedOctets? n ('%' :: a :: b :: r)
    let code ← octetsCode? xs
    (unescapeTag? fuel r).map (Char.ofNat code :: ·)
  | fuel + 1, x :: r => if x == '%' then none else (unescapeTag? fuel r).map (x :: ·)

/-- The text of a tag, and the cursor behind it; with `before` it may be empty. -/
def tagText? (verbatim : Bool) (before : List Char) (c : Cursor) : Option (List Char × Cursor) := do
  let (xs, c) := c.takeWhile (isTagChar verbatim)
  if before.isEmpty && xs.isEmpty then none
  else some (before.drop 1 ++ (← unescapeTag? xs.length xs), c)

/-- The token of a directive. -/
def directive? (c : Cursor) : Option (Token × Cursor) := do
  let (name, c) := c.advance.takeWhile isNameChar
  if !c.atGap then none
  else
    let c := c.skipBlanks
    if name == "YAML".toList then
      let (major, c) ← versionNumber? c
      if !c.at? '.' then none
      else
        let (minor, c) ← versionNumber? c.advance
        some (.version major minor, ← c.finishLine?)
    else if name == "TAG".toList then
      let (handle, c) ← tagHandle? true c
      if !c.atBlank then none
      else
        let (stem, c) ← tagText? true [] c.skipBlanks
        if !c.atGap then none
        else some (.tagHandle (String.ofList handle) (String.ofList stem), ← c.finishLine?)
    else none

/-! ## Anchors and tags -/

/-- The name of an anchor or alias. -/
def name? (c : Cursor) : Option (String × Cursor) :=
  let (xs, c) := c.advance.takeWhile isNameChar
  if xs.isEmpty || !(c.atGap || c.head?.any fun x => "?:,]\x7d%@`".toList.contains x) then none
  else some (String.ofList xs, c)

/-- The token of a tag. -/
def tag? (inFlow : Bool) (c : Cursor) : Option (Token × Cursor) := do
  let (handle, suffix, c) ←
    if c.ahead? 1 == some '<' then do
      let (xs, c) ← tagText? true [] (c.advanceBy 2)
      if c.at? '>' then some ([], xs, c.advance) else none
    else do
      let (handle, c) ← tagHandle? false c
      if handle.length > 1 && handle.getLast? == some '!' then do
        let (xs, c) ← tagText? false [] c
        some (handle, xs, c)
      else do
        let (xs, c) ← tagText? false handle c
        if xs.isEmpty then some ([], ['!'], c) else some (['!'], xs, c)
  if c.atGap || (inFlow && c.at? ',') then
    some (.tag (String.ofList handle) (String.ofList suffix), c)
  else none

/-! ## The next token -/

/-- Goes on behind a token that was read by itself. -/
def accept (l : Lexer) (t : Token) (c : Cursor) (keyAllowed : Bool) : Lexer :=
  { l.push t with cursor := c, keyAllowed := keyAllowed }

/-- Opens a bracket. -/
def openFlow? (l : Lexer) (t : Token) : Option Lexer := do
  let l ← l.saveKey?
  some { l.pushChar t with keys := none :: l.keys, keyAllowed := true }

/-- Closes a bracket. -/
def closeFlow? (l : Lexer) (t : Token) : Option Lexer := do
  let l ← l.dropKey?
  let keys := if l.inFlow then l.keys.tail else l.keys
  some { l.pushChar t with keys := keys, keyAllowed := false }

/-- An item of a block sequence. -/
def blockEntry? (l : Lexer) : Option Lexer := do
  if !l.inFlow && !l.keyAllowed then none
  else
    let l := l.indentTo l.cursor.column l.tokens.size .blockSequence
    let l ← l.dropKey?
    some { l.pushChar .blockEntry with keyAllowed := true }

/-- A key with a question mark. -/
def key? (l : Lexer) : Option Lexer := do
  if !l.inFlow && !l.keyAllowed then none
  else
    let l := l.indentTo l.cursor.column l.tokens.size .blockMapping
    let l ← l.dropKey?
    some { l.pushChar .key with keyAllowed := !l.inFlow }

/-- The colon before a value. -/
def value? (l : Lexer) : Option Lexer :=
  match l.keys with
  | some m :: ks =>
    let l := { l with tokens := l.tokens.insertIdxIfInBounds m.token .key }
    let l := l.indentTo m.column m.token .blockMapping
    some { l.pushChar .value with keys := none :: ks, keyAllowed := false }
  | _ =>
    if !l.inFlow && !l.keyAllowed then none
    else
      let l := l.indentTo l.cursor.column l.tokens.size .blockMapping
      some { l.pushChar .value with keyAllowed := !l.inFlow }

/-- A token that may start a key, read by its own reader. -/
def keyLike? (l : Lexer) (read : Lexer → Option (Token × Bool × Cursor)) : Option Lexer := do
  let l ← l.saveKey?
  let (t, allowed, c) ← read l
  some (l.accept t c allowed)

/-- Whether a plain scalar may start at this character. -/
def startsPlain (l : Lexer) (x : Char) : Bool :=
  let c := l.cursor
  !(c.atGap || "-?:,[]\x7b\x7d#&*!|>'\"%@`".toList.contains x) ||
    (x == '-' && !(c.ahead? 1).any isBlank) ||
    (!l.inFlow && (x == '?' || x == ':') && !c.gapAhead 1)

/-- Reads the next token, which starts with this character. -/
def token? (l : Lexer) (x : Char) : Option Lexer :=
  let c := l.cursor
  let alone := l.inFlow || c.gapAhead 1
  if c.column == 0 && x == '%' then do
    let l ← l.closeAll?
    let (t, c) ← directive? l.cursor
    some (l.accept t c false)
  else if c.atDocumentMarker then do
    let l ← l.closeAll?
    some (l.accept (if x == '-' then .documentStart else .documentEnd) (c.advanceBy 3) false)
  else if x == '[' then l.openFlow? .flowSequence
  else if x == '\x7b' then l.openFlow? .flowMapping
  else if x == ']' then l.closeFlow? .flowSequenceEnd
  else if x == '\x7d' then l.closeFlow? .flowMappingEnd
  else if x == ',' then do
    let l ← l.dropKey?
    some { l.pushChar .flowEntry with keyAllowed := true }
  else if x == '-' && c.gapAhead 1 then l.blockEntry?
  else if x == '?' && alone then l.key?
  else if x == ':' && alone then l.value?
  else if x == '*' then
    l.keyLike? fun l => (name? l.cursor).map fun (n, c) => (.alias n, false, c)
  else if x == '&' then
    l.keyLike? fun l => (name? l.cursor).map fun (n, c) => (.anchor n, false, c)
  else if x == '!' then
    l.keyLike? fun l => (tag? l.inFlow l.cursor).map fun (t, c) => (t, false, c)
  else if (x == '|' || x == '>') && !l.inFlow then do
    let l ← l.dropKey?
    let (xs, c) ← readBlock? (x == '|') l.indents.head? l.cursor
    some (l.accept (.scalar (String.ofList xs) (if x == '|' then .literal else .other)) c true)
  else if x == '\'' || x == '"' then
    l.keyLike? fun l =>
      (readQuoted? x l.cursor).map fun (xs, c) => (.scalar (String.ofList xs) .other, false, c)
  else if l.startsPlain x then
    l.keyLike? fun l =>
      let indent := (l.indents.head?.map (· + 1)).getD 0
      (readPlain? l.inFlow indent l.cursor).map fun (xs, lines, c) =>
        (.scalar (String.ofList xs) .plain, lines, c)
  else none

/-- Goes to the next token and reads it; at the end of the text the flag is set. -/
def step? (l : Lexer) : Option (Lexer × Bool) := do
  let l := l.skipToToken (l.cursor.left.length + 1)
  let l ← l.dropStaleKeys?
  let column := l.cursor.column
  let l := l.closeWhile (column < ·)
  match l.cursor.head? with
  | some x => (l.token? x).map (·, false)
  | none =>
    let l ← l.closeAll?
    some (l.push .streamEnd, true)

/-- Reads tokens up to the end of the text or the first error. -/
def run (fuel : Nat) (l : Lexer) : Lexer :=
  match fuel with
  | 0 => l
  | fuel + 1 =>
    match l.step? with
    | some (l, false) => run fuel l
    | some (l, true) => l
    | none => l

end Lexer

/-- The tokens of a text. The last one is the end of the stream; it is missing if the text goes on
with something that is no token. -/
def Token.ofText (s : String) : List Token :=
  let cs := s.toList
  (Lexer.run (cs.length + 2) { cursor := ⟨cs, 0, 0, 0⟩ }).tokens.toList

end InstanceLifecycle.Yaml
