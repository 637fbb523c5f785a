import InstanceLifecycle.Yaml.Cursor

/-!
# Scalars in markup

The three ways to write a text: plain, between quotes, and as a block of lines. Each reader takes
the cursor at the start of the scalar and returns its text and the cursor behind it, or nothing if
the scalar is malformed.

Line ends inside plain and quoted scalars fold: a single one is a space, of several the first is
dropped. A block keeps its line ends (`|`) or folds them between lines that do not start with a
blank (`>`); what happens to its last line ends is told by `-` and `+`.
-/

namespace InstanceLifecycle.Yaml

/-! ## Folding -/

/-- What stands between two pieces of a scalar: blanks, or a first line end and further ones. -/
structure Gap where
  blanks : List Char := []
  /-- The first line end; nothing if the lines are still one. -/
  first : Option (List Char) := none
  further : List Char := []

namespace Gap

/-- The line ends of a gap as they count in a value. -/
def folded (first further : List Char) : List Char :=
  if first.head? = some '\n' then (if further.isEmpty then [' '] else further)
  else first ++ further

/-- The characters of a gap as they count in a value. -/
def chars (g : Gap) : List Char :=
  match g.first with
  | none => g.blanks
  | some first => folded first g.further

/-- Reads on from a gap to the next character that is neither blank nor line end. With `minimum`,
a tab must not stand before that column in a later line. -/
def read (minimum : Option Nat) (fuel : Nat) (g : Gap) (c : Cursor) : Option (Gap × Cursor) :=
  match fuel with
  | 0 => none
  | fuel + 1 =>
    if c.atBlank then
      if g.first.isNone then
        read minimum fuel { g with blanks := g.blanks ++ c.left.take 1 } c.advance
      else if c.at? '\t' && minimum.any (c.column < ·) then none
      else read minimum fuel g c.advance
    else if c.atBreak then
      let (b, c) := c.takeBreak
      match g.first with
      | none => read minimum fuel { blanks := [], first := some b, further := [] } c
      | some _ => read minimum fuel { g with further := g.further ++ b } c
    else some (g, c)

end Gap

/-! ## Plain scalars -/

/-- Ends a plain scalar inside brackets. -/
def isFlowIndicator (c : Char) : Bool := ",[]\x7b\x7d".toList.contains c

/-- The characters of a plain scalar up to the next gap or indicator, and the cursor there. -/
def plainRun (inFlow : Bool) (fuel : Nat) (c : Cursor) : Option (List Char × Cursor) :=
  match fuel with
  | 0 => none
  | fuel + 1 =>
    match c.head? with
    | none => some ([], c)
    | some x =>
      if c.atGap then some ([], c)
      else if x == ':' && inFlow && (c.ahead? 1).any (fun y => isFlowIndicator y || y == '?') then
        none
      else if (x == ':' && c.gapAhead 1) || (inFlow && isFlowIndicator x) then some ([], c)
      else (plainRun inFlow fuel c.advance).map fun (xs, c) => (x :: xs, c)

/-- The rest of a plain scalar behind a gap; also tells whether it spans several lines. -/
def plainFrom (inFlow : Bool) (indent : Nat) (fuel : Nat) (gap : Gap) (c : Cursor) :
    Option (List Char × Bool × Cursor) :=
  match fuel with
  | 0 => none
  | fuel + 1 =>
    let stop := some ([], gap.first.isSome, c)
    if c.atDocumentMarker || c.at? '#' then stop
    else do
      let (xs, c') ← plainRun inFlow fuel c
      let pre := if xs.isEmpty then [] else gap.chars ++ xs
      let gap := if xs.isEmpty then gap else {}
      if c'.atBlank || c'.atBreak then
        let (gap, c') ← gap.read (some indent) fuel c'
        if !inFlow && c'.column < indent then some (pre, gap.first.isSome, c')
        else
          let (rest, lines, c') ← plainFrom inFlow indent fuel gap c'
          some (pre ++ rest, lines, c')
      else some (pre, gap.first.isSome, c')

/-- A plain scalar; `indent` is the least column of its further lines. Also tells whether a line
end follows its last character. -/
def readPlain? (inFlow : Bool) (indent : Nat) (c : Cursor) : Option (List Char × Bool × Cursor) :=
  plainFrom inFlow indent (2 * c.left.length + 2) {} c

/-! ## Quoted scalars -/

/-- The character that a one-letter escape stands for. -/
def simpleEscape? : Char → Option Char
  | '0' => some '\x00'
  | 'a' => some '\x07'
  | 'b' => some '\x08'
  | 't' => some '\t'
  | '\t' => some '\t'
  | 'n' => some '\n'
  | 'v' => some '\x0b'
  | 'f' => some '\x0c'
  | 'r' => some '\r'
  | 'e' => some '\x1b'
  | ' ' => some ' '
  | '"' => some '"'
  | '/' => some '/'
  | '\\' => some '\\'
  | 'N' => some '\u0085'
  | '_' => some '\u00a0'
  | 'L' => some '\u2028'
  | 'P' => some '\u2029'
  | _ => none

/-- How many hexadecimal digits follow the letter of an escape. -/
def escapeDigits? : Char → Option Nat
  | 'x' => some 2
  | 'u' => some 4
  | 'U' => some 8
  | _ => none

/-- The character of an escape behind its backslash, and the cursor behind it. -/
def readEscape? (c : Cursor) : Option (Char × Cursor) := do
  let x ← c.head?
  match escapeDigits? x with
  | none => (simpleEscape? x).map fun y => (y, c.advance)
  | some n =>
    let ds := (c.left.drop 1).take n
    let code ← if ds.length = n then Text.readNat? 16 ds else none
    if (0xD800 ≤ code ∧ code ≤ 0xDFFF) ∨ 0x10FFFF < code then none
    else some (Char.ofNat code, c.advanceBy (n + 1))

/-- The characters of a quoted scalar up to the next gap or its closing quote. An escaped line end
is a gap of its own. -/
def quotedRun (quote : Char) (fuel : Nat) (c : Cursor) : Option (List Char × Gap × Cursor) :=
  match fuel with
  | 0 => none
  | fuel + 1 =>
    match c.head? with
    | none => some ([], {}, c)
    | some x =>
      let go (y : Char) (c : Cursor) :=
        (quotedRun quote fuel c).map fun (xs, r) => (y :: xs, r)
      if c.atGap then some ([], {}, c)
      else if x == quote then
        if quote == '\'' && c.ahead? 1 == some quote then go quote (c.advanceBy 2)
        else some ([], {}, c)
      else if x == '\\' && quote == '"' then
        if (c.ahead? 1).any isBreak then
          some ([], { blanks := [], first := some [], further := [] }, c.advance.skipBreak)
        else do
          let (y, c) ← readEscape? c.advance
          go y c
      else go x c.advance

/-- The rest of a quoted scalar and the cursor behind its closing quote. -/
def quotedFrom (quote : Char) (fuel : Nat) (c : Cursor) : Option (List Char × Cursor) :=
  match fuel with
  | 0 => none
  | fuel + 1 =>
    if c.atDocumentMarker || c.atEnd then none
    else do
      let (xs, gap, c) ← quotedRun quote fuel c
      if c.at? quote then some (xs, c.advance)
      else
        let (gap, c) ← gap.read none fuel c
        let (rest, c) ← quotedFrom quote fuel c
        some (xs ++ gap.chars ++ rest, c)

/-- A scalar between quotes. -/
def readQuoted? (quote : Char) (c : Cursor) : Option (List Char × Cursor) :=
  quotedFrom quote (2 * c.left.length + 2) c.advance

/-! ## Blocks -/

/-- What happens to the line ends behind a block: all but one are dropped unless told otherwise. -/
inductive Chomp
  | strip | clip | keep
  deriving DecidableEq

/-- What stands in the first line of a block. -/
structure BlockHead where
  chomp : Chomp := .clip
  /-- How much deeper than its parent the block is, if that is told. -/
  deeper : Option Nat := none

/-- The head of a block behind its indicator, and the cursor behind it. -/
def readBlockHead? (c : Cursor) : Option (BlockHead × Cursor) :=
  let chomp? : Option Char → Option Chomp
    | some '+' => some .keep
    | some '-' => some .strip
    | _ => none
  let digit? : Option Char → Option Nat
    | some x => Text.digit? 10 x
    | none => none
  match chomp? c.head?, digit? c.head? with
  | some h, _ =>
    let c := c.advance
    match digit? c.head? with
    | some 0 => none
    | some n => some (⟨h, some n⟩, c.advance)
    | none => some (⟨h, none⟩, c)
  | none, some 0 => none
  | none, some n =>
    let c := c.advance
    match chomp? c.head? with
    | some h => some (⟨h, some n⟩, c.advance)
    | none => some (⟨.clip, some n⟩, c)
  | none, none => some ({}, c)

/-- The line ends of empty lines, the deepest column of such a line, and the cursor at the first
line that is not empty. Without `indent` any number of spaces is skipped. -/
def blockBreaks (indent : Option Nat) (fuel : Nat) (deepest : Nat) (c : Cursor) :
    Option (List Char × Nat × Cursor) :=
  match fuel with
  | 0 => none
  | fuel + 1 =>
    let room : Cursor → Bool := fun c => indent.all (c.column < ·)
    if c.at? ' ' && room c then blockBreaks indent fuel deepest c.advance
    else
      let deepest := max deepest c.column
      if c.at? '\t' && room c then none
      else if c.atBreak then
        let (b, c) := c.takeBreak
        (blockBreaks indent fuel deepest c).map fun (bs, r) => (b ++ bs, r)
      else some ([], deepest, c)

/-- The lines of a block from a cursor on. `last` is the end of the line before, `empty` the empty
lines behind it, and `afterBlank` tells whether that line starts with a blank. The last line end
and the empty lines at the end are returned apart. -/
def blockLines (literal : Bool) (indent : Nat) (fuel : Nat) (last empty : List Char)
    (afterBlank : Bool) (c : Cursor) : Option (List Char × List Char × List Char × Cursor) :=
  match fuel with
  | 0 => none
  | fuel + 1 =>
    if c.column == indent && !c.atEnd then do
      let folds := !literal && last.head? == some '\n' && !afterBlank && !c.atBlank
      let before := if folds then (if empty.isEmpty then [' '] else empty) else last ++ empty
      let blank := c.atBlank
      let (xs, c) := c.takeWhile fun x => !isBreak x
      let (b, c) := c.takeBreak
      let (bs, _, c) ← blockBreaks (some indent) fuel 0 c
      let (rest, last, empty, c) ← blockLines literal indent fuel b bs blank c
      some (before ++ xs ++ rest, last, empty, c)
    else some ([], last, empty, c)

/-- A block scalar; `parent` is the column of the collection around it, if there is one. -/
def readBlock? (literal : Bool) (parent : Option Nat) (c : Cursor) :
    Option (List Char × Cursor) := do
  let fuel := 2 * c.left.length + 2
  let (h, c) ← readBlockHead? c.advance
  let c ← c.finishLine?
  let told := h.deeper.map fun n => parent.getD 0 + n
  let (bs, deepest, c) ← blockBreaks told fuel 0 c
  let indent := told.getD (max deepest (max 1 ((parent.map (· + 1)).getD 0)))
  let (xs, last, empty, c) ← blockLines literal indent fuel [] bs false c
  match h.chomp with
  | .strip => some (xs, c)
  | .clip => some (xs ++ last, c)
  | .keep => some (xs ++ last ++ empty, c)

end InstanceLifecycle.Yaml
