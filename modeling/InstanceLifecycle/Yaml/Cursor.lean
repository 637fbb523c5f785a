import InstanceLifecycle.Text.Digits

/-!
# A place in a text

Markup is read from the front to the back. A cursor is the text that is left together with the
place where it starts: how many characters precede it, in which line it stands and how many
characters of that line precede it.

A line ends at a line feed, a carriage return, both together, or one of the Unicode line ends. The
first four stand for a line feed where a line end belongs to a value; the line and paragraph
separators stand for themselves.
-/

namespace InstanceLifecycle.Yaml

/-! ## Character classes -/

/-- Ends a line. -/
def isBreak (c : Char) : Bool :=
  c == '\n' || c == '\r' || c == '\u0085' || c == '\u2028' || c == '\u2029'

/-- Parts tokens within a line. -/
def isBlank (c : Char) : Bool := c == ' ' || c == '\t'

/-- May stand in a name. -/
def isNameChar (c : Char) : Bool := c.isAlphanum || c == '-' || c == '_'

/-- May stand in a document at all. -/
def isAllowed (c : Char) : Bool :=
  let n := c.toNat
  n == 0x09 || n == 0x0A || n == 0x0D || (0x20 ≤ n && n ≤ 0x7E) || n == 0x85 ||
    (0xA0 ≤ n && n ≤ 0xD7FF) || (0xE000 ≤ n && n ≤ 0xFFFD) || 0x10000 ≤ n

/-! ## Cursors -/

/-- The text that is left and the place where it starts. -/
structure Cursor where
  left : List Char
  index : Nat := 0
  line : Nat := 0
  column : Nat := 0
  deriving Repr

namespace Cursor

/-- The next character. -/
def head? (c : Cursor) : Option Char := c.left.head?

/-- The character so many places ahead. -/
def ahead? (c : Cursor) (n : Nat) : Option Char := c.left[n]?

/-- Whether this character comes next. -/
def at? (c : Cursor) (x : Char) : Bool := c.head? == some x

/-- Whether the text is at its end. -/
def atEnd (c : Cursor) : Bool := c.left.isEmpty

/-- Whether a blank comes next. -/
def atBlank (c : Cursor) : Bool := c.head?.any isBlank

/-- Whether a line end comes next. -/
def atBreak (c : Cursor) : Bool := c.head?.any isBreak

/-- Whether no token goes on at this many places ahead: a blank, a line end or the end. -/
def gapAhead (c : Cursor) (n : Nat) : Bool :=
  match c.ahead? n with
  | none => true
  | some x => isBlank x || isBreak x

/-- Whether a blank, a line end or the end of the text comes next. -/
def atGap (c : Cursor) : Bool := c.gapAhead 0

/-- The cursor one character further on in the same line. -/
def advance (c : Cursor) : Cursor :=
  { c with left := c.left.tail, index := c.index + 1, column := c.column + 1 }

/-- The cursor so many characters further on in the same line. -/
def advanceBy (c : Cursor) : Nat → Cursor
  | 0 => c
  | n + 1 => c.advance.advanceBy n

/-- The line end that comes next, as it counts in a value, and the cursor behind it. -/
def takeBreak (c : Cursor) : List Char × Cursor :=
  match c.left with
  | '\r' :: '\n' :: r => (['\n'], ⟨r, c.index + 2, c.line + 1, 0⟩)
  | x :: r =>
    if isBreak x then
      ([if x == '\u2028' || x == '\u2029' then x else '\n'], ⟨r, c.index + 1, c.line + 1, 0⟩)
    else ([], c)
  | [] => ([], c)

/-- The cursor behind the line end that comes next. -/
def skipBreak (c : Cursor) : Cursor := c.takeBreak.2

/-- Characters of this line that belong to a class, and the cursor behind them. -/
def takeWhile (p : Char → Bool) (c : Cursor) : List Char × Cursor :=
  let (a, b) := c.left.span p
  (a, { c with left := b, index := c.index + a.length, column := c.column + a.length })

/-- The cursor behind the characters of this line that belong to a class. -/
def skipWhile (p : Char → Bool) (c : Cursor) : Cursor := (c.takeWhile p).2

/-- The cursor behind blanks. -/
def skipBlanks (c : Cursor) : Cursor := c.skipWhile isBlank

/-- The cursor at the end of this line. -/
def skipLineRest (c : Cursor) : Cursor := c.skipWhile fun x => !isBreak x

/-- Whether a line starts here with three times this character and a gap. -/
def atMarker (c : Cursor) (x : Char) : Bool :=
  c.column == 0 && c.left.take 3 == [x, x, x] && c.gapAhead 3

/-- Whether a line starts here that ends a document. -/
def atDocumentMarker (c : Cursor) : Bool := c.atMarker '-' || c.atMarker '.'

/-- The cursor behind blanks, a comment and the end of the line, if nothing else follows. -/
def finishLine? (c : Cursor) : Option Cursor :=
  let c := c.skipBlanks
  let c := if c.at? '#' then c.skipLineRest else c
  if c.atGap && !c.atBlank then some c.skipBreak else none

end Cursor

end InstanceLifecycle.Yaml
