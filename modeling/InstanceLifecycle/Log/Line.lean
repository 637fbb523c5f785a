import InstanceLifecycle.Text.Blank

/-!
# Lines of pairs

A line holds pairs of a key and a value, written `key=value` and parted by single spaces. A value
stands between quotes if it is empty or if one of its characters could be taken for a part of the
line; inside quotes the quote, the backslash and the line ends and tabs are escaped.

Results:

* `escape_ne_newline`: no written character ends a line.
-/

namespace InstanceLifecycle.Log

open Text

/-! ## Writing -/

/-- The characters beside blanks that ask for quotes. -/
def isSpecial (c : Char) : Bool := "\"\\=\x7b\x7d,".toList.contains c

/-- Whether a value stands between quotes. -/
def needsQuotes (v : List Char) : Bool :=
  v.isEmpty || v.any fun c => isBlank c || isSpecial c

/-- How a character stands between quotes. -/
def escape : Char → List Char
  | '"' => ['\\', '"']
  | '\\' => ['\\', '\\']
  | '\n' => ['\\', 'n']
  | '\r' => ['\\', 'r']
  | '\t' => ['\\', 't']
  | c => [c]

theorem escape_ne_newline (c : Char) : '\n' ∉ escape c ∧ '\r' ∉ escape c := by
  unfold escape
  split <;> simp_all [eq_comm]

/-- How a value stands in a line (`quote_into`). -/
def valueChars (v : List Char) : List Char :=
  if needsQuotes v then '"' :: v.flatMap escape ++ ['"'] else v

/-- How a pair stands in a line. -/
def pairChars (p : String × String) : List Char :=
  p.1.toList ++ '=' :: valueChars p.2.toList

/-- The characters of a line. -/
def lineChars : List (String × String) → List Char
  | [] => []
  | [p] => pairChars p
  | p :: q :: ps => pairChars p ++ ' ' :: lineChars (q :: ps)

/-- The line of some pairs, put one after another (`push`, `finish`). -/
def line (ps : List (String × String)) : String := String.ofList (lineChars ps)

/-! ## Reading -/

/-- The character that an escape stands for. -/
def unescape? : Char → Option Char
  | '"' => some '"'
  | '\\' => some '\\'
  | 'n' => some '\n'
  | 'r' => some '\r'
  | 't' => some '\t'
  | _ => none

/-- The inside of a quoted value up to its closing quote, and the text behind that. -/
def readQuoted? : List Char → Option (List Char × List Char)
  | [] => none
  | '"' :: r => some ([], r)
  | '\\' :: c :: r => do
    let c ← unescape? c
    let (v, r) ← readQuoted? r
    some (c :: v, r)
  | c :: r => (readQuoted? r).map fun (v, r) => (c :: v, r)

/-- The value at the start of a text, quoted or up to the next space, and the text behind it. -/
def readValue? : List Char → Option (List Char × List Char)
  | '"' :: r => readQuoted? r
  | cs => some (cs.span (· ≠ ' '))

/-- The pairs of a text of fewer than `fuel` pairs. -/
def readPairs? (fuel : Nat) (cs : List Char) : Option (List (String × String)) :=
  match fuel with
  | 0 => none
  | fuel + 1 => do
    let (k, r) := cs.span (· ≠ '=')
    let r ← r.tail?
    let (v, r) ← readValue? r
    let p := (String.ofList k, String.ofList v)
    match r with
    | [] => some [p]
    | ' ' :: r => (readPairs? fuel r).map (p :: ·)
    | _ => none

/-- The pairs that a line holds. -/
def readLine? (s : String) : Option (List (String × String)) :=
  if s.isEmpty then some [] else readPairs? (s.length + 1) s.toList

end InstanceLifecycle.Log
