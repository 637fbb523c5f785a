import InstanceLifecycle.Json.Value
import InstanceLifecycle.Text.Digits
import InstanceLifecycle.Width

/-!
# Reading JSON

A text is one value between blanks. Of several members of an object with one name the last one
counts. An integer that does not fit 64 bits, and `-0`, is a decimal. A lone half of a surrogate
pair is no character, so an escape that names one is refused.
-/

namespace InstanceLifecycle.Json

open Text

/-! ## Characters -/

/-- The blanks of the format. -/
def isSpace (c : Char) : Bool := c == ' ' || c == '\t' || c == '\n' || c == '\r'

/-- The text behind its leading blanks. -/
def skip (cs : List Char) : List Char := cs.dropWhile isSpace

/-- The number with these four hexadecimal digits. -/
def hexCode? (a b c d : Char) : Option Nat := readNat? 16 [a, b, c, d]

/-- The character with this code, unless it is half of a surrogate pair. -/
def charOfCode? (n : Nat) : Option Char :=
  if n < 0xD800 ∨ 0xDFFF < n ∧ n < 0x110000 then some (Char.ofNat n) else none

/-- The code that two halves of a surrogate pair stand for. -/
def pairCode? (high low : Nat) : Option Nat :=
  if 0xD800 ≤ high ∧ high < 0xDC00 ∧ 0xDC00 ≤ low ∧ low < 0xE000 then
    some (0x10000 + (high - 0xD800) * 0x400 + (low - 0xDC00))
  else none

/-- The character that a one-letter escape names. -/
def simpleEscape? : Char → Option Char
  | '"' => some '"'
  | '\\' => some '\\'
  | '/' => some '/'
  | 'b' => some '\x08'
  | 'f' => some '\x0c'
  | 'n' => some '\n'
  | 'r' => some '\r'
  | 't' => some '\t'
  | _ => none

/-! ## Strings -/

/-- The first character of the inside of a string, and the text behind it. -/
def readChar? : List Char → Option (Char × List Char)
  | '\\' :: 'u' :: a :: b :: c :: d :: r => do
    let high ← hexCode? a b c d
    match charOfCode? high with
    | some x => some (x, r)
    | none =>
      match r with
      | '\\' :: 'u' :: a :: b :: c :: d :: r => do
        let low ← hexCode? a b c d
        let x ← charOfCode? (← pairCode? high low)
        some (x, r)
      | _ => none
  | '\\' :: c :: r => (simpleEscape? c).map fun x => (x, r)
  | c :: r => if c.toNat < 0x20 ∨ c = '\\' then none else some (c, r)
  | [] => none

/-- The inside of a string up to its closing quote, and the text behind that; the string has
fewer than `fuel` characters. -/
def readString? (fuel : Nat) (cs : List Char) : Option (List Char × List Char) :=
  match fuel with
  | 0 => none
  | fuel + 1 =>
    match cs with
    | '"' :: r => some ([], r)
    | cs => do
      let (c, r) ← readChar? cs
      let (s, r) ← readString? fuel r
      some (c :: s, r)

/-! ## Numbers -/

/-- The leading digits of a text and what follows them. -/
def spanDigits (cs : List Char) : List Char × List Char :=
  cs.span Char.isDigit

/-- The digits before the point: one zero, or digits that do not start with a zero. -/
def readInteger? (cs : List Char) : Option (List Char × List Char) :=
  match spanDigits cs with
  | ([], _) => none
  | (ds, r) => if ds.head? = some '0' ∧ ds.length > 1 then none else some (ds, r)

/-- The digits behind the point, if there is one. -/
def readPlaces? : List Char → Option (List Char × List Char)
  | '.' :: r =>
    match spanDigits r with
    | ([], _) => none
    | (ds, r) => some (ds, r)
  | cs => some ([], cs)

/-- The exponent, if there is one. -/
def readExponent? : List Char → Option (Option Int × List Char)
  | c :: r =>
    if c = 'e' ∨ c = 'E' then
      let (sign, r) :=
        match r with
        | '-' :: r => (-1, r)
        | '+' :: r => ((1 : Int), r)
        | r => (1, r)
      let (ds, r) := spanDigits r
      (readNat? 10 ds).map fun n => (some (sign * n), r)
    else some (none, c :: r)
  | [] => some (none, [])

/-- The number at the start of a text, and what follows it. -/
def readNumber? (cs : List Char) : Option (Number × List Char) := do
  let (isNegative, cs) := match cs with
    | '-' :: r => (true, r)
    | cs => (false, cs)
  let (whole, cs) ← readInteger? cs
  let (places, cs) ← readPlaces? cs
  let (exponent, cs) ← readExponent? cs
  let m ← readNat? 10 (whole ++ places)
  if places.isEmpty ∧ exponent.isNone ∧ ¬isNegative ∧ m < Width.bound 64 then
    some (.natural m, cs)
  else if places.isEmpty ∧ exponent.isNone ∧ isNegative ∧ 0 < m ∧ m ≤ Width.bound 63 then
    some (.negative m, cs)
  else some (.decimal isNegative m (exponent.getD 0 - places.length), cs)

/-! ## Values -/

mutual

/-- The value at the start of a text, and what follows it; fewer than `fuel` steps are taken. -/
def readValue? (fuel : Nat) (cs : List Char) : Option (Value × List Char) :=
  match fuel with
  | 0 => none
  | fuel + 1 =>
    match skip cs with
    | 'n' :: 'u' :: 'l' :: 'l' :: r => some (.null, r)
    | 't' :: 'r' :: 'u' :: 'e' :: r => some (.bool true, r)
    | 'f' :: 'a' :: 'l' :: 's' :: 'e' :: r => some (.bool false, r)
    | '"' :: r => (readString? (r.length + 1) r).map fun (s, r) => (.string (String.ofList s), r)
    | '[' :: r =>
      match skip r with
      | ']' :: r => some (.array [], r)
      | r => (readItems? fuel r).map fun (vs, r) => (.array vs, r)
    | '\x7b' :: r =>
      match skip r with
      | '\x7d' :: r => some (.object [], r)
      | r => (readMembers? fuel [] r).map fun (ms, r) => (.object ms, r)
    | cs => (readNumber? cs).map fun (n, r) => (.number n, r)

/-- The items of an array from the first one to its end, and what follows it. -/
def readItems? (fuel : Nat) (cs : List Char) : Option (List Value × List Char) :=
  match fuel with
  | 0 => none
  | fuel + 1 => do
    let (v, r) ← readValue? fuel cs
    match skip r with
    | ',' :: r => (readItems? fuel r).map fun (vs, r) => (v :: vs, r)
    | ']' :: r => some ([v], r)
    | _ => none

/-- The members of an object from a name to its end, put to those read before, and what follows
the object. -/
def readMembers? (fuel : Nat) (ms : List (String × Value)) (cs : List Char) :
    Option (List (String × Value) × List Char) :=
  match fuel with
  | 0 => none
  | fuel + 1 =>
    match skip cs with
    | '"' :: r => do
      let (k, r) ← readString? (r.length + 1) r
      match skip r with
      | ':' :: r => do
        let (v, r) ← readValue? fuel r
        let ms := putMember ms (String.ofList k) v
        match skip r with
        | ',' :: r => readMembers? fuel ms r
        | '\x7d' :: r => some (ms, r)
        | _ => none
      | _ => none
    | _ => none

end

/-- The value that a text is. -/
def read? (s : String) : Option Value := do
  let cs := s.toList
  let (v, r) ← readValue? (2 * cs.length + 1) cs
  if (skip r).isEmpty then some v else none

end InstanceLifecycle.Json
