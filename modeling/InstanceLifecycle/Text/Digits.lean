/-!
# Unsigned numbers in text

An unsigned number is written with ASCII digits of some base, at least one of them. The reader
returns the value whatever its size; `readUnsigned?` adds the optional plus sign and a bound.

Results:

* `readNat?_eq_some_iff`: what is read, in terms of the digits.
-/

namespace InstanceLifecycle.Text

/-- The value of a digit in a base up to sixteen; letters count in both cases. -/
def digit? (base : Nat) (c : Char) : Option Nat :=
  let n := c.toNat
  let v? :=
    if 48 ≤ n ∧ n ≤ 57 then some (n - 48)
    else if 97 ≤ n ∧ n ≤ 102 then some (n - 87)
    else if 65 ≤ n ∧ n ≤ 70 then some (n - 55)
    else none
  v?.filter (· < base)

/-- The digits of a text, most significant first; nothing if one character is no digit. -/
def digits? (base : Nat) (cs : List Char) : Option (List Nat) :=
  cs.mapM (digit? base)

/-- The number with these digits. -/
def ofDigits (base : Nat) (ds : List Nat) : Nat :=
  ds.foldl (fun n d => n * base + d) 0

/-- Reads a number that consists of at least one digit and nothing else. -/
def readNat? (base : Nat) (cs : List Char) : Option Nat :=
  if cs.isEmpty then none else (digits? base cs).map (ofDigits base)

/-- What is read is the number with the digits of the text. -/
theorem readNat?_eq_some_iff {base n : Nat} {cs : List Char} :
    readNat? base cs = some n ↔
      cs ≠ [] ∧ ∃ ds, digits? base cs = some ds ∧ ofDigits base ds = n := by
  cases cs <;> simp [readNat?]

/-- Reads a decimal number below `bound`; one plus sign may precede it. -/
def readUnsigned? (bound : Nat) (s : String) : Option Nat :=
  let cs := s.toList
  (readNat? 10 (if cs.head? = some '+' then cs.tail else cs)).filter (· < bound)

end InstanceLifecycle.Text
