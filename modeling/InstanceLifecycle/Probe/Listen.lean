import InstanceLifecycle.Text.Digits
import InstanceLifecycle.Width

/-!
# Listen addresses

A listener is bound to a host and a port. A text without a colon is no address, and what follows the
last colon has to be a port; whether the host and the port can be used is known to the network only.
A host that is not written in numbers has to be looked up first.

Results:

* `fault?_eq_none_iff`: an address is sound exactly if a port follows its last colon.
-/

namespace InstanceLifecycle.Listen

/-- What follows the last colon of a text. -/
def portText? (s : String) : Option String :=
  if s.toList.contains ':' then
    some (String.ofList (s.toList.reverse.takeWhile (· ≠ ':')).reverse)
  else none

/-- What `bind` finds wrong with an address before it asks the network. -/
def fault? (s : String) : Option String :=
  match portText? s with
  | none => some "invalid socket address"
  | some p =>
    if (Text.readUnsigned? (Width.bound 16) p).isSome then none else some "invalid port value"

/-! ## Parts of a text -/

/-- The parts of some characters between the occurrences of a separator. -/
def parts (separator : Char) : List Char → List (List Char)
  | [] => [[]]
  | c :: cs =>
    if c = separator then [] :: parts separator cs
    else (parts separator cs).modifyHead (c :: ·)

/-- The parts of some characters between the occurrences of a separator of two characters, which are
looked for from the left. -/
def partsAtPair (first second : Char) : List Char → List (List Char)
  | [] => [[]]
  | [c] => [[c]]
  | c :: d :: cs =>
    if c = first ∧ d = second then [] :: partsAtPair first second cs
    else (partsAtPair first second (d :: cs)).modifyHead (c :: ·)

/-! ## Addresses in numbers -/

/-- Whether some characters are a decimal number below a bound, without a sign. -/
def isDecimal (bound : Nat) (cs : List Char) : Bool := (Text.readNat? 10 cs).any (· < bound)

/-- Whether some characters are a number of eight bits; none but zero itself starts with a zero. -/
def isOctet (cs : List Char) : Bool :=
  isDecimal (Width.bound 8) cs && (cs = ['0'] || cs.head? != some '0')

/-- Whether some characters are a host of four numbers. -/
def isQuad (cs : List Char) : Bool :=
  let octets := parts '.' cs
  octets.length = 4 && octets.all isOctet

/-- Whether some characters are a group of up to four hexadecimal digits. -/
def isGroup (cs : List Char) : Bool := cs.length ≤ 4 && (Text.readNat? 16 cs).isSome

/-- How many groups there are; four numbers at the end stand for two. -/
def groups? (canEndInQuad : Bool) (cs : List Char) : Option Nat :=
  let groups := if cs.isEmpty then [] else parts ':' cs
  if groups.all isGroup then some groups.length
  else if canEndInQuad && groups.dropLast.all isGroup && groups.getLast?.any isQuad then
    some (groups.length + 1)
  else none

/-- Whether some characters are a host of eight groups; two colons stand for at least one
of them. -/
def isOctuple (cs : List Char) : Bool :=
  match partsAtPair ':' ':' cs with
  | [all] => groups? true all = some 8
  | [front, back] =>
    match groups? false front, groups? true back with
    | some m, some n => m + n ≤ 7
    | _, _ => false
  | _ => false

/-- Whether some characters are what stands in brackets: a host of eight groups, perhaps with the
number of an interface. -/
def isBracketed (cs : List Char) : Bool :=
  match parts '%' cs with
  | [host] => isOctuple host
  | [host, interface] => isOctuple host && isDecimal (Width.bound 32) interface
  | _ => false

/-- Whether an address is written in numbers, so that no name has to be looked up. -/
def isNumeric (s : String) : Bool :=
  match partsAtPair ']' ':' s.toList with
  | ['[' :: host, port] => isBracketed host && isDecimal (Width.bound 16) port
  | [_, _] => false
  | _ =>
    match parts ':' s.toList with
    | [host, port] => isQuad host && isDecimal (Width.bound 16) port
    | _ => false

/-! ## Lemmas -/

/-- An address is sound exactly if a port follows its last colon. -/
theorem fault?_eq_none_iff (s : String) :
    fault? s = none ↔
      ∃ p n, portText? s = some p ∧ Text.readUnsigned? (Width.bound 16) p = some n := by
  unfold fault?
  split
  · next h => simp [h]
  · next p h =>
    simp only [h]
    cases hn : Text.readUnsigned? (Width.bound 16) p <;> simp [hn]

end InstanceLifecycle.Listen
