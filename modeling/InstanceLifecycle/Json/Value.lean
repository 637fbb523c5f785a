import InstanceLifecycle.Decimal.Shortest

/-!
# JSON values

A number is an integer of 64 bits or a decimal: a significand and a power of ten. Objects keep
their members in a list; a reader leaves no second member of a name in it.

Results:

* `member?_put`: a member that was put is found, and no other name is affected.
-/

namespace InstanceLifecycle.Json

/-- A number as it is written: an integer that fits a word, or a decimal. -/
inductive Number
  /-- An integer from zero up. -/
  | natural (n : Nat)
  /-- The integer `-n`. -/
  | negative (n : Nat)
  /-- The number `± significand * 10 ^ exponent`. -/
  | decimal (isNegative : Bool) (significand : Nat) (exponent : Int)
  deriving DecidableEq, Repr

/-- A JSON value. -/
inductive Value
  | null
  | bool (b : Bool)
  | number (n : Number)
  | string (s : String)
  | array (items : List Value)
  | object (members : List (String × Value))
  deriving Repr, BEq, Inhabited

namespace Value

/-- The natural number as a JSON value. -/
def nat (n : Nat) : Value := .number (.natural n)

/-- A value that may be missing; then it is null. -/
def ofOption (f : α → Value) : Option α → Value
  | some a => f a
  | none => .null

/-- A list of values, each made the same way. -/
def ofList (f : α → Value) (as : List α) : Value := .array (as.map f)

/-- The member of an object with this name. -/
def member? (name : String) : Value → Option Value
  | .object ms => (ms.find? fun m => m.1 = name).map Prod.snd
  | _ => none

end Value

/-- The members with this one in place of the one that had its name. -/
def putMember (ms : List (String × Value)) (name : String) (v : Value) : List (String × Value) :=
  ms.filter (fun m => m.1 ≠ name) ++ [(name, v)]

/-- A member that was put is found, and no other name is affected. -/
theorem member?_put (ms : List (String × Value)) (name other : String) (v : Value) :
    (Value.object (putMember ms name v)).member? other =
      if other = name then some v else (Value.object ms).member? other := by
  simp only [Value.member?, putMember]
  induction ms with
  | nil => grind
  | cons m r ih => grind

/-- The double nearest to a decimal. -/
def toFloat (isNegative : Bool) (significand : Nat) (exponent : Int) : Float :=
  let x := Float.ofScientific significand (exponent < 0) exponent.natAbs
  if isNegative then -x else x

end InstanceLifecycle.Json
