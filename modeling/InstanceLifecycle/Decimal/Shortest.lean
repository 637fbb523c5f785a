import InstanceLifecycle.Width

/-!
# Shortest decimals

A double-precision number stands for every real number that rounds to it. Among the decimals in
this interval the shortest one is written, and of several equally short ones the nearest. All of
it is exact arithmetic on natural numbers.

A finite positive double is `m * 2 ^ q`. Its interval reaches half way to both neighbours, and the
ends belong to it exactly when `m` is even. For one to seventeen digits the two neighbours of the
number on that decimal grid are tried.

Two notations are provided: one that keeps a point and turns to an exponent for very large and very
small numbers, and one that is always positional.

Results:

* `stripZeros_value`: dropping trailing zeros keeps the value.
-/

namespace InstanceLifecycle.Decimal

/-! ## The interval of a double -/

/-- A positive double as the multiple `m` of the power of two with exponent `q`. -/
structure Binary where
  m : Nat
  q : Int
  /-- Whether the lower neighbour is only half as far away as the upper one. -/
  tightBelow : Bool

/-- The parts of a finite positive double. -/
def Binary.ofFloat (x : Float) : Binary :=
  let bits := x.toBits.toNat
  let fraction : Nat := bits % Width.bound 52
  let exponent : Nat := bits / Width.bound 52 % Width.bound 11
  if exponent = 0 then ⟨fraction, -1074, false⟩
  else ⟨Width.bound 52 + fraction, (exponent : Int) - 1075, fraction == 0 && exponent > 1⟩

/-- A positive fraction together with the ends of its interval, over one denominator. -/
structure Span where
  low : Nat
  value : Nat
  high : Nat
  denominator : Nat
  closed : Bool

/-- The reals that round to a double. -/
def Binary.span (b : Binary) : Span :=
  let up := Width.bound (b.q - 2).toNat
  let low := if b.tightBelow then 4 * b.m - 1 else 4 * b.m - 2
  ⟨low * up, 4 * b.m * up, (4 * b.m + 2) * up, Width.bound (2 - b.q).toNat, b.m % 2 == 0⟩

/-! ## Searching the grids -/

/-- A decimal `digits * 10 ^ exponent`. -/
structure Digits where
  digits : Nat
  exponent : Int
  deriving DecidableEq, Repr

/-- How many digits a number has. -/
def digitCount (n : Nat) : Nat := (Nat.toDigits 10 n).length

/-- The least number of decimal places, up to `fuel`, that bring a fraction to one or more. -/
def placesToOne (fuel : Nat) (num den : Nat) : Nat :=
  match fuel with
  | 0 => 0
  | fuel + 1 => if num ≥ den then 0 else placesToOne fuel (num * 10) den + 1

/-- The exponent of ten just above a fraction. -/
def magnitude (s : Span) : Int :=
  if s.value ≥ s.denominator then digitCount (s.value / s.denominator)
  else 1 - (placesToOne 400 s.value s.denominator : Int)

/-- The neighbour of the value on the grid of the multiples of a power of ten that lies in the
interval, the nearer one if both do. -/
def onGrid? (s : Span) (exponent : Int) : Option Nat :=
  let p := Nat.pow 10 (-exponent).toNat
  let q := s.denominator * Nat.pow 10 exponent.toNat
  let inside (n : Nat) : Bool :=
    if s.closed then s.low * p ≤ n * q && n * q ≤ s.high * p
    else s.low * p < n * q && n * q < s.high * p
  let a := s.value * p / q
  let rest := s.value * p % q
  match inside a, inside (a + 1) with
  | true, true =>
    some (if 2 * rest < q || (2 * rest == q && a % 2 == 0) then a else a + 1)
  | true, false => some a
  | false, true => some (a + 1)
  | false, false => none

/-- A decimal without trailing zeros; at most `fuel` of them are dropped. -/
def stripZeros (fuel : Nat) (d : Digits) : Digits :=
  match fuel with
  | 0 => d
  | fuel + 1 =>
    if d.digits ≠ 0 ∧ d.digits % 10 = 0 then stripZeros fuel ⟨d.digits / 10, d.exponent + 1⟩ else d

/-- Dropping trailing zeros keeps the value. -/
theorem stripZeros_value (fuel : Nat) (d : Digits) :
    ∃ n : Nat, (stripZeros fuel d).exponent = d.exponent + n ∧
      d.digits = (stripZeros fuel d).digits * Nat.pow 10 n := by
  induction fuel generalizing d with
  | zero => exact ⟨0, by simp [stripZeros]⟩
  | succ fuel ih =>
    unfold stripZeros
    split
    · next h =>
      obtain ⟨n, he, hd⟩ := ih ⟨d.digits / 10, d.exponent + 1⟩
      refine ⟨n + 1, by simp only at he; omega, ?_⟩
      simp only at hd
      rw [show Nat.pow 10 (n + 1) = Nat.pow 10 n * 10 from rfl, ← Nat.mul_assoc, ← hd]
      omega
    · exact ⟨0, by simp⟩

/-- The shortest decimal in the interval of a positive double. -/
def shortest (x : Float) : Digits :=
  let s := (Binary.ofFloat x).span
  let e := magnitude s
  let found := (List.range 17).findSome? fun n =>
    (onGrid? s (e - (n + 1 : Nat))).map fun d => (⟨d, e - (n + 1 : Nat)⟩ : Digits)
  stripZeros 17 (found.getD ⟨0, 0⟩)

/-! ## Notations -/

/-- So many zeros. -/
def zeros (n : Nat) : String := String.ofList (List.replicate n '0')

/-- A positional decimal; without decimals it ends in `whole`. -/
def positional (whole : String) (d : Digits) : String :=
  let ds := toString d.digits
  let point := (ds.length : Int) + d.exponent
  if 0 ≤ d.exponent then ds ++ zeros d.exponent.toNat ++ whole
  else if 0 < point then
    String.ofList (ds.toList.take point.toNat) ++ "." ++ String.ofList (ds.toList.drop point.toNat)
  else "0." ++ zeros (-point).toNat ++ ds

/-- A decimal with one digit before the point and an exponent. -/
def scientific (d : Digits) : String :=
  let ds := toString d.digits
  let fraction := String.ofList (ds.toList.drop 1)
  let point := if fraction.isEmpty then "" else "."
  String.ofList (ds.toList.take 1) ++ point ++ fraction ++ "e" ++
    toString ((ds.length : Int) + d.exponent - 1)

/-- The sign of a double and its absolute value. -/
def signed (x : Float) (text : Float → String) : String :=
  if x.toBits ≥ 0x8000000000000000 then "-" ++ text (-x) else text x

/-- A finite double with a point or an exponent: positional from 1e-5 up to below 1e16. -/
def render (x : Float) : String :=
  signed x fun x =>
    if x == 0 then "0.0"
    else
      let d := shortest x
      let point := (digitCount d.digits : Int) + d.exponent
      if -5 < point ∧ point ≤ 16 then positional ".0" d else scientific d

/-- A finite double without exponent, and without a point where it is whole. -/
def renderPositional (x : Float) : String :=
  signed x fun x => if x == 0 then "0" else positional "" (shortest x)

end InstanceLifecycle.Decimal
