/-!
# Arithmetic for weights

Weights are computed in doubles. The computation is written for any arithmetic with the operations
that it needs, so that it can be run in doubles and reasoned about in another one.
-/

namespace InstanceLifecycle.Weight

/-- The operations that weights are computed with. -/
structure Arithmetic (α : Type) where
  ofNat : Nat → α
  mul : α → α → α
  div : α → α → α
  /-- The least whole number that is not below. -/
  ceil : α → α
  abs : α → α
  min : α → α → α
  max : α → α → α
  lt : α → α → Bool
  /-- The whole part of a number that is not negative. -/
  toNat : α → Nat

/-- The arithmetic of doubles. -/
def Arithmetic.double : Arithmetic Float where
  ofNat n := Float.ofScientific n false 0
  mul := (· * ·)
  div := (· / ·)
  ceil := Float.ceil
  abs := Float.abs
  min a b := if a ≤ b then a else b
  max a b := if a ≤ b then b else a
  lt a b := a < b
  toNat x := x.toUInt64.toNat

namespace Arithmetic

variable {α : Type} (a : Arithmetic α)

/-- Multiplies `r` by powers of `x` by squaring; `fuel` bounds the number of binary digits of the
exponent. -/
def powerFrom (fuel : Nat) (r x : α) (n : Nat) : α :=
  match fuel with
  | 0 => r
  | fuel + 1 =>
    let r := if n % 2 = 1 then a.mul r x else r
    if n / 2 = 0 then r else powerFrom fuel r (a.mul x x) (n / 2)

/-- A power by repeated squaring (`powi`). -/
def power (x : α) (n : Nat) : α := a.powerFrom (n.log2 + 1) (a.ofNat 1) x n

end Arithmetic

end InstanceLifecycle.Weight
