import InstanceLifecycle.Proofs.Weight.Double
import InstanceLifecycle.Weight.Compute

/-!
# Weights one by one

Without overload protection each instance gets its weight for itself: it depends on the policy, on
the base weight and on the age. Overload protection looks at all instances and leaves the weights as
they are or drops them all. An interval without a whole millisecond makes nobody young, so that no
age is divided by it.

Results:

* `compute_eq`: what overload protection does;
* `compute_lawful`: all of this for weights in doubles.
-/

namespace InstanceLifecycle

/-- The policy without overload protection. -/
def WarmupPolicy.unguarded (p : WarmupPolicy) : WarmupPolicy :=
  { p with overload := { p.overload with enabled := false } }

namespace Weight

variable {α : Type} (a : Arithmetic α)

/-! ## Single instances -/

/-- The weight of an instance with this base weight and this age in milliseconds, if it warms up. -/
def weightAt? (p : WarmupPolicy) (base millis : Nat) : Option Nat :=
  let age := a.ofNat millis
  if p.isActive && a.lt age (intervalOf a p) then some (curve a p base age) else none

/-- The weight of an instance by its age, if it has one. -/
def dynamicWeight? (p : WarmupPolicy) (now : Int) (c : Candidate) : Option DynamicWeight :=
  c.createdAt.bind fun t => (weightAt? a p c.weight (ageMillis now t)).map (⟨c.id, ·⟩)

theorem unprotected_eq (p : WarmupPolicy) (now : Int) (cs : List Candidate) :
    unprotected a p now cs = cs.filterMap (dynamicWeight? a p now) := by
  unfold unprotected
  cases active : p.isActive with
  | false =>
    symm
    rw [if_neg (by simp), List.filterMap_eq_nil_iff]
    intro c _
    cases h : c.createdAt <;> simp [dynamicWeight?, weightAt?, active, h]
  | true =>
    rw [if_pos rfl]
    congr 1
    funext c
    cases h : c.createdAt with
    | none => simp [weigh?, warmingAge?, dynamicWeight?, h]
    | some t =>
      simp only [weigh?, warmingAge?, dynamicWeight?, weightAt?, h, active, Option.bind_some,
        Bool.true_and]
      split <;> rfl

/-! ## Overload protection -/

/-- Without overload protection no weight is dropped. -/
theorem compute_unguarded (p : WarmupPolicy) (now : Int) (cs : List Candidate) :
    compute a p.unguarded now cs = cs.filterMap (dynamicWeight? a p now) := by
  have off : isSkipped a p.unguarded now cs = false := by
    simp [isSkipped, isOverloaded, WarmupPolicy.unguarded]
  rw [compute, off, if_neg (by simp), ← unprotected_eq]
  rfl

/-- Overload protection drops all weights where the share of young instances reaches
the threshold. -/
theorem compute_eq {p : WarmupPolicy} (on : p.overload.enabled = true) (now : Int)
    (cs : List Candidate) :
    compute a p now cs =
      if p.overload.threshold ≤ 100 * (compute a p.unguarded now cs).length / cs.length then []
      else compute a p.unguarded now cs := by
  have weights : compute a p.unguarded now cs = unprotected a p now cs := by
    rw [compute_unguarded, unprotected_eq]
  rw [weights]
  simp only [compute, isSkipped, isOverloaded, on, Bool.true_and, Nat.mul_comm 100]
  cases unprotected a p now cs with
  | nil => simp
  | cons w ws => simp

/-! ## Intervals -/

/-- Two arithmetics that differ at most in divisions by what is not positive. -/
structure AgreeOnPositive (a b : Arithmetic α) : Prop where
  ofNat : a.ofNat = b.ofNat
  mul : a.mul = b.mul
  ceil : a.ceil = b.ceil
  abs : a.abs = b.abs
  min : a.min = b.min
  max : a.max = b.max
  lt : a.lt = b.lt
  toNat : a.toNat = b.toNat
  div : ∀ x y, a.lt (a.ofNat 0) y = true → a.div x y = b.div x y

/-- All that lies above a natural number is positive, and zero is not. -/
structure IsOrdered : Prop where
  positive : ∀ n y, a.lt (a.ofNat n) y = true → a.lt (a.ofNat 0) y = true
  irrefl : a.lt (a.ofNat 0) (a.ofNat 0) = false

/-- Doubles are ordered like that. -/
theorem isOrdered_double : IsOrdered .double where
  positive _ _ := double_positive_of_lt
  irrefl := by decide +kernel

variable {a} {b : Arithmetic α}

theorem AgreeOnPositive.power (h : AgreeOnPositive a b) : a.power = b.power := by
  have from_ (fuel : Nat) (r x : α) (n : Nat) :
      a.powerFrom fuel r x n = b.powerFrom fuel r x n := by
    induction fuel generalizing r x n with
    | zero => rfl
    | succ fuel ih => simp only [Arithmetic.powerFrom, h.mul, ih]
  funext x n
  simp only [Arithmetic.power, from_, h.ofNat]

/-- The curve divides by the interval and by nothing else. -/
theorem AgreeOnPositive.curve (h : AgreeOnPositive a b) {p : WarmupPolicy}
    (pos : a.lt (a.ofNat 0) (intervalOf a p) = true) (base : Nat) (age : α) :
    Weight.curve a p base age = Weight.curve b p base age := by
  have ratio : a.div age (intervalOf a p) = b.div age (intervalOf b p) := by
    rw [h.div age _ pos, intervalOf, h.ofNat]
    rfl
  simp only [Weight.curve, ratio, h.power, h.ofNat, h.mul, h.ceil, h.abs, h.min, h.max, h.toNat]

/-- Only young instances have their age divided, and only by an interval that is positive. -/
theorem AgreeOnPositive.weightAt? (h : AgreeOnPositive a b) (ordered : IsOrdered a)
    (p : WarmupPolicy) (base millis : Nat) : Weight.weightAt? a p base millis =
      Weight.weightAt? b p base millis := by
  have below : b.lt (b.ofNat millis) (intervalOf b p) = a.lt (a.ofNat millis) (intervalOf a p) := by
    rw [intervalOf, intervalOf, h.ofNat, h.lt]
  simp only [Weight.weightAt?, below]
  cases young : a.lt (a.ofNat millis) (intervalOf a p) with
  | false => simp
  | true => rw [h.curve (ordered.positive _ _ young) base, h.ofNat]

/-- Weights do not depend on how ages are divided by what is not positive. -/
theorem AgreeOnPositive.compute (h : AgreeOnPositive a b) (ordered : IsOrdered a)
    (p : WarmupPolicy) (now : Int) (cs : List Candidate) :
    Weight.compute a p now cs = Weight.compute b p now cs := by
  have weights : unprotected a p now cs = unprotected b p now cs := by
    rw [unprotected_eq, unprotected_eq]
    congr 1
    funext c
    simp only [dynamicWeight?, h.weightAt? ordered]
  unfold Weight.compute isSkipped
  rw [weights]

/-- An interval without a whole millisecond makes nobody young. -/
theorem IsOrdered.compute_of_no_millis (ordered : IsOrdered a) {p : WarmupPolicy}
    (h : p.interval.millis = 0) (now : Int) (cs : List Candidate) :
    Weight.compute a p now cs = [] := by
  have old (base millis : Nat) : weightAt? a p base millis = none := by
    have below : a.lt (a.ofNat millis) (intervalOf a p) = false := by
      rw [intervalOf, h]
      refine Bool.eq_false_iff.mpr fun young => ?_
      have zero := ordered.positive _ _ young
      rw [ordered.irrefl] at zero
      cases zero
    simp [weightAt?, below]
  have weights : unprotected a p now cs = [] := by
    rw [unprotected_eq, List.filterMap_eq_nil_iff]
    intro c _
    cases hc : c.createdAt <;> simp [dynamicWeight?, old, hc]
  unfold Weight.compute
  rw [weights, ite_self]

/-! ## Weights in doubles -/

/-- What holds of the weights under a policy at some time. -/
structure Lawful (p : WarmupPolicy) (now : Int) : Prop where
  /-- Without overload protection weights come one by one. -/
  append : ∀ xs ys, compute .double p.unguarded now (xs ++ ys) =
    compute .double p.unguarded now xs ++ compute .double p.unguarded now ys
  /-- Each instance gets at most one, under its own id, by its base weight and its age. -/
  single : ∀ c, compute .double p.unguarded now [c] =
    (c.createdAt.bind fun t =>
      (weightAt? .double p c.weight (ageMillis now t)).map (⟨c.id, ·⟩)).toList
  /-- Overload protection drops all of them or none. -/
  guarded : p.overload.enabled = true → ∀ cs, compute .double p now cs =
    if p.overload.threshold ≤ 100 * (compute .double p.unguarded now cs).length / cs.length then []
    else compute .double p.unguarded now cs
  unguarded : p.overload.enabled = false → p.unguarded = p
  inactive : p.isActive = false → ∀ cs, compute .double p now cs = []
  /-- No age is divided by an interval that is not positive. -/
  divides : ∀ b, AgreeOnPositive .double b → ∀ cs, compute .double p now cs = compute b p now cs
  brief : p.interval.millis = 0 → ∀ cs, compute .double p now cs = []

/-- Without overload protection each instance is weighed for itself; overload protection drops all
weights or none; and no age is divided by an interval without a whole millisecond. -/
theorem compute_lawful (p : WarmupPolicy) (now : Int) : Lawful p now where
  append xs ys := by
    simp only [compute_unguarded, List.filterMap_append]
  single c := by
    have weighs : (c.createdAt.bind fun t =>
        (weightAt? .double p c.weight (ageMillis now t)).map fun w => (⟨c.id, w⟩ : DynamicWeight)) =
          dynamicWeight? .double p now c := rfl
    rw [compute_unguarded, List.filterMap_cons, List.filterMap_nil, weighs]
    cases dynamicWeight? .double p now c <;> rfl
  guarded on := compute_eq .double on now
  unguarded off := by
    cases p with
    | mk enabled interval curvature overload => cases overload; cases off; rfl
  inactive off := compute_of_inactive .double off now
  divides b agree := agree.compute isOrdered_double p now
  brief h := isOrdered_double.compute_of_no_millis h now

end Weight

end InstanceLifecycle
