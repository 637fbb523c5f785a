import InstanceLifecycle.Policy.Basic
import InstanceLifecycle.Weight.Arithmetic
import InstanceLifecycle.Width

/-!
# Warm-up weights

A young instance gets a lower weight that grows with its age along a power curve until the warm-up
interval is over. An instance without a time of creation keeps its weight, as does one that is old
enough. Where the share of young instances reaches the threshold of overload protection, all
weights are left alone.

Results:

* `compute_of_inactive`: without warm-up no weight is changed.
-/

namespace InstanceLifecycle.Weight

/-! ## Instances -/

/-- An instance as the load balancer sees it. -/
structure Candidate where
  id : String
  weight : Nat
  /-- When it was created, in nanoseconds. -/
  createdAt : Option Int
  deriving DecidableEq, Repr

/-- A weight for one instance. -/
structure DynamicWeight where
  id : String
  weight : Nat
  deriving DecidableEq, Repr

/-- How far apart two times are, in whole milliseconds. -/
def ageMillis (now createdAt : Int) : Nat := (now - createdAt).natAbs / 1000000

/-! ## One instance -/

variable {α : Type} (a : Arithmetic α)

/-- The length of warm-up. -/
def intervalOf (p : WarmupPolicy) : α := a.ofNat p.interval.millis

/-- The age of an instance that warms up. -/
def warmingAge? (p : WarmupPolicy) (now : Int) (c : Candidate) : Option α :=
  c.createdAt.bind fun t =>
    let age := a.ofNat (ageMillis now t)
    if a.lt age (intervalOf a p) then some age else none

/-- The exponent of the curve. -/
def exponent (p : WarmupPolicy) : Nat :=
  min (if p.curvature = 0 then defaultCurvature else p.curvature) (Width.bound 31 - 1)

/-- The weight of an instance with this base weight and age: between one and the base weight. -/
def curve (p : WarmupPolicy) (base : Nat) (age : α) : Nat :=
  let ratio := a.div age (intervalOf a p)
  let scaled := a.ceil (a.abs (a.mul (a.power ratio (exponent p)) (a.ofNat base)))
  a.toNat (a.max (a.min scaled (a.ofNat base)) (a.ofNat 1))

/-- The weight of an instance that warms up. -/
def weigh? (p : WarmupPolicy) (now : Int) (c : Candidate) : Option DynamicWeight :=
  (warmingAge? a p now c).map fun age => ⟨c.id, curve a p c.weight age⟩

/-! ## All instances -/

/-- The weights without overload protection. -/
def unprotected (p : WarmupPolicy) (now : Int) (cs : List Candidate) : List DynamicWeight :=
  if p.isActive then cs.filterMap (weigh? a p now) else []

/-- Whether so many young instances of all reach the threshold. -/
def isOverloaded (o : OverloadProtection) (warming total : Nat) : Bool :=
  o.enabled && o.threshold ≤ warming * 100 / total

/-- Whether weights are left alone because too many instances are young. -/
def isSkipped (p : WarmupPolicy) (now : Int) (cs : List Candidate) : Bool :=
  let ws := unprotected a p now cs
  !ws.isEmpty && isOverloaded p.overload ws.length cs.length

/-- The weights of the instances that warm up (`compute_weights`). -/
def compute (p : WarmupPolicy) (now : Int) (cs : List Candidate) : List DynamicWeight :=
  if isSkipped a p now cs then [] else unprotected a p now cs

/-- Without warm-up no weight is changed. -/
theorem compute_of_inactive {p : WarmupPolicy} (h : p.isActive = false) (now : Int)
    (cs : List Candidate) : compute a p now cs = [] := by
  simp [compute, unprotected, h]

end InstanceLifecycle.Weight
