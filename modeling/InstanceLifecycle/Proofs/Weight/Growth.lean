import InstanceLifecycle.Proofs.Weight.Protection
import Mathlib.Data.Rat.Floor

/-!
# Weights that grow with age

Weights are computed in numbers that are rounded after each operation. Here the numbers are
rational, and all that is known of a rounding is that it keeps the order of numbers and leaves the
whole numbers of 32 bits as they are. That is enough: an instance that warms up never loses weight
while it ages, and it gets one at least and its base weight at most.

Results:

* `Within.round`: rounding keeps two numbers in their order below a whole number;
* `within_powerFrom`: so does each step of repeated squaring below one;
* `curve_grows`: the curve between one and the base weight;
* `weights_rise`: what this means for the weights of a tick.
-/

namespace InstanceLifecycle.Weight

/-! ## Rounded arithmetic -/

/-- A rounding of rational numbers: it keeps their order, and the whole numbers of 32 bits. -/
structure Rounding where
  round : ℚ → ℚ
  monotone : Monotone round
  round_natCast : ∀ n < Width.bound 32, round n = n

/-- The operations that weights are computed with. -/
inductive Operation
  | conversion
  | product
  | quotient
  | ceiling
  | magnitude
  | minimum
  | maximum
  deriving DecidableEq, Repr

/-- The arithmetic in which the exact result of each operation is rounded, perhaps in another way
for another operation. Numbers are compared as they are, and the whole part of a number is exact. -/
def Arithmetic.rounded (r : Operation → Rounding) : Arithmetic ℚ where
  ofNat n := (r .conversion).round n
  mul x y := (r .product).round (x * y)
  div x y := (r .quotient).round (x / y)
  ceil x := (r .ceiling).round ⌈x⌉
  abs x := (r .magnitude).round |x|
  min x y := (r .minimum).round (x ⊓ y)
  max x y := (r .maximum).round (x ⊔ y)
  lt x y := x < y
  toNat x := ⌊x⌋₊

namespace Rounding

variable (r : Rounding)

/-- What lies above a whole number still does when it is rounded. -/
theorem le_round {n : Nat} (fits : n < Width.bound 32) {x : ℚ} (h : n ≤ x) : n ≤ r.round x :=
  calc (n : ℚ) = r.round n := (r.round_natCast n fits).symm
    _ ≤ r.round x := r.monotone h

/-- What lies below a whole number still does when it is rounded. -/
theorem round_le {n : Nat} (fits : n < Width.bound 32) {x : ℚ} (h : x ≤ n) : r.round x ≤ n :=
  calc r.round x ≤ r.round n := r.monotone h
    _ = n := r.round_natCast n fits

theorem round_nonneg {x : ℚ} (h : 0 ≤ x) : 0 ≤ r.round x := by
  simpa using r.le_round (n := 0) (by decide) (by simpa using h)

end Rounding

/-! ## Two numbers in their order -/

/-- Two numbers in their order, between zero and a whole number of 32 bits. -/
structure Within (n : Nat) (x y : ℚ) : Prop where
  fits : n < Width.bound 32
  nonneg : 0 ≤ x
  le : x ≤ y
  below : y ≤ n

namespace Within

variable {n : Nat} {s t x y : ℚ}

theorem self (fits : n < Width.bound 32) : Within n n n :=
  ⟨fits, Nat.cast_nonneg n, le_rfl, le_rfl⟩

theorem one : Within 1 1 1 := by simpa using self (n := 1) (by decide)

/-- Rounding keeps two numbers in their order below a whole number. -/
theorem round (h : Within n x y) (r : Rounding) : Within n (r.round x) (r.round y) :=
  ⟨h.fits, r.round_nonneg h.nonneg, r.monotone h.le, r.round_le h.fits h.below⟩

/-- What is multiplied by numbers below one stays below its bound. -/
theorem mul (hx : Within 1 x y) (hs : Within n s t) : Within n (x * s) (y * t) where
  fits := hs.fits
  nonneg := mul_nonneg hx.nonneg hs.nonneg
  le := mul_le_mul hx.le hs.le hs.nonneg (hx.nonneg.trans hx.le)
  below :=
    calc y * t ≤ 1 * t :=
          mul_le_mul_of_nonneg_right (by simpa using hx.below) (hs.nonneg.trans hs.le)
      _ = t := one_mul t
      _ ≤ n := hs.below

/-- Parts of a number are below one. -/
theorem of_div {d : ℚ} (nonneg : 0 ≤ x) (le : x ≤ y) (below : y ≤ d) : Within 1 (x / d) (y / d) := by
  have pos : 0 ≤ d := nonneg.trans (le.trans below)
  refine ⟨by decide, div_nonneg nonneg pos, div_le_div_of_nonneg_right le pos, ?_⟩
  simpa using div_le_one_of_le₀ below pos

theorem ceil (h : Within n x y) : Within n (⌈x⌉ : ℚ) (⌈y⌉ : ℚ) where
  fits := h.fits
  nonneg := by exact_mod_cast Int.ceil_nonneg h.nonneg
  le := by exact_mod_cast Int.ceil_mono h.le
  below := by
    have whole : ⌈y⌉ ≤ (n : ℤ) := Int.ceil_le.mpr (by exact_mod_cast h.below)
    exact_mod_cast whole

theorem abs (h : Within n x y) : Within n |x| |y| := by
  rwa [abs_of_nonneg h.nonneg, abs_of_nonneg (h.nonneg.trans h.le)]

theorem min (h : Within n x y) : Within n (x ⊓ n) (y ⊓ n) where
  fits := h.fits
  nonneg := le_min h.nonneg (Nat.cast_nonneg n)
  le := min_le_min_right _ h.le
  below := min_le_right _ _

theorem max (h : Within n x y) : Within (1 ⊔ n) (x ⊔ 1) (y ⊔ 1) where
  fits := max_lt (by decide) h.fits
  nonneg := h.nonneg.trans (le_max_left _ _)
  le := max_le_max_right _ h.le
  below := by
    rw [Nat.cast_max, Nat.cast_one, max_comm]
    exact max_le_max_left _ h.below

theorem floor (h : Within n x y) : ⌊x⌋₊ ≤ ⌊y⌋₊ ∧ ⌊y⌋₊ ≤ n :=
  ⟨Nat.floor_mono h.le, Nat.floor_le_of_le h.below⟩

end Within

/-! ## The curve -/

section Curve

variable (r : Operation → Rounding)

theorem ofNat_rounded {n : Nat} (fits : n < Width.bound 32) :
    (Arithmetic.rounded r).ofNat n = n :=
  (r .conversion).round_natCast n fits

theorem ofNat_one_rounded : (Arithmetic.rounded r).ofNat 1 = 1 := by
  simpa using ofNat_rounded r (n := 1) (by decide)

/-- Repeated squaring keeps numbers below one in their order, whatever is rounded on the way. -/
theorem within_powerFrom (fuel n : Nat) {s t x y : ℚ} (hs : Within 1 s t) (hx : Within 1 x y) :
    Within 1 ((Arithmetic.rounded r).powerFrom fuel s x n)
      ((Arithmetic.rounded r).powerFrom fuel t y n) := by
  induction fuel generalizing s t x y n with
  | zero => exact hs
  | succ fuel ih =>
    have multiplied : Within 1 (if n % 2 = 1 then (Arithmetic.rounded r).mul s x else s)
        (if n % 2 = 1 then (Arithmetic.rounded r).mul t y else t) := by
      split
      · exact (hs.mul hx).round _
      · exact hs
    have squared : Within 1 ((Arithmetic.rounded r).mul x x) ((Arithmetic.rounded r).mul y y) :=
      (hx.mul hx).round _
    simp only [Arithmetic.powerFrom]
    by_cases last : n / 2 = 0
    · rw [if_pos last, if_pos last]
      exact multiplied
    · rw [if_neg last, if_neg last]
      exact ih (n / 2) multiplied squared

theorem within_power (n : Nat) {x y : ℚ} (h : Within 1 x y) :
    Within 1 ((Arithmetic.rounded r).power x n) ((Arithmetic.rounded r).power y n) := by
  refine within_powerFrom r _ n ?_ h
  rw [ofNat_one_rounded]
  exact Within.one

/-- The curve grows with age between one and the base weight. -/
theorem curve_grows (p : WarmupPolicy) {base : Nat} (fits : base < Width.bound 32) {x y : ℚ}
    (nonneg : 0 ≤ x) (le : x ≤ y) (young : y ≤ intervalOf (.rounded r) p) :
    1 ≤ curve (.rounded r) p base x ∧ curve (.rounded r) p base x ≤ curve (.rounded r) p base y ∧
      curve (.rounded r) p base y ≤ max 1 base := by
  have ratio := (Within.of_div nonneg le young).round (r .quotient)
  have scaled := ((within_power r (exponent p) ratio).mul (Within.self fits)).round (r .product)
  have whole := (scaled.abs.round (r .magnitude)).ceil.round (r .ceiling)
  have capped := whole.min.round (r .minimum)
  have clamped := capped.max.round (r .maximum)
  have curve_eq (z : ℚ) : curve (.rounded r) p base z = ⌊(r .maximum).round
      ((r .minimum).round ((r .ceiling).round ⌈(r .magnitude).round |(r .product).round
        ((Arithmetic.rounded r).power ((r .quotient).round (z / intervalOf (.rounded r) p))
          (exponent p) * base)|⌉ ⊓ base) ⊔ 1)⌋₊ := by
    rw [curve, ofNat_rounded r fits, ofNat_one_rounded]
    rfl
  rw [curve_eq, curve_eq]
  refine ⟨Nat.le_floor ?_, clamped.floor⟩
  exact (r .maximum).le_round (by decide) (by simp)

end Curve

/-! ## Ages -/

variable {α : Type} (a : Arithmetic α)

/-- An instance has a weight exactly while it is younger than the interval. -/
theorem isSome_weightAt? (p : WarmupPolicy) (base millis : Nat) :
    (weightAt? a p base millis).isSome =
      (p.isActive && a.lt (a.ofNat millis) (intervalOf a p)) := by
  unfold weightAt?
  dsimp only
  split
  · next young => rw [young, Option.isSome_some]
  · next old => rw [Bool.eq_false_iff.mpr old, Option.isSome_none]

/-- A tick leaves all weights alone or gives each instance the weight of its age. -/
theorem compute_eq_nil_or (p : WarmupPolicy) (now : Int) (cs : List Candidate) :
    compute a p now cs = [] ∨ compute a p now cs = cs.filterMap (dynamicWeight? a p now) := by
  unfold compute
  split
  · exact Or.inl rfl
  · exact Or.inr (unprotected_eq a p now cs)

/-- After its creation an instance ages. -/
theorem ageMillis_mono {born now later : Int} (alive : born ≤ now) (le : now ≤ later) :
    ageMillis now born ≤ ageMillis later born := by
  unfold ageMillis
  omega

/-- Who is younger than an instance that warms up warms up too, with a weight that is not larger. -/
theorem weightAt?_rises (r : Operation → Rounding) (p : WarmupPolicy) {base : Nat}
    (fits : base < Width.bound 32) {u v w : Nat} (le : u ≤ v)
    (h : weightAt? (.rounded r) p base v = some w) :
    ∃ w', weightAt? (.rounded r) p base u = some w' ∧ 1 ≤ w' ∧ w' ≤ w ∧ w ≤ max 1 base := by
  unfold weightAt? at h ⊢
  dsimp only at h ⊢
  split at h
  · next older =>
    cases h
    obtain ⟨active, young⟩ := Bool.and_eq_true_iff.mp older
    have below : (Arithmetic.rounded r).ofNat v < intervalOf (.rounded r) p := of_decide_eq_true young
    have ages : (Arithmetic.rounded r).ofNat u ≤ (Arithmetic.rounded r).ofNat v :=
      (r .conversion).monotone (by exact_mod_cast le)
    have nonneg : 0 ≤ (Arithmetic.rounded r).ofNat u :=
      (r .conversion).round_nonneg (Nat.cast_nonneg u)
    have younger : (Arithmetic.rounded r).lt ((Arithmetic.rounded r).ofNat u)
        (intervalOf (.rounded r) p) = true := decide_eq_true (ages.trans_lt below)
    rw [active, younger, Bool.and_self, if_pos rfl]
    exact ⟨_, rfl, curve_grows r p fits nonneg ages below.le⟩
  · cases h

/-! ## Ticks -/

/-- How the weights under a policy grow. -/
structure Rises (p : WarmupPolicy) : Prop where
  /-- A tick leaves all weights alone or gives each instance the weight of its age. -/
  entries : ∀ now cs, compute a p now cs = [] ∨
    compute a p now cs = cs.filterMap fun c =>
      c.createdAt.bind fun t => (weightAt? a p c.weight (ageMillis now t)).map (⟨c.id, ·⟩)
  /-- There is one while the instance is younger than the interval. -/
  young : ∀ base millis, (weightAt? a p base millis).isSome =
    (p.isActive && a.lt (a.ofNat millis) (intervalOf a p))
  /-- Of two instances with one base weight the younger one has the smaller weight, if not the same;
  both are one at least and the base weight at most, where this is not zero. -/
  ages : ∀ base < Width.bound 32, ∀ u v, u ≤ v → ∀ w, weightAt? a p base v = some w →
    ∃ w', weightAt? a p base u = some w' ∧ 1 ≤ w' ∧ w' ≤ w ∧ w ≤ max 1 base
  /-- So no instance loses weight from one time after its creation to a later one. -/
  times : ∀ c : Candidate, c.weight < Width.bound 32 → ∀ born, c.createdAt = some born →
    ∀ now later, born ≤ now → now ≤ later → ∀ e, dynamicWeight? a p later c = some e →
      ∃ e', dynamicWeight? a p now c = some e' ∧ 1 ≤ e'.weight ∧ e'.weight ≤ e.weight ∧
        e.weight ≤ max 1 c.weight

/-- Weights grow with age, from one at least up to the base weight at most, in whatever way the
results of the operations are rounded. -/
theorem weights_rise (r : Operation → Rounding) (p : WarmupPolicy) : Rises (.rounded r) p where
  entries := compute_eq_nil_or (.rounded r) p
  young := isSome_weightAt? (.rounded r) p
  ages _ fits _ _ le _ h := weightAt?_rises r p fits le h
  times c fits born created now later alive le e h := by
    simp only [dynamicWeight?, created, Option.bind_some, Option.map_eq_some_iff] at h
    obtain ⟨w, older, rfl⟩ := h
    obtain ⟨w', younger, bounds⟩ := weightAt?_rises r p fits (ageMillis_mono alive le) older
    exact ⟨⟨c.id, w'⟩, by simp [dynamicWeight?, created, younger], bounds⟩

/-- Rounding down to thousandths. -/
def Rounding.thousandths : Rounding where
  round x := ⌊x * 1000⌋ / 1000
  monotone x y h := by
    have scaled : ⌊x * 1000⌋ ≤ ⌊y * 1000⌋ := Int.floor_mono (by linarith)
    have cast : (⌊x * 1000⌋ : ℚ) ≤ ⌊y * 1000⌋ := by exact_mod_cast scaled
    exact div_le_div_of_nonneg_right cast (by norm_num)
  round_natCast n _ := by
    have whole : ⌊(n : ℚ) * 1000⌋ = (n : ℤ) * 1000 := by exact_mod_cast Int.floor_intCast (n * 1000)
    simp [whole]

/-- After a third of the interval a square curve gives about a ninth of the weight. -/
theorem weights_rise_thousandths :
    let a := Arithmetic.rounded fun _ => .thousandths
    let p : WarmupPolicy := ⟨true, .ofSeconds 90, 2, ⟨false, 0⟩⟩
    weightAt? a p 1000 30000 = some 110 ∧
      ∃ w, weightAt? a p 1000 1000 = some w ∧ 1 ≤ w ∧ w ≤ 110 ∧ 110 ≤ max 1 1000 := by
  intro a p
  have third : weightAt? a p 1000 30000 = some 110 := by decide +kernel
  exact ⟨third, (weights_rise _ p).ages 1000 (by decide) 1000 30000 (by decide) 110 third⟩

end InstanceLifecycle.Weight
