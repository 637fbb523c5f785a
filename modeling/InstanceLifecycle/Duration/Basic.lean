import InstanceLifecycle.Width

/-!
# Durations

A duration is a whole number of nanoseconds that lies below 2^64 seconds. Sums and products that
would leave this range stop at its largest value.
-/

namespace InstanceLifecycle

/-- The nanoseconds of a second. -/
def nanosPerSecond : Nat := 1000000000

/-- A length of time in nanoseconds, below 2^64 seconds. -/
structure Duration where
  nanos : Nat
  nanos_lt : nanos < Width.bound 64 * nanosPerSecond
  deriving DecidableEq, Repr

namespace Duration

/-! ## Making durations -/

/-- The duration of so many nanoseconds, or the largest one if there are too many. -/
def ofNanos (n : Nat) : Duration :=
  ⟨min n (Width.bound 64 * nanosPerSecond - 1), by
    simp only [Width.bound_64, nanosPerSecond]
    omega⟩

/-- The duration of so many seconds, or the largest one if there are too many. -/
def ofSeconds (n : Nat) : Duration := ofNanos (n * nanosPerSecond)

/-- No time at all. -/
def zero : Duration := ofNanos 0

instance : Inhabited Duration := ⟨zero⟩

/-! ## Parts -/

/-- Whole seconds. -/
def seconds (d : Duration) : Nat := d.nanos / nanosPerSecond

/-- The nanoseconds beyond the whole seconds. -/
def subsecond (d : Duration) : Nat := d.nanos % nanosPerSecond

/-- Whole milliseconds. -/
def millis (d : Duration) : Nat := d.nanos / 1000000

/-- Milliseconds with a started one counted in full. -/
def ceilMillis (d : Duration) : Nat := (d.nanos + 999999) / 1000000

/-- Whether no time passes. -/
def isZero (d : Duration) : Bool := d.nanos == 0

/-! ## Arithmetic -/

/-- The duration so many times, or the largest one if that is too long. -/
def scale (d : Duration) (n : Nat) : Duration := ofNanos (d.nanos * n)

/-- Half the duration, without a half nanosecond. -/
def half (d : Duration) : Duration :=
  ⟨d.nanos / 2, Nat.lt_of_le_of_lt (Nat.div_le_self ..) d.nanos_lt⟩

/-- The longer of two durations. -/
def longer (a b : Duration) : Duration := if a.nanos ≤ b.nanos then b else a

/-! ## Lemmas -/

@[ext]
theorem ext {a b : Duration} (h : a.nanos = b.nanos) : a = b := by
  cases a; cases b; simp_all

theorem nanos_ofNanos (n : Nat) :
    (ofNanos n).nanos = min n (Width.bound 64 * nanosPerSecond - 1) := rfl

@[simp]
theorem isZero_iff (d : Duration) : d.isZero = true ↔ d = zero := by
  constructor
  · intro h
    ext
    simp only [isZero, beq_iff_eq] at h
    simp only [h, zero, nanos_ofNanos]
    omega
  · rintro rfl
    decide

end Duration

end InstanceLifecycle
