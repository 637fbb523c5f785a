import InstanceLifecycle.Duration.Basic

/-!
# Timers

The program sleeps with the timer of its runtime, which it does not contain. It relies on what is
documented of it: as long as the clock can represent the end of a sleep, the sleep does not end
before its time is over, and it ends with the millisecond in which it is. What becomes of a longer
sleep is left open. So a timer is a parameter of everything that sleeps, and what is documented are
named properties of it.

Results:

* `millis_of_reaches`, `pause_of_reaches`: under these properties a sleep takes its duration in
  whole milliseconds;
* `poll_eq_elapsed_iff`: a sleep ends by itself when its time is over, unless a shutdown came first;
* `neverEarly_bounded`, `inTime_bounded`: a clock that ends somewhere has these properties.
-/

namespace InstanceLifecycle

/-- A timer of the runtime. -/
structure Timer where
  /-- Whether the clock can represent the end of a sleep that begins with some millisecond. -/
  Reaches : Nat → Duration → Prop
  /-- After how many milliseconds such a sleep is over. -/
  millis : Nat → Duration → Nat

namespace Timer

variable (τ : Timer) {start : Nat} {d : Duration}

/-! ## What is documented -/

/-- No sleep whose end the clock can represent is over before its time. -/
def NeverEarly : Prop :=
  ∀ ⦃start : Nat⦄ ⦃d : Duration⦄, τ.Reaches start d → d.nanos ≤ τ.millis start d * 1000000

/-- Every sleep whose end the clock can represent is over with the millisecond in which its
time is. -/
def InTime : Prop :=
  ∀ ⦃start : Nat⦄ ⦃d : Duration⦄, τ.Reaches start d → τ.millis start d * 1000000 < d.nanos + 1000000

/-! ## Sleeps that a shutdown cuts short -/

/-- After how many milliseconds a sleep that a shutdown may cut short is over by itself: at once if
it has no length, and else when the timer says so. -/
def pause (start : Nat) (d : Duration) : Nat := if d.isZero then 0 else τ.millis start d

/-- What such a sleep says when it is looked at, if it is over: whether a shutdown has cut it short
(`sleep_with_shutdown`). It looks for the shutdown before it looks at the clock. -/
def poll (start : Nat) (d : Duration) (isCancelled : Bool) (now : Nat) : Option Bool :=
  if isCancelled then some true
  else if start + τ.pause start d ≤ now then some false
  else none

/-- A sleep ends by itself when its time is over, unless a shutdown came first. -/
theorem poll_eq_elapsed_iff {isCancelled : Bool} {now : Nat} :
    τ.poll start d isCancelled now = some false ↔
      isCancelled = false ∧ start + τ.pause start d ≤ now := by
  unfold poll
  cases isCancelled <;> simp

variable {τ}

/-- A sleep whose end the clock can represent takes its duration in whole milliseconds. -/
theorem millis_of_reaches (early : τ.NeverEarly) (late : τ.InTime) (reach : τ.Reaches start d) :
    τ.millis start d = d.ceilMillis := by
  have := early reach
  have := late reach
  unfold Duration.ceilMillis
  omega

/-- A sleep whose end the clock can represent is not over before its time. -/
theorem NeverEarly.nanos_le_pause (h : τ.NeverEarly) (reach : τ.Reaches start d) :
    d.nanos ≤ τ.pause start d * 1000000 := by
  unfold pause
  split
  · next zero =>
    rw [(Duration.isZero_iff d).mp zero]
    decide
  · exact h reach

/-- So does one that a shutdown may cut short and does not. -/
theorem pause_of_reaches (early : τ.NeverEarly) (late : τ.InTime) (reach : τ.Reaches start d) :
    τ.pause start d = d.ceilMillis := by
  unfold pause
  split
  · next zero =>
    rw [(Duration.isZero_iff d).mp zero]
    decide
  · exact millis_of_reaches early late reach

/-! ## Clocks that end -/

/-- The timer of a clock that ends with some nanosecond: a sleep that would go on after that is over
after a fixed time instead. -/
def bounded (last fallback : Nat) : Timer where
  Reaches start d := start * 1000000 + d.nanos ≤ last
  millis start d := if start * 1000000 + d.nanos ≤ last then d.ceilMillis else fallback

variable (last fallback : Nat)

theorem neverEarly_bounded : (bounded last fallback).NeverEarly := by
  intro start d reach
  have millis : (bounded last fallback).millis start d = d.ceilMillis := if_pos reach
  rw [millis, Duration.ceilMillis]
  omega

theorem inTime_bounded : (bounded last fallback).InTime := by
  intro start d reach
  have millis : (bounded last fallback).millis start d = d.ceilMillis := if_pos reach
  rw [millis, Duration.ceilMillis]
  omega

/-- The timer of a clock of 2^63 seconds: a sleep that ends later is over after thirty years. -/
def thirtyYears : Timer := bounded (Width.bound 63 * nanosPerSecond - 1) 946080000000

end Timer

end InstanceLifecycle
