import InstanceLifecycle.Duration.Basic

/-!
# Waiting between attempts

A failed delivery is tried again after a delay that grows by the same amount each time. A health
probe gets half of the polling interval to answer, but at least a second.

Results:

* `one_le_attempts`: at least one attempt is made.
-/

namespace InstanceLifecycle

/-- A budget of attempts and the delay after the first one. -/
structure Backoff where
  budget : Nat := 3
  base : Duration := .ofSeconds 1
  deriving DecidableEq, Repr

namespace Backoff

/-- How many attempts are made: at least one (`max_attempts`). -/
def attempts (b : Backoff) : Nat := max b.budget 1

/-- The delay after a failed attempt, if another one follows (`delay_after`); attempts count from
one. -/
def delayAfter (b : Backoff) (attempt : Nat) : Option Duration :=
  if attempt = 0 ∨ b.budget ≤ attempt then none else some (b.base.scale attempt)

theorem one_le_attempts (b : Backoff) : 1 ≤ b.attempts := Nat.le_max_right ..

end Backoff

/-- How long a health probe may take (`probe_timeout`). -/
def probeTimeout (interval : Duration) : Duration := interval.half.longer (.ofSeconds 1)

end InstanceLifecycle
