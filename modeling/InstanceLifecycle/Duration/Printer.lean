import InstanceLifecycle.Duration.Basic

/-!
# Writing durations

A duration is written by its parts from years down to nanoseconds, leaving out those that are
zero: `1h 30m`, `2days 5ms`. Years, months and days stand with a plural ending, the shorter units
with their symbol. No time at all is `0s`.
-/

namespace InstanceLifecycle

namespace Duration

/-- A number of a unit with a plural, if it is not zero. -/
def renderNamed (unit : String) (n : Nat) : Option String :=
  if n = 0 then none else some (s!"{n}{unit}" ++ (if n > 1 then "s" else ""))

/-- A number of a unit with a symbol, if it is not zero. -/
def renderSymbol (unit : String) (n : Nat) : Option String :=
  if n = 0 then none else some s!"{n}{unit}"

/-- The parts of a duration that are not zero, the longest unit first. -/
def renderParts (d : Duration) : List String :=
  let inYear := d.seconds % 31557600
  let inMonth := inYear % 2630016
  let inDay := inMonth % 86400
  let n := d.subsecond
  [renderNamed "year" (d.seconds / 31557600),
    renderNamed "month" (inYear / 2630016),
    renderNamed "day" (inMonth / 86400),
    renderSymbol "h" (inDay / 3600),
    renderSymbol "m" (inDay % 3600 / 60),
    renderSymbol "s" (inDay % 60),
    renderSymbol "ms" (n / 1000000),
    renderSymbol "us" (n / 1000 % 1000),
    renderSymbol "ns" (n % 1000)].filterMap id

/-- The text of a duration. -/
def render (d : Duration) : String :=
  if d.isZero then "0s" else " ".intercalate d.renderParts

end Duration

end InstanceLifecycle
