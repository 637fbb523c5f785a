import InstanceLifecycle.Duration.Basic
import InstanceLifecycle.Text.Blank
import InstanceLifecycle.Text.Digits

/-!
# Reading durations

A duration is written as a sequence of terms such as `1h 30m` or `1.5s`: a number, perhaps with a
fraction, and a unit. Blanks may stand before and inside a number, before a unit and after it, and
the next number may follow a unit directly. The text `0` alone needs no unit.

A fraction has to come out even: in nanoseconds for the units up to minutes, in seconds for the
longer ones. Every number on the way has to fit a 64-bit word.

Results:

* `readWhole_length_le`, `readFraction_length_le`, `readUnit_length_le`: reading only consumes.
-/

namespace InstanceLifecycle

namespace Duration

open Text

/-! ## Units -/

/-- The units of time that a duration may be written in. -/
inductive TimeUnit
  | nanosecond | microsecond | millisecond | second | minute | hour | day | week | month | year
  deriving DecidableEq, Repr

namespace TimeUnit

/-- The unit with this spelling; upper and lower case differ. -/
def ofText? : String → Option TimeUnit
  | "nanos" | "nsec" | "ns" => some .nanosecond
  | "usec" | "us" | "µs" => some .microsecond
  | "millis" | "msec" | "ms" => some .millisecond
  | "seconds" | "second" | "secs" | "sec" | "s" => some .second
  | "minutes" | "minute" | "min" | "mins" | "m" => some .minute
  | "hours" | "hour" | "hr" | "hrs" | "h" => some .hour
  | "days" | "day" | "d" => some .day
  | "weeks" | "week" | "wk" | "wks" | "w" => some .week
  | "months" | "month" | "M" => some .month
  | "years" | "year" | "yr" | "yrs" | "y" => some .year
  | _ => none

/-- How a number of this unit is counted: in whole seconds, or in nanoseconds. -/
inductive Measure
  | seconds (each : Nat)
  | nanos (each : Nat)

/-- Whole numbers of a unit from the second on are counted in seconds. -/
def whole : TimeUnit → Measure
  | nanosecond => .nanos 1
  | microsecond => .nanos 1000
  | millisecond => .nanos 1000000
  | second => .seconds 1
  | minute => .seconds 60
  | hour => .seconds 3600
  | day => .seconds 86400
  | week => .seconds (86400 * 7)
  | month => .seconds 2630016
  | year => .seconds 31557600

/-- Fractions of a unit up to the minute are counted in nanoseconds; a nanosecond has none. -/
def fraction : TimeUnit → Option Measure
  | nanosecond => none
  | second => some (.nanos nanosPerSecond)
  | minute => some (.nanos (60 * nanosPerSecond))
  | u => some u.whole

end TimeUnit

/-! ## Sums -/

/-- Why a text is not read as a duration. -/
inductive ReadError
  /-- The text has another form, or a number in it is too large. -/
  | malformed
  /-- The terms add up to exactly 2^64 seconds. -/
  | beyondRange
  deriving DecidableEq, Repr

/-- Refuses numbers that do not fit a 64-bit word. -/
def word (n : Nat) : Except ReadError Nat :=
  if n < Width.bound 64 then .ok n else .error .malformed

/-- Adds seconds and nanoseconds to a duration, carrying only more than a full second. -/
def add (d : Duration) (seconds nanos : Nat) : Except ReadError Duration := do
  let n ← word (d.subsecond + nanos)
  let carry := if n > nanosPerSecond then n / nanosPerSecond else 0
  let seconds ← word (seconds + carry)
  let seconds ← word (d.seconds + seconds)
  let total := seconds * nanosPerSecond + (n - carry * nanosPerSecond)
  if total < Width.bound 64 * nanosPerSecond then .ok (ofNanos total) else .error .beyondRange

/-- Adds so many of a measure, `num / den` of one at a time. -/
def addMeasure (d : Duration) (num den : Nat) : TimeUnit.Measure → Except ReadError Duration
  | .seconds each => do
    let n ← word (num * each)
    if n % den = 0 then d.add (n / den) 0 else .error .malformed
  | .nanos each => do
    let n ← word (num * each)
    if n % den = 0 then d.add 0 (n / den) else .error .malformed

/-! ## Terms -/

/-- The decimals of a number, as a numerator over a power of ten. -/
structure Decimals where
  numerator : Nat
  denominator : Nat

/-- The characters that units are spelled with. -/
def isUnitLetter (c : Char) : Bool := c.isAlpha || c == 'µ'

/-- The number that starts with the digits of `n`, and the text from its point or unit on. -/
def readWhole (n : Nat) : List Char → Option (Nat × List Char)
  | [] => some (n, [])
  | c :: r =>
    match digit? 10 c with
    | some d => if n * 10 + d < Width.bound 64 then readWhole (n * 10 + d) r else none
    | none =>
      if isBlank c then readWhole n r
      else if isUnitLetter c || c == '.' then some (n, c :: r) else none

/-- The decimals that start with `f`, and the text from the unit on. -/
def readFraction (f : Decimals) : List Char → Option (Decimals × List Char)
  | [] => if f.denominator = 1 then none else some (f, [])
  | c :: r =>
    match digit? 10 c with
    | some d =>
      let g : Decimals := ⟨f.numerator * 10 + d, f.denominator * 10⟩
      if g.numerator < Width.bound 64 ∧ g.denominator < Width.bound 64 then readFraction g r
      else none
    | none =>
      if isBlank c then readFraction f r
      else if isUnitLetter c && f.denominator != 1 then some (f, c :: r) else none

/-- The letters of a unit and the text behind it, without the blank that ended it. -/
def readUnit : List Char → Option (List Char × List Char)
  | [] => some ([], [])
  | c :: r =>
    if (digit? 10 c).isSome then some ([], c :: r)
    else if isBlank c then some ([], r)
    else if isUnitLetter c then (readUnit r).map fun (u, rest) => (c :: u, rest) else none

theorem readWhole_length_le {n m : Nat} {cs rest : List Char}
    (h : readWhole n cs = some (m, rest)) : rest.length ≤ cs.length := by
  induction cs generalizing n with
  | nil => simp_all [readWhole]
  | cons c r ih => grind [readWhole]

theorem readFraction_length_le {f g : Decimals} {cs rest : List Char}
    (h : readFraction f cs = some (g, rest)) : rest.length ≤ cs.length := by
  induction cs generalizing f with
  | nil => grind [readFraction]
  | cons c r ih => grind [readFraction]

theorem readUnit_length_le {cs u rest : List Char} (h : readUnit cs = some (u, rest)) :
    rest.length ≤ cs.length := by
  induction cs generalizing u rest with
  | nil => simp_all [readUnit]
  | cons c r ih => cases hr : readUnit r <;> grind [readUnit]

/-- The optional decimals of a number: they follow a point. -/
def readDecimals : List Char → Option (Option Decimals × List Char)
  | '.' :: r => (readFraction ⟨0, 1⟩ r).map fun (f, rest) => (some f, rest)
  | cs => some (none, cs)

theorem readDecimals_length_le {f : Option Decimals} {cs rest : List Char}
    (h : readDecimals cs = some (f, rest)) : rest.length ≤ cs.length := by
  unfold readDecimals at h
  split at h
  · obtain ⟨⟨g, t⟩, hg, he⟩ := Option.map_eq_some_iff.1 h
    have := readFraction_length_le hg
    simp_all
    omega
  · simp_all

/-- Adds one term: the number of the unit, then its fraction. -/
def addTerm (d : Duration) (n : Nat) (f : Option Decimals) (u : TimeUnit) :
    Except ReadError Duration := do
  let d ← d.addMeasure n 1 u.whole
  match f, u.fraction with
  | none, _ => .ok d
  | some f, some m => d.addMeasure f.numerator f.denominator m
  | some _, none => .error .malformed

/-- A term as it is written. -/
structure Term where
  count : Nat
  decimals : Option Decimals
  unit : TimeUnit

/-- The term whose number starts with the digit `n`, and the text behind it. -/
def readTerm (n : Nat) (cs : List Char) : Option (Term × List Char) := do
  let (n, cs) ← readWhole n cs
  let (f, cs) ← readDecimals cs
  let (u, cs) ← readUnit cs
  let u ← TimeUnit.ofText? (String.ofList u)
  some (⟨n, f, u⟩, cs)

theorem readTerm_length_le {n : Nat} {cs rest : List Char} {t : Term}
    (h : readTerm n cs = some (t, rest)) : rest.length ≤ cs.length := by
  simp only [readTerm, Option.bind_eq_bind, Option.bind_eq_some_iff] at h
  obtain ⟨⟨m, a⟩, ha, ⟨f, b⟩, hb, ⟨u, c⟩, hc, v, hv, he⟩ := h
  have := readWhole_length_le ha
  have := readDecimals_length_le hb
  have := readUnit_length_le hc
  simp_all
  omega

/-! ## Texts -/

/-- Adds the terms of a text to a duration. -/
def addTerms (d : Duration) : List Char → Except ReadError Duration
  | [] => .ok d
  | c :: r =>
    match digit? 10 c with
    | some n =>
      match h : readTerm n r with
      | some (t, rest) =>
        have := readTerm_length_le h
        match d.addTerm t.count t.decimals t.unit with
        | .ok d => addTerms d rest
        | .error e => .error e
      | none => .error .malformed
    | none => if isBlank c then addTerms d r else .error .malformed
  termination_by cs => cs.length
  decreasing_by
    · exact Nat.lt_succ_of_le this
    · exact Nat.lt_succ_self r.length

/-- The duration that a text denotes. -/
def read (s : String) : Except ReadError Duration :=
  if s == "0" then .ok zero
  else if isBlankText s then .error .malformed
  else addTerms zero s.toList

end Duration

/-- How texts are read as durations. The program leaves this to a library; what does not depend on
its grammar is said of any reader. -/
class DurationReader where
  read : String → Except Duration.ReadError Duration

/-- The grammar of the library (`parse_duration`). -/
instance DurationReader.grammar : DurationReader := ⟨Duration.read⟩

@[simp]
theorem DurationReader.read_grammar (s : String) : DurationReader.read s = Duration.read s := rfl

end InstanceLifecycle
