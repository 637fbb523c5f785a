import Mathlib.Data.List.Basic
import InstanceLifecycle.Proofs.Settings.Acceptance

/-!
# The rules for settings

Settings are accepted if they keep to some rules. The rules are listed here once more, part by part:
when given settings break a rule, and what is reported then. Settings that break rules are refused
with one violation for each of them, in the order of the list. A rule on the spelling of a value
looks at the text that is given; every other one looks at the settings with the fallback in the
place of what is missing or malformed.

There is one exception. Terms that add up to 2^64 seconds are no duration, and the reader of
durations breaks off on them; nothing is reported then.

Results:

* `SettingsRule.count_all`: every rule is in the list, and once;
* `SettingsRule.violations_eq_report`: what is checked are the rules of the list, in its order;
* `SettingsRule.report_congr`: what is reported on a part depends on its sections alone;
* `RawSettings.resolve_repaired`, `RawSettings.report_repaired`: a malformed value counts as its
  fallback;
* `RawSettings.exhaustive_iff`: the settings whose broken rules are all reported.
-/

namespace InstanceLifecycle

open Text

/-! ## Values -/

/-- The durations that settings may give. -/
inductive DurationField
  | delay
  | healthCheck
  | warmup
  | backoff
  deriving DecidableEq, Repr

namespace DurationField

def name : DurationField → String
  | delay => "lossless.delay_register.interval"
  | healthCheck => "lossless.health_check.interval"
  | warmup => "lossless.warmup.interval"
  | backoff => "event_reporter.retry_backoff"

/-- The text that is given for the duration. -/
def given (raw : RawSettings) : DurationField → Option String
  | delay => raw.graceful.delay.interval
  | healthCheck => raw.graceful.healthCheck.interval
  | warmup => raw.graceful.warmup.interval
  | backoff => raw.reporter.retryBackoff

/-- What stands for the duration if none or a malformed one is given. -/
def fallback : DurationField → String
  | delay => "30s"
  | healthCheck => "5s"
  | warmup => "120s"
  | backoff => "1s"

/-- The duration that the fallback denotes. -/
def fallbackValue : DurationField → Duration
  | delay => .ofSeconds 30
  | healthCheck => .ofSeconds 5
  | warmup => .ofSeconds 120
  | backoff => .ofSeconds 1

/-- The duration in the settings. -/
def value (s : Settings) : DurationField → Duration
  | delay => s.graceful.delay.interval
  | healthCheck => s.graceful.healthCheck.interval
  | warmup => s.graceful.warmup.interval
  | backoff => s.reporter.retryBackoff

theorem value_resolve (raw : RawSettings) (f : DurationField) :
    f.value raw.resolve = durationOr f.fallbackValue (f.given raw) := by
  cases f <;> rfl

theorem read_fallback (f : DurationField) :
    Duration.read (trim f.fallback) = .ok f.fallbackValue := by
  cases f <;> exact eq_ok_of_toOption (by decide +kernel)

/-- No duration lies beyond the range exactly if none of the fields gives one. -/
theorem within_iff {raw : RawSettings} :
    raw.beyondRange = false ↔
      ∀ (f : DurationField) (s : String), f.given raw = some s →
        Duration.read (trim s) ≠ .error .beyondRange := by
  rw [RawSettings.beyondRange_eq_false_iff]
  constructor
  · intro within f s given
    exact within s (by cases f <;> simp_all [RawSettings.durations, DurationField.given])
  · intro within s among
    simp only [RawSettings.durations, List.mem_cons, List.not_mem_nil, or_false] at among
    rcases among with h | h | h | h
    · exact within .delay s h.symm
    · exact within .healthCheck s h.symm
    · exact within .warmup s h.symm
    · exact within .backoff s h.symm

end DurationField

/-- The probes. -/
inductive ProbeField
  | readiness
  | offline
  deriving DecidableEq, Repr

namespace ProbeField

def name : ProbeField → String
  | readiness => "readiness"
  | offline => "offline"

def settings (s : Settings) : ProbeField → EndpointSettings
  | readiness => s.graceful.readiness
  | offline => s.graceful.offline

end ProbeField

/-- The paths that start at the root. -/
inductive PathField
  | health
  | probe (p : ProbeField)
  | metrics
  deriving DecidableEq, Repr

namespace PathField

def name : PathField → String
  | health => "lossless.health_check.path"
  | probe .readiness => "lossless.readiness.path"
  | probe .offline => "lossless.offline.path"
  | metrics => "admin.metrics_path"

/-- The path in the settings, if there is one. -/
def value? (s : Settings) : PathField → Option String
  | health => some s.graceful.healthCheck.path
  | probe p => some (p.settings s).path
  | metrics => s.admin.metricsPath

end PathField

/-! ## Rules -/

/-- The rules for settings. -/
inductive SettingsRule
  /-- There is such a way to delay. -/
  | knownStrategy
  /-- A duration that is given is not blank. -/
  | filled (f : DurationField)
  /-- A text that is given for a duration denotes one. -/
  | readable (f : DurationField)
  /-- A registration that is delayed by time is delayed for some time. -/
  | delayPasses
  /-- There is such a scheme. -/
  | knownProtocol
  /-- The method is one. -/
  | isMethod
  /-- The path starts with a slash. -/
  | absolute (p : PathField)
  /-- Health is checked some time where registrations wait for it. -/
  | someCheck
  /-- Some time passes between checks where registrations wait for health. -/
  | checksPass
  /-- A warm-up takes some time. -/
  | warmupPasses
  /-- A share of instances is at most all of them. -/
  | thresholdWithin
  /-- Some event can be queued. -/
  | someQueue
  /-- The collector is given without a scheme. -/
  | bareAddress
  /-- The collectors' service has a name. -/
  | namedService
  /-- The probes answer paths of their own. -/
  | probesApart
  /-- The counters are shown where the probe does not answer. -/
  | metricsApart (p : ProbeField)
  deriving DecidableEq, Repr

namespace SettingsRule

/-- Whether the rule is about the spelling of a value that has a fallback. -/
def isSpelling : SettingsRule → Bool
  | knownStrategy | filled _ | readable _ | knownProtocol | isMethod => true
  | _ => false

/-- Whether given settings break the rule. -/
def isBroken (raw : RawSettings) : SettingsRule → Bool
  | knownStrategy => raw.graceful.delay.strategy.any fun s => (DelayKind.ofText? s).isNone
  | filled f => (f.given raw).any isBlankText
  | readable f =>
    (f.given raw).any fun s => !isBlankText s && (Duration.read (trim s)).toOption.isNone
  | delayPasses =>
    let d := raw.resolve.graceful.delay
    d.enabled && d.kind == .byTime && d.interval.isZero
  | knownProtocol =>
    (trimmed? raw.graceful.healthCheck.protocol).any fun s => (Http.Scheme.ofText? s).isNone
  | isMethod => (trimmed? raw.graceful.healthCheck.method).any fun s => !Http.isMethod (upper s)
  | absolute p => (p.value? raw.resolve).any fun path => !Http.isAbsolute path
  | someCheck =>
    let g := raw.resolve.graceful
    g.delay.enabled && g.delay.kind == .byHealthCheck && g.healthCheck.maxRetry == 0
  | checksPass =>
    let g := raw.resolve.graceful
    g.delay.enabled && g.delay.kind == .byHealthCheck && g.healthCheck.interval.isZero
  | warmupPasses =>
    let w := raw.resolve.graceful.warmup
    w.enabled && w.interval.isZero
  | thresholdWithin => decide (100 < raw.resolve.graceful.warmup.overload.threshold)
  | someQueue => raw.resolve.reporter.queueSize == 0
  | bareAddress => raw.resolve.reporter.address.any fun a => contains "://" a
  | namedService => raw.reporter.discovery.any fun d => isBlankText d.service
  | probesApart =>
    let g := raw.resolve.graceful
    g.readiness.enabled && g.offline.enabled && g.offline.path == g.readiness.path
  | metricsApart p =>
    let e := p.settings raw.resolve
    e.enabled && raw.resolve.admin.metricsPath == some e.path

/-- What is reported when the rule is broken. -/
def violation (raw : RawSettings) : SettingsRule → Violation
  | knownStrategy => .unknownStrategy (trim (raw.graceful.delay.strategy.getD ""))
  | filled f => .blankDuration f.name
  | readable f => .malformedDuration f.name (trim ((f.given raw).getD ""))
  | delayPasses => .zeroDuration DurationField.delay.name
  | knownProtocol => .unknownProtocol ((trimmed? raw.graceful.healthCheck.protocol).getD "")
  | isMethod => .malformedMethod ((trimmed? raw.graceful.healthCheck.method).getD "")
  | absolute p => .relativePath p.name ((p.value? raw.resolve).getD "")
  | someCheck => .noHealthCheck
  | checksPass => .zeroDuration DurationField.healthCheck.name
  | warmupPasses => .zeroDuration DurationField.warmup.name
  | thresholdWithin => .thresholdAboveAll raw.resolve.graceful.warmup.overload.threshold
  | someQueue => .emptyQueue
  | bareAddress => .addressWithScheme (raw.resolve.reporter.address.getD "")
  | namedService => .blankService
  | probesApart => .sharedProbePath raw.resolve.graceful.offline.path
  | metricsApart p => .metricsOnProbePath p.name (raw.resolve.admin.metricsPath.getD "")

/-- The violations of those of the rules that are broken. -/
def report (raw : RawSettings) (rules : List SettingsRule) : List Violation :=
  (rules.filter (isBroken raw)).map (violation raw)

theorem report_append (raw : RawSettings) (rs qs : List SettingsRule) :
    report raw (rs ++ qs) = report raw rs ++ report raw qs := by
  simp [report]

theorem report_singleton (raw : RawSettings) (r : SettingsRule) :
    report raw [r] = if r.isBroken raw then [r.violation raw] else [] := by
  cases h : r.isBroken raw <;> simp [report, h]

theorem report_flatMap {α : Type} (raw : RawSettings) (l : List α) (f : α → List SettingsRule) :
    report raw (l.flatMap f) = l.flatMap fun a => report raw (f a) := by
  induction l with
  | nil => rfl
  | cons a l ih => rw [List.flatMap_cons, report_append, ih, List.flatMap_cons]

end SettingsRule

/-! ## Parts -/

/-- The parts of settings, in the order in which violations are reported; the last one is about
several sections. -/
inductive SettingsPart
  | delay
  | healthCheck
  | readiness
  | offline
  | warmup
  | admin
  | reporter
  | across
  deriving DecidableEq, Repr

namespace SettingsPart

/-- All parts, in their order. -/
def all : List SettingsPart :=
  [delay, healthCheck, readiness, offline, warmup, admin, reporter, across]

/-- The rules for a part, in their order. -/
def rules : SettingsPart → List SettingsRule
  | delay => [.knownStrategy, .filled .delay, .readable .delay, .delayPasses]
  | healthCheck =>
    [.filled .healthCheck, .readable .healthCheck, .knownProtocol, .isMethod, .absolute .health,
      .someCheck, .checksPass]
  | readiness => [.absolute (.probe .readiness)]
  | offline => [.absolute (.probe .offline)]
  | warmup => [.filled .warmup, .readable .warmup, .warmupPasses, .thresholdWithin]
  | admin => [.absolute .metrics]
  | reporter => [.someQueue, .bareAddress, .namedService, .filled .backoff, .readable .backoff]
  | across => [.probesApart, .metricsApart .readiness, .metricsApart .offline]

/-- Whether two settings give the same in the sections that a part is about. -/
def Agree (raw other : RawSettings) : SettingsPart → Prop
  | delay | healthCheck | readiness | offline | warmup => raw.graceful = other.graceful
  | admin => raw.admin = other.admin
  | reporter => raw.reporter = other.reporter
  | across => raw.graceful = other.graceful ∧ raw.admin = other.admin

/-- What is reported on a part. -/
def report (raw : RawSettings) (p : SettingsPart) : List Violation := SettingsRule.report raw p.rules

end SettingsPart

namespace SettingsRule

/-- All rules, in the order of their parts. -/
def all : List SettingsRule := SettingsPart.all.flatMap SettingsPart.rules

/-- Every rule is in the list, and once. -/
theorem count_all (r : SettingsRule) : all.count r = 1 := by
  cases r with
  | filled f | readable f => cases f <;> decide
  | metricsApart p => cases p <;> decide
  | absolute p =>
    cases p with
    | probe p => cases p <;> decide
    | health | metrics => decide
  | _ => decide

theorem mem_all (r : SettingsRule) : r ∈ all :=
  List.count_pos_iff.mp (by rw [count_all]; exact Nat.one_pos)

/-- The part that a rule is about. -/
def part : SettingsRule → SettingsPart
  | knownStrategy | delayPasses => .delay
  | knownProtocol | isMethod | someCheck | checksPass => .healthCheck
  | warmupPasses | thresholdWithin => .warmup
  | someQueue | bareAddress | namedService => .reporter
  | probesApart | metricsApart _ => .across
  | filled f | readable f =>
    match f with
    | .delay => .delay
    | .healthCheck => .healthCheck
    | .warmup => .warmup
    | .backoff => .reporter
  | absolute p =>
    match p with
    | .health => .healthCheck
    | .probe .readiness => .readiness
    | .probe .offline => .offline
    | .metrics => .admin

theorem part_of_mem {r : SettingsRule} {p : SettingsPart} (h : r ∈ p.rules) : r.part = p := by
  have all : ∀ q ∈ p.rules, q.part = p := by cases p <;> decide
  exact all r h

/-- Whether a rule is broken, and what is reported then, depends on the sections that it
is about. -/
theorem same_of_agree {raw other : RawSettings} {r : SettingsRule} (h : r.part.Agree raw other) :
    r.isBroken raw = r.isBroken other ∧ r.violation raw = r.violation other := by
  obtain ⟨g, a, n, w, c⟩ := raw
  obtain ⟨g', a', n', w', c'⟩ := other
  cases r with
  | knownStrategy | delayPasses | knownProtocol | isMethod | someCheck | checksPass | warmupPasses
  | thresholdWithin =>
    obtain rfl : g = g' := h
    exact ⟨rfl, rfl⟩
  | someQueue | bareAddress | namedService =>
    obtain rfl : n = n' := h
    exact ⟨rfl, rfl⟩
  | filled f | readable f =>
    cases f with
    | delay | healthCheck | warmup =>
      obtain rfl : g = g' := h
      exact ⟨rfl, rfl⟩
    | backoff =>
      obtain rfl : n = n' := h
      exact ⟨rfl, rfl⟩
  | absolute p =>
    cases p with
    | health =>
      obtain rfl : g = g' := h
      exact ⟨rfl, rfl⟩
    | probe q =>
      obtain rfl : g = g' := by cases q <;> exact h
      cases q <;> exact ⟨rfl, rfl⟩
    | metrics =>
      obtain rfl : a = a' := h
      exact ⟨rfl, rfl⟩
  | probesApart =>
    obtain ⟨rfl, rfl⟩ : g = g' ∧ a = a' := h
    exact ⟨rfl, rfl⟩
  | metricsApart q =>
    obtain ⟨rfl, rfl⟩ : g = g' ∧ a = a' := h
    cases q <;> exact ⟨rfl, rfl⟩

/-- What is reported on a part depends on the sections that the part is about. -/
theorem report_congr {raw other : RawSettings} {p : SettingsPart} (h : p.Agree raw other) :
    p.report raw = p.report other := by
  have same (r : SettingsRule) (hr : r ∈ p.rules) := same_of_agree (part_of_mem hr ▸ h)
  rw [SettingsPart.report, SettingsPart.report, report, report,
    List.filter_congr fun r hr => (same r hr).1]
  exact List.map_congr_left fun r hr => (same r (List.mem_filter.mp hr).1).2

/-! ## What is checked -/

section

variable (raw : RawSettings)

theorem strategyViolations_eq_report :
    raw.graceful.delay.strategyViolations = report raw [.knownStrategy] := by
  rw [report_singleton]
  cases given : raw.graceful.delay.strategy with
  | none => simp [RawDelay.strategyViolations, isBroken, given]
  | some s =>
    cases known : DelayKind.ofText? s <;>
      simp [RawDelay.strategyViolations, isBroken, violation, given, known]

theorem protocolViolations_eq_report :
    raw.graceful.healthCheck.protocolViolations = report raw [.knownProtocol] := by
  rw [report_singleton]
  cases given : trimmed? raw.graceful.healthCheck.protocol with
  | none => simp [RawHealthCheck.protocolViolations, isBroken, given]
  | some s =>
    cases known : Http.Scheme.ofText? s <;>
      simp [RawHealthCheck.protocolViolations, isBroken, violation, given, known]

theorem methodViolations_eq_report :
    raw.graceful.healthCheck.methodViolations = report raw [.isMethod] := by
  rw [report_singleton]
  cases given : trimmed? raw.graceful.healthCheck.method with
  | none => simp [RawHealthCheck.methodViolations, isBroken, given]
  | some s =>
    cases known : Http.isMethod (upper s) <;>
      simp [RawHealthCheck.methodViolations, isBroken, violation, given, known]

theorem pathViolations_eq_report {p : PathField} {path : String}
    (given : p.value? raw.resolve = some path) :
    pathViolations p.name path = report raw [.absolute p] := by
  rw [report_singleton]
  cases known : Http.isAbsolute path <;>
    simp [pathViolations, isBroken, violation, given, known]

theorem admin_eq_report : raw.admin.violations = SettingsPart.admin.report raw := by
  cases given : raw.admin.resolve.metricsPath with
  | none =>
    have resolved : PathField.metrics.value? raw.resolve = none := given
    simp [RawAdmin.violations, given, SettingsPart.report, SettingsPart.rules, report_singleton,
      isBroken, resolved]
  | some path =>
    have resolved : PathField.metrics.value? raw.resolve = some path := given
    rw [RawAdmin.violations, given, Option.toList_some, List.flatMap_singleton]
    exact pathViolations_eq_report raw resolved

theorem addressViolations_eq_report :
    raw.reporter.addressViolations = report raw [.bareAddress] := by
  rw [report_singleton]
  have resolved : raw.resolve.reporter = raw.reporter.resolve := rfl
  cases given : raw.reporter.resolve.address with
  | none => simp [RawReporter.addressViolations, isBroken, resolved, given]
  | some a =>
    cases known : contains "://" a <;>
      simp [RawReporter.addressViolations, isBroken, violation, resolved, given, known]

/-- A service is there exactly if its name is not blank. -/
theorem serviceViolations_eq_report :
    (if raw.reporter.discovery.isSome && raw.reporter.resolve.discovery.isNone then
      [.blankService] else []) = report raw [.namedService] := by
  rw [report_singleton]
  cases given : raw.reporter.discovery with
  | none => simp [isBroken, given]
  | some d =>
    cases known : isBlankText d.service <;>
      simp [RawReporter.resolve, RawDiscovery.resolve, isBroken, violation, given, known]

/-- The counters on the path of a probe. -/
theorem metricsOnProbePath_eq_report (p : ProbeField) :
    (raw.resolve.admin.metricsPath.toList.flatMap fun m =>
      if (p.settings raw.resolve).enabled && (p.settings raw.resolve).path == m then
        [.metricsOnProbePath p.name m] else []) = report raw [.metricsApart p] := by
  rw [report_singleton]
  cases given : raw.resolve.admin.metricsPath with
  | none => simp [isBroken, given]
  | some m =>
    have swap : ((p.settings raw.resolve).path == m) =
        (some m == some (p.settings raw.resolve).path) := by
      rw [Option.some_beq_some, Bool.beq_comm]
    simp only [Option.toList_some, List.flatMap_singleton, isBroken, violation, given,
      Option.getD_some, swap]

theorem pathConflicts_eq_report :
    raw.resolve.pathConflicts = SettingsPart.across.report raw := by
  have split : SettingsPart.across.rules =
      [.probesApart] ++ ([.metricsApart .readiness] ++ [.metricsApart .offline]) := rfl
  have shared : (if raw.resolve.graceful.offline.enabled && raw.resolve.graceful.readiness.enabled &&
        raw.resolve.graceful.offline.path == raw.resolve.graceful.readiness.path then
      [Violation.sharedProbePath raw.resolve.graceful.offline.path] else []) =
      report raw [.probesApart] := by
    rw [report_singleton, isBroken, violation, Bool.and_comm raw.resolve.graceful.offline.enabled]
  rw [SettingsPart.report, split, report_append, report_append, ← metricsOnProbePath_eq_report,
    ← metricsOnProbePath_eq_report, ← shared, Settings.pathConflicts]
  cases raw.resolve.admin.metricsPath with
  | none => simp
  | some m =>
    simp only [Option.toList_some, List.filterMap_eq_flatMap_toList,
      List.flatMap_cons, List.flatMap_nil, List.append_nil, apply_ite Option.toList,
      Option.toList_none]
    rfl

end

section

variable {raw : RawSettings} (within : raw.beyondRange = false)

include within

/-- Within the range a text that denotes no duration is malformed. -/
theorem durationViolations_eq_report (f : DurationField) :
    durationViolations f.name (f.given raw) = report raw [.filled f, .readable f] := by
  have split : [SettingsRule.filled f, .readable f] = [.filled f] ++ [.readable f] := rfl
  rw [split, report_append, report_singleton, report_singleton]
  cases given : f.given raw with
  | none => simp [durationViolations, isBroken, given]
  | some s =>
    have inRange := DurationField.within_iff.mp within f s given
    cases blank : isBlankText s with
    | true => simp [durationViolations, isBroken, violation, given, blank]
    | false =>
      cases denotes : Duration.read (trim s) with
      | ok d => simp [durationViolations, isBroken, given, blank, denotes, Except.toOption]
      | error e =>
        cases e with
        | beyondRange => exact absurd denotes inRange
        | malformed =>
          simp [durationViolations, isBroken, violation, given, blank, denotes, Except.toOption]

theorem delay_eq_report : raw.graceful.delay.violations = SettingsPart.delay.report raw := by
  have split : SettingsPart.delay.rules =
      [.knownStrategy] ++ [.filled .delay, .readable .delay] ++ [.delayPasses] := rfl
  rw [SettingsPart.report, split, report_append, report_append, ← strategyViolations_eq_report,
    ← durationViolations_eq_report within, report_singleton]
  rfl

theorem healthCheck_eq_report :
    raw.graceful.healthCheck.violations raw.graceful.needsHealthCheck =
      SettingsPart.healthCheck.report raw := by
  have split : SettingsPart.healthCheck.rules =
      [.filled .healthCheck, .readable .healthCheck] ++ [.knownProtocol] ++ [.isMethod] ++
        [.absolute .health] ++ [.someCheck] ++ [.checksPass] := rfl
  rw [SettingsPart.report, split]
  simp only [report_append]
  rw [← durationViolations_eq_report within, ← protocolViolations_eq_report,
    ← methodViolations_eq_report, ← pathViolations_eq_report raw rfl, report_singleton,
    report_singleton]
  rfl

theorem warmup_eq_report : raw.graceful.warmup.violations = SettingsPart.warmup.report raw := by
  have split : SettingsPart.warmup.rules =
      [.filled .warmup, .readable .warmup] ++ [.warmupPasses] ++ [.thresholdWithin] := rfl
  rw [SettingsPart.report, split, report_append, report_append,
    ← durationViolations_eq_report within, report_singleton, report_singleton]
  simp only [isBroken, decide_eq_true_eq]
  rfl

theorem reporter_eq_report : raw.reporter.violations = SettingsPart.reporter.report raw := by
  have split : SettingsPart.reporter.rules =
      [.someQueue] ++ [.bareAddress] ++ [.namedService] ++ [.filled .backoff, .readable .backoff] :=
    rfl
  rw [SettingsPart.report, split]
  simp only [report_append]
  rw [← durationViolations_eq_report within, ← addressViolations_eq_report,
    ← serviceViolations_eq_report, report_singleton]
  simp only [isBroken, beq_iff_eq]
  rfl

/-- What is checked are the rules of the list, in its order. -/
theorem violations_eq_report : raw.violations = report raw all := by
  have readiness : pathViolations "lossless.readiness.path" raw.graceful.resolve.readiness.path =
      SettingsPart.readiness.report raw := pathViolations_eq_report raw (p := .probe .readiness) rfl
  have offline : pathViolations "lossless.offline.path" raw.graceful.resolve.offline.path =
      SettingsPart.offline.report raw := pathViolations_eq_report raw (p := .probe .offline) rfl
  rw [all, report_flatMap]
  simp only [RawSettings.violations, RawGraceful.violations, delay_eq_report within,
    healthCheck_eq_report within, readiness, offline, warmup_eq_report within, admin_eq_report,
    reporter_eq_report within, pathConflicts_eq_report, SettingsPart.all, List.flatMap_cons,
    List.flatMap_nil, List.append_nil, List.append_assoc]
  rfl

/-- A broken rule is reported. -/
theorem violation_mem {r : SettingsRule} (broken : r.isBroken raw = true) :
    r.violation raw ∈ raw.violations := by
  rw [violations_eq_report within]
  exact List.mem_map_of_mem (List.mem_filter.mpr ⟨mem_all r, broken⟩)

end

/-! ## What is malformed -/

/-- A duration beyond the range is not a readable one. -/
theorem isBroken_of_beyondRange {raw : RawSettings} (beyond : raw.beyondRange = true) :
    ∃ f, (readable f).isBroken raw = true := by
  have without : ¬raw.beyondRange = false := by simp [beyond]
  rw [DurationField.within_iff] at without
  simp only [not_forall, not_not] at without
  obtain ⟨f, s, given, read⟩ := without
  have filled : isBlankText s = false := isBlankText_of_read (by simp [read])
  exact ⟨f, by simp [isBroken, given, filled, read, Except.toOption]⟩

end SettingsRule

/-! ## Fallbacks -/

/-- A text, or another one in its place. -/
def instead (broken : Bool) (fallback : String) (given : Option String) : Option String :=
  if broken then some fallback else given

/-- What is well spelled stays, and the fallback is well spelled. -/
theorem instead_wellSpelled {p : Option String → Bool} {fallback : String}
    (h : p (some fallback) = false) (given : Option String) :
    p (instead (p given) fallback given) = false := by
  cases broken : p given <;> simp [instead, broken, h]

namespace DurationField

/-- Whether a text is given for the duration that denotes none. -/
def isMalformed (raw : RawSettings) (f : DurationField) : Bool :=
  (SettingsRule.filled f).isBroken raw || (SettingsRule.readable f).isBroken raw

/-- A text that is not malformed denotes the duration in the settings; so does the fallback where
none is given. -/
theorem read_given {raw : RawSettings} {f : DurationField} (h : f.isMalformed raw = false) :
    Duration.read (trim ((f.given raw).getD f.fallback)) = .ok (f.value raw.resolve) := by
  rw [f.value_resolve]
  cases given : f.given raw with
  | none => exact f.read_fallback
  | some s =>
    obtain ⟨filled, readable⟩ := Bool.or_eq_false_iff.mp h
    simp only [SettingsRule.isBroken, given, Option.any_some] at filled readable
    cases read : Duration.read (trim s) with
    | ok d => rw [Option.getD_some, read, durationOr_of_read read]
    | error e => simp [filled, read, Except.toOption] at readable

/-- The text for the duration, or the fallback if it is malformed. -/
def repaired (raw : RawSettings) (f : DurationField) : Option String :=
  instead (f.isMalformed raw) f.fallback (f.given raw)

end DurationField

/-- The settings with the fallback in the place of every malformed value. -/
def RawSettings.repaired (raw : RawSettings) : RawSettings :=
  let g := raw.graceful
  let h := g.healthCheck
  { raw with
    graceful :=
      { g with
        delay :=
          { g.delay with
            strategy :=
              instead (SettingsRule.knownStrategy.isBroken raw) DelayKind.byTime.name g.delay.strategy
            interval := DurationField.delay.repaired raw }
        healthCheck :=
          { h with
            interval := DurationField.healthCheck.repaired raw
            protocol :=
              instead (SettingsRule.knownProtocol.isBroken raw) Http.Scheme.plain.name h.protocol
            method := instead (SettingsRule.isMethod.isBroken raw) "GET" h.method }
        warmup := { g.warmup with interval := DurationField.warmup.repaired raw } }
    reporter := { raw.reporter with retryBackoff := DurationField.backoff.repaired raw } }

namespace RawSettings

variable (raw : RawSettings)

theorem given_repaired (f : DurationField) : f.given raw.repaired = f.repaired raw := by
  cases f <;> rfl

/-- A malformed duration counts as its fallback. -/
theorem durationOr_repaired (f : DurationField) :
    durationOr f.fallbackValue (f.repaired raw) = durationOr f.fallbackValue (f.given raw) := by
  cases malformed : f.isMalformed raw with
  | false => simp [DurationField.repaired, instead, malformed]
  | true =>
    simp only [DurationField.repaired, instead, malformed, if_true]
    rw [durationOr_of_read f.read_fallback]
    cases given : f.given raw with
    | none => rfl
    | some s =>
      cases read : Duration.read (trim s) with
      | error e => simp [durationOr, read]
      | ok d =>
        have filled : isBlankText s = false := isBlankText_of_read (by simp [read])
        simp [DurationField.isMalformed, SettingsRule.isBroken, given, filled, read,
          Except.toOption] at malformed

/-- An unknown way to delay counts as the one by time. -/
theorem kind_repaired : raw.repaired.graceful.delay.kind = raw.graceful.delay.kind := by
  cases broken : SettingsRule.knownStrategy.isBroken raw with
  | false => simp [RawDelay.kind, repaired, instead, broken]
  | true =>
    obtain ⟨s, given, unknown⟩ := (Option.any_eq_true _ _).mp broken
    simp [RawDelay.kind, repaired, instead, broken, DelayKind.ofText?_name, given,
      Option.isNone_iff_eq_none.mp unknown]

/-- An unknown scheme counts as the plain one. -/
theorem scheme_repaired :
    raw.repaired.graceful.healthCheck.resolve.scheme = raw.graceful.healthCheck.resolve.scheme := by
  cases broken : SettingsRule.knownProtocol.isBroken raw with
  | false => simp [RawHealthCheck.resolve, repaired, instead, broken]
  | true =>
    obtain ⟨s, given, unknown⟩ := (Option.any_eq_true _ _).mp broken
    have plain : trimmed? (some Http.Scheme.plain.name) = some Http.Scheme.plain.name := by
      decide +kernel
    simp [RawHealthCheck.resolve, repaired, instead, broken, given, plain, Http.Scheme.ofText?_name,
      Option.isNone_iff_eq_none.mp unknown]

/-- What is no method counts as the default one. -/
theorem method_repaired :
    raw.repaired.graceful.healthCheck.resolve.method = raw.graceful.healthCheck.resolve.method := by
  cases broken : SettingsRule.isMethod.isBroken raw with
  | false => simp [RawHealthCheck.resolve, repaired, instead, broken]
  | true =>
    obtain ⟨s, given, unknown⟩ := (Option.any_eq_true _ _).mp broken
    have standard : ((trimmed? (some "GET")).map upper).filter (fun m => Http.isMethod m) =
        some "GET" := by
      decide +kernel
    have refused : Http.isMethod (upper s) = false := by simpa using unknown
    simp [RawHealthCheck.resolve, repaired, instead, broken, given, standard, refused,
      Option.filter_some]

/-- A malformed value counts as its fallback. -/
theorem resolve_repaired : raw.repaired.resolve = raw.resolve := by
  have delay : raw.repaired.graceful.delay.resolve = raw.graceful.delay.resolve := by
    simp only [RawDelay.resolve, raw.kind_repaired]
    exact congrArg (DelaySettings.mk _ _ ·) (raw.durationOr_repaired .delay)
  have healthCheck :
      raw.repaired.graceful.healthCheck.resolve = raw.graceful.healthCheck.resolve := by
    have scheme := raw.scheme_repaired
    have method := raw.method_repaired
    simp only [RawHealthCheck.resolve] at scheme method ⊢
    rw [scheme, method]
    exact congrArg (HealthCheckSettings.mk · _ _ _ _) (raw.durationOr_repaired .healthCheck)
  have warmup : raw.repaired.graceful.warmup.resolve = raw.graceful.warmup.resolve :=
    congrArg (WarmupSettings.mk _ · _ _) (raw.durationOr_repaired .warmup)
  have reporter : raw.repaired.reporter.resolve = raw.reporter.resolve :=
    congrArg (ReporterSettings.mk _ _ _ _ ·) (raw.durationOr_repaired .backoff)
  have graceful : raw.repaired.graceful.resolve = raw.graceful.resolve := by
    simp only [RawGraceful.resolve, delay, healthCheck, warmup]
    rfl
  simp only [RawSettings.resolve, graceful, reporter]
  rfl

theorem isMalformed_repaired (f : DurationField) : f.isMalformed raw.repaired = false := by
  have read : (Duration.read (trim f.fallback)).toOption = some f.fallbackValue := by
    rw [f.read_fallback, Except.toOption]
  have filled : isBlankText f.fallback = false := isBlankText_of_read (by simp [f.read_fallback])
  simp only [DurationField.isMalformed, SettingsRule.isBroken, given_repaired]
  exact instead_wellSpelled
    (p := fun given => given.any isBlankText ||
      given.any fun s => !isBlankText s && (Duration.read (trim s)).toOption.isNone)
    (by simp [filled, read]) (f.given raw)

/-- No malformed value is left. -/
theorem spelling_repaired {r : SettingsRule} (h : r.isSpelling = true) :
    r.isBroken raw.repaired = false := by
  cases r with
  | filled f => exact (Bool.or_eq_false_iff.mp (raw.isMalformed_repaired f)).1
  | readable f => exact (Bool.or_eq_false_iff.mp (raw.isMalformed_repaired f)).2
  | knownStrategy =>
    exact instead_wellSpelled (p := fun given => given.any fun s => (DelayKind.ofText? s).isNone)
      (by simp [DelayKind.ofText?_name]) raw.graceful.delay.strategy
  | knownProtocol =>
    exact instead_wellSpelled
      (p := fun given => (trimmed? given).any fun s => (Http.Scheme.ofText? s).isNone)
      (by decide +kernel) raw.graceful.healthCheck.protocol
  | isMethod =>
    exact instead_wellSpelled
      (p := fun given => (trimmed? given).any fun s => !Http.isMethod (upper s))
      (by decide +kernel) raw.graceful.healthCheck.method
  | _ => cases h

/-- Every rule that is not about the spelling of a value looks at the settings with
the fallbacks. -/
theorem value_repaired {r : SettingsRule} (h : r.isSpelling = false) :
    r.isBroken raw.repaired = r.isBroken raw ∧ r.violation raw.repaired = r.violation raw := by
  have resolved := raw.resolve_repaired
  cases r with
  | knownStrategy | filled f | readable f | knownProtocol | isMethod => cases h
  | namedService => exact ⟨rfl, rfl⟩
  | _ => simp only [SettingsRule.isBroken, SettingsRule.violation, resolved, and_self]

/-- With the fallbacks in their places, what is left to report are the broken rules that are not
about spelling. -/
theorem report_repaired :
    SettingsRule.report raw.repaired SettingsRule.all =
      SettingsRule.report raw (SettingsRule.all.filter fun r => !r.isSpelling) := by
  have left (r : SettingsRule) :
      r.isBroken raw.repaired = (r.isBroken raw && !r.isSpelling) := by
    cases spelling : r.isSpelling with
    | true => rw [raw.spelling_repaired spelling, Bool.not_true, Bool.and_false]
    | false => rw [(raw.value_repaired spelling).1, Bool.not_false, Bool.and_true]
  rw [SettingsRule.report, SettingsRule.report, List.filter_filter,
    List.filter_congr fun r _ => left r]
  refine List.map_congr_left fun r hr => (raw.value_repaired ?_).2
  simpa using (Bool.and_eq_true_iff.mp (List.mem_filter.mp hr).2).2

/-! ## What is reported -/

/-- Settings that break no rule are accepted; for all others every broken rule is reported, once and
in its place in the list. -/
structure Exhaustive (raw : RawSettings) : Prop where
  accepted : (∀ r : SettingsRule, r.isBroken raw = false) → Settings.ofRaw raw = .ok raw.resolve
  refused : ∀ r : SettingsRule, r.isBroken raw = true →
    Settings.ofRaw raw = .error (.invalid (SettingsRule.report raw SettingsRule.all))

variable {raw}

/-- Within the range every broken rule is reported. -/
theorem exhaustive_of_within (within : raw.beyondRange = false) : raw.Exhaustive := by
  have checked := SettingsRule.violations_eq_report within
  constructor
  · intro kept
    have none : raw.violations = [] := by
      rw [checked, SettingsRule.report, List.filter_eq_nil_iff.mpr fun r _ => by simp [kept r],
        List.map_nil]
    exact (Settings.ofRaw_eq_ok_iff _ _).mpr ⟨within, none, rfl⟩
  · intro r broken
    have reported := List.ne_nil_of_mem (SettingsRule.violation_mem within broken)
    rw [Settings.ofRaw, if_neg (by simp [within]), if_neg, checked]
    simpa using reported

/-- Beyond the range a rule is broken and none is reported. -/
theorem Exhaustive.within (h : raw.Exhaustive) : raw.beyondRange = false := by
  cases beyond : raw.beyondRange with
  | false => rfl
  | true =>
    obtain ⟨f, broken⟩ := SettingsRule.isBroken_of_beyondRange beyond
    have refused := h.refused _ broken
    rw [Settings.ofRaw, if_pos beyond] at refused
    cases refused

/-- No duration beyond the range is left where the fallbacks are in their places. -/
theorem exhaustive_repaired (raw : RawSettings) : raw.repaired.Exhaustive := by
  refine exhaustive_of_within ?_
  cases beyond : raw.repaired.beyondRange with
  | false => rfl
  | true =>
    obtain ⟨f, broken⟩ := SettingsRule.isBroken_of_beyondRange beyond
    rw [raw.spelling_repaired rfl] at broken
    cases broken

/-- The rules are applied to given settings: all of them are listed once, and reported in the order
of their parts. What is reported on a part does not depend on the sections that the part is not
about. A malformed value counts as its fallback in all rules but those on its spelling. A duration
just beyond the range hides all of them. -/
structure Judged (raw : RawSettings) : Prop where
  listed : ∀ r : SettingsRule, SettingsRule.all.count r = 1
  ordered : SettingsRule.report raw SettingsRule.all =
    SettingsPart.all.flatMap (SettingsPart.report raw)
  apart : ∀ (other : RawSettings) (p : SettingsPart), p.Agree raw other →
    p.report raw = p.report other
  fallbacks : raw.repaired.Exhaustive ∧
    SettingsRule.report raw.repaired SettingsRule.all =
      SettingsRule.report raw (SettingsRule.all.filter fun r => !r.isSpelling)
  hidden : raw.beyondRange = true → Settings.ofRaw raw = .error .durationBeyondRange

/-- The rules are applied to all given settings, and all broken ones are reported exactly if no
duration lies just beyond the range. -/
theorem exhaustive_iff (raw : RawSettings) :
    raw.Judged ∧ (raw.Exhaustive ↔ raw.beyondRange = false) where
  left :=
    { listed := SettingsRule.count_all
      ordered := SettingsRule.report_flatMap raw SettingsPart.all SettingsPart.rules
      apart := fun _ _ => SettingsRule.report_congr
      fallbacks := ⟨raw.exhaustive_repaired, raw.report_repaired⟩
      hidden := fun beyond => if_pos beyond }
  right := ⟨Exhaustive.within, exhaustive_of_within⟩

/-- Terms that add up to 2^64 seconds hide every broken rule, their own among them. -/
theorem hidden_beyond_range :
    let raw : RawSettings :=
      { graceful := { warmup := { interval := some "18446744073709551615s 1000000000ns" } }
        reporter := { queueSize := some 0 } }
    SettingsRule.report raw SettingsRule.all =
        [.malformedDuration "lossless.warmup.interval" "18446744073709551615s 1000000000ns",
          .emptyQueue] ∧
      Settings.ofRaw raw = .error .durationBeyondRange ∧ ¬raw.Exhaustive := by
  intro raw
  have beyond : raw.beyondRange = true := by decide +kernel
  exact ⟨by decide +kernel, if_pos beyond, fun all => by
    rw [all.within] at beyond
    cases beyond⟩

end RawSettings

end InstanceLifecycle
