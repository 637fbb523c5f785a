import InstanceLifecycle.Duration.Reader
import InstanceLifecycle.Settings.Basic
import InstanceLifecycle.Settings.Raw
import InstanceLifecycle.Settings.Violation
import InstanceLifecycle.Text.Infix

/-!
# From given settings to settings

Each section has two functions: `resolve` replaces what is missing or malformed by its default,
and `violations` lists the rules that the section breaks, in a fixed order. The settings are
accepted if there is no violation. A malformed value counts as its default in the rules that
depend on it.

Results:

* `RawSettings.beyondRange_eq_false_iff`: when no duration lies beyond the range;
* `Settings.ofRaw_eq_ok_iff`: settings are accepted exactly when no rule is broken.
-/

namespace InstanceLifecycle

open Text

variable [DurationReader]

/-! ## Values -/

/-- The duration that a text denotes, or the default if none or a malformed one is given
(`parse_duration_value`). -/
def durationOr (default : Duration) (raw : Option String) : Duration :=
  match raw.map fun s => DurationReader.read (trim s) with
  | some (.ok d) => d
  | _ => default

/-- What `parse_duration_value` finds wrong with a given duration. -/
def durationViolations (field : String) : Option String → List Violation
  | none => []
  | some s =>
    if isBlankText s then [.blankDuration field]
    else
      match DurationReader.read (trim s) with
      | .error .malformed => [.malformedDuration field (trim s)]
      | _ => []

/-- A zero duration where time has to pass. -/
def zeroViolations (field : String) (needed : Bool) (d : Duration) : List Violation :=
  if needed && d.isZero then [.zeroDuration field] else []

/-- A text without blanks around it, if more than blanks is given. -/
def trimmed? (raw : Option String) : Option String :=
  (raw.map trim).filter fun s => !s.isEmpty

/-- The given path, or the default (`normalise_path`). -/
def pathOr (default : String) (raw : Option String) : String := (trimmed? raw).getD default

/-- What `normalise_path` finds wrong with a path. -/
def pathViolations (field path : String) : List Violation :=
  if Http.isAbsolute path then [] else [.relativePath field path]

/-! ## Delayed registration -/

namespace RawDelay

/-- The given way to delay, by time where it is unknown. -/
def kind (raw : RawDelay) : DelayKind :=
  (raw.strategy.bind DelayKind.ofText?).getD .byTime

/-- The settings of delayed registration (`resolve_delay_register`). -/
def resolve (raw : RawDelay) : DelaySettings where
  enabled := raw.enable.getD false
  kind := raw.kind
  interval := durationOr (.ofSeconds 30) raw.interval

/-- A way to delay that does not exist. -/
def strategyViolations (raw : RawDelay) : List Violation :=
  match raw.strategy with
  | none => []
  | some s => if (DelayKind.ofText? s).isSome then [] else [.unknownStrategy (trim s)]

/-- What `resolve_delay_register` finds wrong. -/
def violations (raw : RawDelay) : List Violation :=
  let d := raw.resolve
  raw.strategyViolations ++
    durationViolations "lossless.delay_register.interval" raw.interval ++
    zeroViolations "lossless.delay_register.interval" (d.enabled && d.kind == .byTime) d.interval

end RawDelay

/-! ## Health checks -/

namespace RawHealthCheck

/-- The settings of health checks (`resolve_health_check`). -/
def resolve (raw : RawHealthCheck) : HealthCheckSettings where
  interval := durationOr (.ofSeconds 5) raw.interval
  scheme := ((trimmed? raw.protocol).bind Http.Scheme.ofText?).getD .plain
  method := ((trimmed? raw.method).map upper |>.filter fun m => Http.isMethod m).getD "GET"
  path := pathOr "/health" raw.path
  maxRetry := raw.maxRetry.getD 10

/-- A scheme that does not exist. -/
def protocolViolations (raw : RawHealthCheck) : List Violation :=
  match trimmed? raw.protocol with
  | none => []
  | some s => if (Http.Scheme.ofText? s).isSome then [] else [.unknownProtocol s]

/-- A method that is none. -/
def methodViolations (raw : RawHealthCheck) : List Violation :=
  match trimmed? raw.method with
  | none => []
  | some s => if Http.isMethod (upper s) then [] else [.malformedMethod s]

/-- What `resolve_health_check` finds wrong; some rules hold only where registrations wait for a
health check. -/
def violations (needed : Bool) (raw : RawHealthCheck) : List Violation :=
  let h := raw.resolve
  durationViolations "lossless.health_check.interval" raw.interval ++
    raw.protocolViolations ++
    raw.methodViolations ++
    pathViolations "lossless.health_check.path" h.path ++
    (if needed && h.maxRetry == 0 then [.noHealthCheck] else []) ++
    zeroViolations "lossless.health_check.interval" needed h.interval

end RawHealthCheck

/-! ## Probes -/

/-- The settings of a probe (`resolve_probe`). -/
def RawEndpoint.resolve (defaultPath : String) (raw : RawEndpoint) : EndpointSettings where
  enabled := raw.enable.getD false
  path := pathOr defaultPath raw.path

/-! ## Warm-up -/

namespace RawWarmup

/-- The settings of warm-up (`resolve_warmup`); a curvature of zero is the default one. -/
def resolve (raw : RawWarmup) : WarmupSettings where
  enabled := raw.enable.getD false
  interval := durationOr (.ofSeconds 120) raw.interval
  curvature := (raw.curvature.filter (· ≠ 0)).getD defaultCurvature
  overload := ⟨raw.overload.enable.getD true, raw.overload.threshold.getD 50⟩

/-- What `resolve_warmup` finds wrong. -/
def violations (raw : RawWarmup) : List Violation :=
  let w := raw.resolve
  durationViolations "lossless.warmup.interval" raw.interval ++
    zeroViolations "lossless.warmup.interval" w.enabled w.interval ++
    (if w.overload.threshold > 100 then [.thresholdAboveAll w.overload.threshold] else [])

end RawWarmup

/-! ## Graceful starts and stops -/

namespace RawGraceful

/-- The settings of graceful starts and stops (`resolve_lossless`). -/
def resolve (raw : RawGraceful) : GracefulSettings where
  enabled := raw.enable.getD false
  delay := raw.delay.resolve
  healthCheck := raw.healthCheck.resolve
  readiness := raw.readiness.resolve defaultReadinessPath
  offline := raw.offline.resolve defaultOfflinePath
  warmup := raw.warmup.resolve

/-- Whether registrations wait for a health check. -/
def needsHealthCheck (raw : RawGraceful) : Bool :=
  raw.delay.resolve.enabled && raw.delay.resolve.kind == .byHealthCheck

/-- What `resolve_lossless` finds wrong. -/
def violations (raw : RawGraceful) : List Violation :=
  raw.delay.violations ++
    raw.healthCheck.violations raw.needsHealthCheck ++
    pathViolations "lossless.readiness.path" raw.resolve.readiness.path ++
    pathViolations "lossless.offline.path" raw.resolve.offline.path ++
    raw.warmup.violations

end RawGraceful

/-! ## The probe server -/

namespace RawAdmin

/-- The settings of the probe server (`resolve_admin`). -/
def resolve (raw : RawAdmin) : AdminSettings where
  host := (trimmed? raw.host).getD "0.0.0.0"
  port := raw.port.getD 28080
  metricsPath := trimmed? raw.metricsPath

/-- What `resolve_admin` finds wrong. -/
def violations (raw : RawAdmin) : List Violation :=
  (raw.resolve.metricsPath.toList).flatMap fun p => pathViolations "admin.metrics_path" p

end RawAdmin

/-! ## The reporter -/

/-- The service that collectors are discovered by, unless its name is blank. -/
def RawDiscovery.resolve (raw : RawDiscovery) : Option ServiceKey :=
  if isBlankText raw.service then none
  else some ⟨(raw.namespaceName.filter fun s => !isBlankText s).getD "Polaris", trim raw.service⟩

namespace RawReporter

/-- The path of the report without blanks around it and slashes before it. -/
def reportPath? (raw : RawReporter) : Option String :=
  (raw.reportPath.map fun s => String.ofList ((trimChars s.toList).dropWhile (· == '/'))).filter
    fun s => !s.isEmpty

/-- The settings of the reporter (`resolve_reporter`). -/
def resolve (raw : RawReporter) : ReporterSettings where
  queueSize := raw.queueSize.getD 128
  address := trimmed? raw.address
  reportPath := raw.reportPath?.getD "lossless/events"
  discovery := raw.discovery.bind RawDiscovery.resolve
  retryBackoff := durationOr (.ofSeconds 1) raw.retryBackoff

/-- A collector that is given with a scheme. -/
def addressViolations (raw : RawReporter) : List Violation :=
  match raw.resolve.address with
  | none => []
  | some a => if contains "://" a then [.addressWithScheme a] else []

/-- What `resolve_reporter` finds wrong. -/
def violations (raw : RawReporter) : List Violation :=
  (if raw.resolve.queueSize = 0 then [.emptyQueue] else []) ++
    raw.addressViolations ++
    (if raw.discovery.isSome && raw.resolve.discovery.isNone then [.blankService] else []) ++
    durationViolations "event_reporter.retry_backoff" raw.retryBackoff

end RawReporter

/-! ## All settings -/

/-- Why settings are not accepted. -/
inductive SettingsError
  /-- The document cannot be read. -/
  | unreadable (reason : String)
  /-- The document has another form. -/
  | malformed
  /-- The document is more than one. -/
  | severalDocuments
  /-- The layers cannot be combined to settings. -/
  | malformedLayers
  /-- Rules are broken. -/
  | invalid (violations : List Violation)
  /-- A duration is 2^64 seconds. -/
  | durationBeyondRange
  deriving DecidableEq, Repr

namespace SettingsError

/-- The error in words. Where a reader refused the document its own words would follow. -/
def message : SettingsError → String
  | unreadable reason => s!"failed to read lossless config: {reason}"
  | malformed => "failed to parse lossless config"
  | severalDocuments =>
    "failed to parse lossless config: multiple YAML documents are not supported"
  | malformedLayers => "failed to load layered lossless config"
  | invalid vs => Violation.report vs
  | durationBeyondRange => "a duration is beyond the range"

end SettingsError

namespace RawSettings

/-- The settings with a default for what is missing or malformed, as `from_raw` puts
them together. -/
def resolve (raw : RawSettings) : Settings where
  graceful := raw.graceful.resolve
  admin := raw.admin.resolve
  reporter := raw.reporter.resolve
  adjustWeights := raw.adjustWeights.getD true
  client := ⟨raw.client.id.getD "", raw.client.ip.getD ""⟩

/-- All given durations. -/
def durations (raw : RawSettings) : List (Option String) :=
  [raw.graceful.delay.interval, raw.graceful.healthCheck.interval, raw.graceful.warmup.interval,
    raw.reporter.retryBackoff]

/-- Whether a duration is given that lies just beyond the range. -/
def beyondRange (raw : RawSettings) : Bool :=
  raw.durations.any fun r =>
    match r.map fun s => DurationReader.read (trim s) with
    | some (.error .beyondRange) => true
    | _ => false

/-- No duration lies beyond the range exactly if no given one does. -/
theorem beyondRange_eq_false_iff {raw : RawSettings} :
    raw.beyondRange = false ↔
      ∀ s, some s ∈ raw.durations → DurationReader.read (trim s) ≠ .error .beyondRange := by
  simp only [beyondRange, List.any_eq_false]
  constructor
  · intro within s hs beyond
    exact within _ hs (by simp [beyond])
  · intro within r hr
    cases r with
    | none => simp
    | some s =>
      have ne := within s hr
      simp only [Option.map_some]
      split
      · next beyond => exact absurd (Option.some.inj beyond) ne
      · simp

end RawSettings

/-- The paths of enabled probes and of the counters that coincide, which `from_raw` refuses. -/
def Settings.pathConflicts (s : Settings) : List Violation :=
  let r := s.graceful.readiness
  let o := s.graceful.offline
  (if o.enabled && r.enabled && o.path == r.path then [.sharedProbePath o.path] else []) ++
    (s.admin.metricsPath.toList).flatMap fun m =>
      [("readiness", r), ("offline", o)].filterMap fun (label, p) =>
        if p.enabled && p.path == m then some (.metricsOnProbePath label m) else none

/-- All broken rules in the order of `from_raw`: of each section by itself, then those on several
sections. -/
def RawSettings.violations (raw : RawSettings) : List Violation :=
  raw.graceful.violations ++ raw.admin.violations ++ raw.reporter.violations ++
    raw.resolve.pathConflicts

/-- The settings that are given, if no rule is broken (`from_raw`). -/
def Settings.ofRaw (raw : RawSettings) : Except SettingsError Settings :=
  if raw.beyondRange then .error .durationBeyondRange
  else if raw.violations.isEmpty then .ok raw.resolve
  else .error (.invalid raw.violations)

/-- Settings are accepted exactly when no rule is broken. -/
theorem Settings.ofRaw_eq_ok_iff (raw : RawSettings) (s : Settings) :
    Settings.ofRaw raw = .ok s ↔
      raw.beyondRange = false ∧ raw.violations = [] ∧ raw.resolve = s := by
  unfold Settings.ofRaw
  split <;> simp_all
  split <;> simp_all

end InstanceLifecycle
