/-!
# Violations

What can be wrong with given settings, and how it is put into words.

-/

namespace InstanceLifecycle

/-- A rule that given settings break. -/
inductive Violation
  /-- A duration is given as a blank text. -/
  | blankDuration (field : String)
  /-- A text is no duration. -/
  | malformedDuration (field text : String)
  /-- A duration that is waited for is zero. -/
  | zeroDuration (field : String)
  /-- There is no such way to delay a registration. -/
  | unknownStrategy (name : String)
  /-- There is no such scheme. -/
  | unknownProtocol (name : String)
  /-- A text is no method. -/
  | malformedMethod (name : String)
  /-- A path does not start with a slash. -/
  | relativePath (field path : String)
  /-- Health would be checked no time at all. -/
  | noHealthCheck
  /-- A share of instances is above all of them. -/
  | thresholdAboveAll (threshold : Nat)
  /-- No event could be queued. -/
  | emptyQueue
  /-- The collector is given with a scheme. -/
  | addressWithScheme (address : String)
  /-- The collectors' service has a blank name. -/
  | blankService
  /-- Both probes would answer one path. -/
  | sharedProbePath (path : String)
  /-- The counters would be shown where a probe answers. -/
  | metricsOnProbePath (probe path : String)
  deriving DecidableEq, Repr

namespace Violation

/-- The violation in words. -/
def message : Violation → String
  | blankDuration field => s!"{field} must be a non-empty duration string"
  | malformedDuration field text => s!"{field} must be a valid duration (got `{text}`)"
  | zeroDuration field => s!"{field} must be greater than zero"
  | unknownStrategy name =>
    s!"lossless.delay_register.strategy `{name}` is not supported " ++
      "(expected DELAY_BY_TIME or DELAY_BY_HEALTH_CHECK)"
  | unknownProtocol name =>
    s!"lossless.health_check.protocol `{name}` is not supported (expected HTTP or HTTPS)"
  | malformedMethod name => s!"lossless.health_check.method `{name}` is not a valid HTTP method"
  | relativePath field path => s!"{field} must start with `/` (got `{path}`)"
  | noHealthCheck => "lossless.health_check.max_retry must be at least 1"
  | thresholdAboveAll n =>
    s!"lossless.warmup.overload_protection.threshold must be within 0..=100 (got {n})"
  | emptyQueue => "event_reporter.queue_size must be greater than zero"
  | addressWithScheme a =>
    s!"event_reporter.address must be `host:port` without a scheme (got `{a}`)"
  | blankService => "event_reporter.discovery.service must be non-empty"
  | sharedProbePath path =>
    s!"lossless.offline.path and lossless.readiness.path must differ (both `{path}`)"
  | metricsOnProbePath probe path =>
    s!"admin.metrics_path collides with lossless.{probe}.path (`{path}`)"

/-- All violations in words: a heading and one line for each. -/
def report (vs : List Violation) : String :=
  "lossless config validation failed:\n" ++ "\n".intercalate (vs.map fun v => s!"- {v.message}")

end Violation

end InstanceLifecycle
