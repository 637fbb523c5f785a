import InstanceLifecycle.Http
import InstanceLifecycle.Instance
import InstanceLifecycle.Text.Blank

/-!
# Settings

The local settings of a controller: how it brings instances up and takes them down gracefully, where
its probes listen, where it reports events to, whether it adjusts weights, and the identity that
it reports.

Results:

* `DelayKind.ofText?_name`: a way to delay is found by its name.
-/

namespace InstanceLifecycle

/-! ## Delayed registration -/

/-- The ways to hold a registration back. -/
inductive DelayKind
  | byTime
  | byHealthCheck
  deriving DecidableEq, Repr

namespace DelayKind

/-- The name of a way to delay (`as_str`). -/
def name : DelayKind → String
  | byTime => "DELAY_BY_TIME"
  | byHealthCheck => "DELAY_BY_HEALTH_CHECK"

/-- All ways to delay. -/
def all : List DelayKind := [byTime, byHealthCheck]

/-- The way to delay with this name (`parse`); blanks around it and the case do not matter. -/
def ofText? (s : String) : Option DelayKind :=
  let s := Text.upper (Text.trim s)
  if s = byTime.name then some byTime
  else if s = byHealthCheck.name then some byHealthCheck
  else none

theorem ofText?_name (k : DelayKind) : ofText? k.name = some k := by
  cases k <;> decide +kernel

end DelayKind

/-- Whether and how registrations are held back. -/
structure DelaySettings where
  enabled : Bool := false
  kind : DelayKind := .byTime
  interval : Duration := .ofSeconds 30
  deriving DecidableEq, Repr

/-- How the instance is asked for its health. -/
structure HealthCheckSettings where
  interval : Duration := .ofSeconds 5
  scheme : Http.Scheme := .plain
  method : String := "GET"
  path : String := "/health"
  maxRetry : Nat := 10
  deriving DecidableEq, Repr

/-! ## Probes -/

/-- A path that the probe server may answer. -/
structure EndpointSettings where
  enabled : Bool := false
  path : String
  deriving DecidableEq, Repr

/-- The default path of the readiness probe. -/
def defaultReadinessPath : String := "/readiness"

/-- The default path of the offline probe. -/
def defaultOfflinePath : String := "/offline"

/-! ## Warm-up -/

/-- When too many instances warm up at once, weights are left alone. -/
structure OverloadProtection where
  enabled : Bool
  threshold : Nat
  deriving DecidableEq, Repr

/-- The curvature where none is given. -/
def defaultCurvature : Nat := 2

/-- Whether and how young instances get a lower weight. -/
structure WarmupSettings where
  enabled : Bool := false
  interval : Duration := .ofSeconds 120
  curvature : Nat := defaultCurvature
  overload : OverloadProtection := ⟨true, 50⟩
  deriving DecidableEq, Repr

/-! ## All settings -/

/-- How instances are brought up and taken down. -/
structure GracefulSettings where
  enabled : Bool := false
  delay : DelaySettings := {}
  healthCheck : HealthCheckSettings := {}
  readiness : EndpointSettings := ⟨false, defaultReadinessPath⟩
  offline : EndpointSettings := ⟨false, defaultOfflinePath⟩
  warmup : WarmupSettings := {}
  deriving DecidableEq, Repr

/-- Where the probe server listens and whether it shows the counters. -/
structure AdminSettings where
  host : String := "0.0.0.0"
  port : Nat := 28080
  metricsPath : Option String := none
  deriving DecidableEq, Repr

/-- The address that the probe server listens on (`listen_address`). -/
def AdminSettings.listenAddress (a : AdminSettings) : String := s!"{a.host}:{a.port}"

/-- How events are collected and where they are sent. -/
structure ReporterSettings where
  queueSize : Nat := 128
  /-- A fixed collector; it takes precedence over a discovered one. -/
  address : Option String := none
  reportPath : String := "lossless/events"
  /-- The service that collectors are instances of. -/
  discovery : Option ServiceKey := none
  retryBackoff : Duration := .ofSeconds 1
  deriving DecidableEq, Repr

/-- Who reports. -/
structure ClientIdentity where
  id : String := ""
  ip : String := ""
  deriving DecidableEq, Repr

/-- The local settings of a controller. -/
structure Settings where
  graceful : GracefulSettings := {}
  admin : AdminSettings := {}
  reporter : ReporterSettings := {}
  adjustWeights : Bool := true
  client : ClientIdentity := {}
  deriving DecidableEq, Repr

/-- The settings with other paths for the probes and for the page of counters; a path that is not
given stays. -/
def Settings.withPaths (s : Settings) (readiness offline counters : Option String) : Settings :=
  let g := s.graceful
  { s with
    graceful :=
      { g with
        readiness := { g.readiness with path := readiness.getD g.readiness.path }
        offline := { g.offline with path := offline.getD g.offline.path } }
    admin := { s.admin with metricsPath := counters.or s.admin.metricsPath } }

end InstanceLifecycle
