import InstanceLifecycle.Settings.Basic

/-!
# Policies

A policy is what holds for one registration of an instance: the local settings with a remote rule
merged into them.
-/

namespace InstanceLifecycle

/-! ## Delayed registration -/

/-- How the health of an instance is checked before it is registered. -/
structure HealthCheckPolicy where
  interval : Duration
  path : String
  scheme : Http.Scheme
  method : String
  maxRetry : Nat
  deriving DecidableEq, Repr

/-- The address that an instance with this port answers health checks at (`target_url`). -/
def HealthCheckPolicy.url (h : HealthCheckPolicy) (port : Nat) : String :=
  s!"{h.scheme.label}://localhost:{port}{h.path}"

/-- How a registration is held back. A strategy that is not known keeps its name, so that the gate
can refuse it. -/
inductive DelayStrategy
  | byTime (interval : Duration)
  | byHealthCheck (check : HealthCheckPolicy)
  | unsupported (name : String)
  deriving DecidableEq, Repr

/-- Whether and how a registration is held back. -/
structure DelayPolicy where
  enabled : Bool
  strategy : DelayStrategy
  deriving DecidableEq, Repr

/-! ## Probes and warm-up -/

/-- Whether a probe answers, and at which path. -/
structure EndpointPolicy where
  enabled : Bool
  path : String
  deriving DecidableEq, Repr

/-- Whether and how an instance warms up. -/
structure WarmupPolicy where
  enabled : Bool
  interval : Duration
  curvature : Nat
  overload : OverloadProtection
  deriving DecidableEq, Repr

namespace WarmupPolicy

/-- Under this policy nothing warms up (`WarmupPolicy.disabled`). -/
def disabled : WarmupPolicy := ⟨false, .zero, defaultCurvature, ⟨false, 0⟩⟩

/-- Whether instances warm up for some time (`is_active`). -/
def isActive (w : WarmupPolicy) : Bool := w.enabled && !w.interval.isZero

end WarmupPolicy

/-! ## All of it -/

/-- What holds for one registration of an instance. -/
structure Policy where
  enabled : Bool
  delay : DelayPolicy
  readiness : EndpointPolicy
  offline : EndpointPolicy
  warmup : WarmupPolicy
  deriving DecidableEq, Repr

/-- Whether the probe server has something to answer (`probes_enabled`). -/
def Policy.probesEnabled (p : Policy) : Bool := p.readiness.enabled || p.offline.enabled

end InstanceLifecycle
