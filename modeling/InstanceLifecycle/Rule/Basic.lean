import InstanceLifecycle.Json.Value

/-!
# Remote rules

A control plane may hold a rule for a service. Only rules of the lossless kind are looked into. Such
a rule has sections that may be missing; a section that is there replaces the local settings.
-/

namespace InstanceLifecycle

/-- The kinds of rules that a control plane holds. -/
inductive RuleKind
  | lossless | routing | rateLimiting | circuitBreaking
  deriving DecidableEq, Repr

namespace RuleKind

/-- The name of a kind. -/
def name : RuleKind → String
  | lossless => "LOSSLESS"
  | routing => "ROUTING"
  | rateLimiting => "RATE_LIMITING"
  | circuitBreaking => "CIRCUIT_BREAKING"

/-- All kinds of rules. -/
def all : List RuleKind := [lossless, routing, rateLimiting, circuitBreaking]

/-- The kind with this name. -/
def ofName? (s : String) : Option RuleKind := all.find? fun k => k.name = s

end RuleKind

/-- A rule as the control plane delivers it. -/
structure RemoteRule where
  kind : RuleKind
  document : Json.Value
  deriving Repr

/-- The section of a rule on delayed registration. -/
structure RuleDelay where
  enable : Bool := false
  strategy : Option String := none
  intervalSecond : Option Nat := none
  /-- Kept as a text; one that is no positive number turns the delay off. -/
  healthCheckIntervalSecond : Option String := none
  deriving DecidableEq, Repr

/-- The section of a rule on warm-up. -/
structure RuleWarmup where
  enable : Bool := false
  intervalSecond : Option Nat := none
  curvature : Option Nat := none
  enableOverloadProtection : Bool := false
  overloadProtectionThreshold : Option Nat := none
  deriving DecidableEq, Repr

/-- The sections of a rule on bringing instances up. -/
structure RuleOnline where
  delay : Option RuleDelay := none
  /-- Whether the readiness probe is switched on. -/
  readiness : Option Bool := none
  warmup : Option RuleWarmup := none
  deriving DecidableEq, Repr

/-- What a rule says. -/
structure Rule where
  online : Option RuleOnline := none
  /-- Whether the offline probe is switched on. -/
  offline : Option Bool := none
  deriving DecidableEq, Repr

end InstanceLifecycle
