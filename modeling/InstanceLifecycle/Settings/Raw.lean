/-!
# Settings as they are given

The sections of a settings document with the values as they stand there. Every value may be
missing; a text is not looked into.
-/

namespace InstanceLifecycle

/-- How registrations are held back, as given. -/
structure RawDelay where
  enable : Option Bool := none
  strategy : Option String := none
  interval : Option String := none
  deriving DecidableEq, Repr

/-- How the instance is asked for its health, as given. -/
structure RawHealthCheck where
  interval : Option String := none
  protocol : Option String := none
  method : Option String := none
  path : Option String := none
  maxRetry : Option Nat := none
  deriving DecidableEq, Repr

/-- A path of the probe server, as given. -/
structure RawEndpoint where
  enable : Option Bool := none
  path : Option String := none
  deriving DecidableEq, Repr

/-- Overload protection, as given. -/
structure RawOverload where
  enable : Option Bool := none
  threshold : Option Nat := none
  deriving DecidableEq, Repr

/-- Warm-up, as given. -/
structure RawWarmup where
  enable : Option Bool := none
  interval : Option String := none
  curvature : Option Nat := none
  overload : RawOverload := {}
  deriving DecidableEq, Repr

/-- How instances are brought up and taken down, as given. -/
structure RawGraceful where
  enable : Option Bool := none
  delay : RawDelay := {}
  healthCheck : RawHealthCheck := {}
  readiness : RawEndpoint := {}
  offline : RawEndpoint := {}
  warmup : RawWarmup := {}
  deriving DecidableEq, Repr

/-- The probe server, as given. -/
structure RawAdmin where
  host : Option String := none
  port : Option Nat := none
  metricsPath : Option String := none
  deriving DecidableEq, Repr

/-- A service to discover collectors by, as given; only its name has to be there. -/
structure RawDiscovery where
  namespaceName : Option String := none
  service : String
  deriving DecidableEq, Repr

/-- The reporter, as given. -/
structure RawReporter where
  queueSize : Option Nat := none
  address : Option String := none
  reportPath : Option String := none
  discovery : Option RawDiscovery := none
  retryBackoff : Option String := none
  deriving DecidableEq, Repr

/-- Who reports, as given. -/
structure RawClient where
  id : Option String := none
  ip : Option String := none
  deriving DecidableEq, Repr

/-- All settings, as given. -/
structure RawSettings where
  graceful : RawGraceful := {}
  admin : RawAdmin := {}
  reporter : RawReporter := {}
  adjustWeights : Option Bool := none
  client : RawClient := {}
  deriving DecidableEq, Repr

end InstanceLifecycle
