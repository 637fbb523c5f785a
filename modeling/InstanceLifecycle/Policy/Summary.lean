import InstanceLifecycle.Json.Value
import InstanceLifecycle.Policy.Basic

/-!
# Policy summaries

A summary says in a few fields under which policy an instance is registered. It travels with the
events of the instance.
-/

namespace InstanceLifecycle

/-- A policy in a few fields; the intervals of the strategy that is not used are missing. -/
structure PolicySummary where
  delayEnabled : Bool
  strategy : String
  delaySeconds : Option Nat
  healthCheckSeconds : Option Nat
  readinessEnabled : Bool
  readinessPath : String
  offlineEnabled : Bool
  offlinePath : String
  warmupEnabled : Bool
  warmupSeconds : Nat
  deriving DecidableEq, Repr

/-- The name of a strategy. -/
def DelayStrategy.name : DelayStrategy → String
  | byTime _ => DelayKind.byTime.name
  | byHealthCheck _ => DelayKind.byHealthCheck.name
  | unsupported name => name

/-- The summary of a policy (`summary`). -/
def Policy.summary (p : Policy) : PolicySummary where
  delayEnabled := p.delay.enabled
  strategy := p.delay.strategy.name
  delaySeconds :=
    match p.delay.strategy with
    | .byTime d => some d.seconds
    | _ => none
  healthCheckSeconds :=
    match p.delay.strategy with
    | .byHealthCheck h => some h.interval.seconds
    | _ => none
  readinessEnabled := p.readiness.enabled
  readinessPath := p.readiness.path
  offlineEnabled := p.offline.enabled
  offlinePath := p.offline.path
  warmupEnabled := p.warmup.enabled
  warmupSeconds := p.warmup.interval.seconds

/-- A member that is left out if it has no value. -/
def optionalMember (name : String) (n : Option Nat) : List (String × Json.Value) :=
  (n.map fun n => (name, Json.Value.nat n)).toList

/-- A summary as JSON. -/
def PolicySummary.toJson (s : PolicySummary) : Json.Value :=
  .object <|
    [("delayRegisterEnabled", .bool s.delayEnabled), ("strategy", .string s.strategy)] ++
      optionalMember "delayIntervalSeconds" s.delaySeconds ++
      optionalMember "healthCheckIntervalSeconds" s.healthCheckSeconds ++
      [("readinessEnabled", .bool s.readinessEnabled), ("readinessPath", .string s.readinessPath),
        ("offlineEnabled", .bool s.offlineEnabled), ("offlinePath", .string s.offlinePath),
        ("warmupEnabled", .bool s.warmupEnabled), ("warmupIntervalSeconds", .nat s.warmupSeconds)]

end InstanceLifecycle
