import InstanceLifecycle.Log.Entry
import InstanceLifecycle.Policy.Basic
import InstanceLifecycle.Rule.Document
import InstanceLifecycle.Width

/-!
# Resolving policies

A remote rule is merged into the local settings section by section: a section of the rule replaces
the local one, a missing section leaves it. Paths and the way in which health is checked are local
matters that no rule changes. A rule that cannot be used leaves everything local, and local settings
that are switched off ask for no rule.

Results:

* `resolve_none`: without a rule everything is local;
* `resolve_of_disabled`: settings that are switched off ask for no rule;
* `resolve_empty`: a rule that says nothing changes nothing.
-/

namespace InstanceLifecycle

namespace GracefulSettings

variable (g : GracefulSettings)

/-! ## Local policies -/

/-- Checking health at an interval, all else as set locally (`health_check`). -/
def healthCheckEvery (interval : Duration) : HealthCheckPolicy :=
  ⟨interval, g.healthCheck.path, g.healthCheck.scheme, g.healthCheck.method,
    g.healthCheck.maxRetry⟩

/-- The strategy that is set locally (`local_strategy`). -/
def localStrategy : DelayStrategy :=
  match g.delay.kind with
  | .byTime => .byTime g.delay.interval
  | .byHealthCheck => .byHealthCheck (g.healthCheckEvery g.healthCheck.interval)

/-- Warm-up as set locally (`local_warmup`). -/
def localWarmup : WarmupPolicy :=
  ⟨g.warmup.enabled, g.warmup.interval, g.warmup.curvature, g.warmup.overload⟩

/-- The policy that is set locally (`local_policy`). -/
def localPolicy : Policy :=
  if g.enabled then
    ⟨true, ⟨g.delay.enabled, g.localStrategy⟩, ⟨g.readiness.enabled, g.readiness.path⟩,
      ⟨g.offline.enabled, g.offline.path⟩, g.localWarmup⟩
  else
    ⟨false, ⟨false, g.localStrategy⟩, ⟨false, g.readiness.path⟩, ⟨false, g.offline.path⟩,
      .disabled⟩

/-! ## Sections of a rule -/

/-- The interval that a rule sets for health checks: a positive number of seconds. -/
def remoteHealthInterval? (r : RuleDelay) : Option Nat :=
  (Text.readUnsigned? (Width.bound 64)
    (Text.trim (r.healthCheckIntervalSecond.getD ""))).filter (0 < ·)

/-- Delayed registration as a rule sets it (`remote_delay_register`). -/
def remoteDelay (r : RuleDelay) : DelayPolicy :=
  if r.enable then
    match DelayKind.ofText? (r.strategy.getD "") with
    | some .byTime => ⟨true, .byTime (.ofSeconds (r.intervalSecond.getD 0))⟩
    | some .byHealthCheck =>
      match remoteHealthInterval? r with
      | some n => ⟨true, .byHealthCheck (g.healthCheckEvery (.ofSeconds n))⟩
      | none => ⟨false, .unsupported DelayKind.byHealthCheck.name⟩
    | none => ⟨false, .unsupported (r.strategy.getD "")⟩
  else ⟨false, g.localStrategy⟩

/-- Warm-up as a rule sets it; a share above all instances is all of them (`remote_warmup`). -/
def remoteWarmup (r : RuleWarmup) : WarmupPolicy :=
  if r.enable then
    { enabled := true
      interval := .ofSeconds (r.intervalSecond.getD 0)
      curvature := min ((r.curvature.filter (· ≠ 0)).getD defaultCurvature) (Width.bound 32 - 1)
      overload := ⟨r.enableOverloadProtection, min (r.overloadProtectionThreshold.getD 0) 100⟩ }
  else .disabled

/-! ## Merging -/

/-- The rule that can be used, if there is one (`parse_remote`). -/
def usableRule? : Option RemoteRule → Option Rule
  | none => none
  | some r => if r.kind = .lossless then (Rule.ofDocument r.document).toOption else none

/-- The local policy with the sections of a rule in place of its own. -/
def merge (r : Rule) : Policy :=
  let base := g.localPolicy
  let online := r.online.getD {}
  { enabled := true
    delay := (online.delay.map g.remoteDelay).getD base.delay
    readiness := (online.readiness.map fun b => ⟨b, g.readiness.path⟩).getD base.readiness
    offline := (r.offline.map fun b => ⟨b, g.offline.path⟩).getD base.offline
    warmup := (online.warmup.map remoteWarmup).getD base.warmup }

/-- The policy under a remote rule, if there is one (`resolve`). -/
def resolve (remote : Option RemoteRule) : Policy :=
  if g.enabled then ((usableRule? remote).map g.merge).getD g.localPolicy else g.localPolicy

/-- A strategy that is set locally is known. -/
theorem localStrategy_ne_unsupported (name : String) : g.localStrategy ≠ .unsupported name := by
  unfold localStrategy
  cases g.delay.kind <;> simp

/-- Without a rule everything is local. -/
theorem resolve_none : g.resolve none = g.localPolicy := by
  simp [resolve, usableRule?]

/-- Settings that are switched off ask for no rule. -/
theorem resolve_of_disabled (h : g.enabled = false) (remote : Option RemoteRule) :
    g.resolve remote = g.localPolicy := by
  simp [resolve, h]

/-- A rule that says nothing changes nothing. -/
theorem resolve_empty : g.resolve (some ⟨.lossless, .object []⟩) = g.localPolicy := by
  by_cases h : g.enabled = true
  · simp [resolve, usableRule?, h, Rule.ofDocument_empty, Except.toOption, merge, localPolicy]
  · simp [resolve, h]

/-! ## What is logged -/

/-- An entry of the resolver. -/
def resolverEntry (level : Log.Level) (message : String) (service : ServiceKey)
    (fields : List (String × String)) : Log.Entry :=
  ⟨level, "lossless::policy::resolver", some message, ("service", service.text) :: fields, []⟩

/-- What `parse_remote` logs about a rule as a whole. -/
def ruleEntries (service : ServiceKey) : Option RemoteRule → List Log.Entry
  | none =>
    [resolverEntry .info "no remote lossless rule, falling back to local config" service []]
  | some r =>
    if r.kind = .lossless then
      match Rule.ofDocument r.document with
      | .ok _ => []
      | .error e =>
        [resolverEntry .info "remote lossless rule is malformed, falling back to local config"
          service [("error", e.message)]]
    else
      [resolverEntry .info "remote rule is not a lossless rule, falling back to local config"
        service [("rule_kind", r.kind.name)]]

/-- What `remote_delay_register` logs. -/
def delayEntries (service : ServiceKey) : Option RuleDelay → List Log.Entry
  | none => [resolverEntry .debug "remote delay-register absent, using local config" service []]
  | some r =>
    if r.enable then
      match DelayKind.ofText? (r.strategy.getD "") with
      | some .byTime => []
      | some .byHealthCheck =>
        if (remoteHealthInterval? r).isSome then []
        else
          [resolverEntry .error
            ("remote health-check interval is not a positive integer, " ++
              "delay register disabled")
            service [("health_check_interval", r.healthCheckIntervalSecond.getD "")]]
      | none =>
        [resolverEntry .error
          "remote delay-register strategy is not supported, delay register disabled"
          service [("strategy", r.strategy.getD "")]]
    else [resolverEntry .info "remote rule disables delay register" service []]

/-- What `resolve` logs. -/
def resolveEntries (service : ServiceKey) (remote : Option RemoteRule) : List Log.Entry :=
  if g.enabled then
    ruleEntries service remote ++
      match usableRule? remote with
      | some r => delayEntries service (r.online.getD {}).delay
      | none => []
  else []

end GracefulSettings

end InstanceLifecycle
