import InstanceLifecycle.Effect
import InstanceLifecycle.Failure
import InstanceLifecycle.Policy.Resolve
import InstanceLifecycle.Weight.Compute

/-!
# Adjusting weights

On every refresh the load balancer asks for the weights of the instances of a service. The warm-up
policy of a service is looked up once and kept until it is invalidated; a failed lookup is not kept.
Ticks for one service look up one at a time, in the order in which they came, and each looks into
the kept policies again when its turn comes; ticks for different services do not wait for each
other.

Results:

* `cached?_invalidate`: after invalidation there is no policy of the service, and those of other
  services are kept;
* `arrive_of_cached`: with a kept policy nothing is looked up.
-/

namespace InstanceLifecycle

/-! ## Ticks -/

/-- A request for weights. -/
structure Tick where
  service : ServiceKey
  candidates : List Weight.Candidate
  now : Int
  deriving Repr

/-- What a tick waits for. -/
inductive TickStage
  /-- Its turn among the ticks for the service. -/
  | queued
  | looking
  | done (weights : List Weight.DynamicWeight)
  deriving Repr

/-! ## Adjusters -/

/-- What all ticks share. -/
structure Adjuster where
  enabled : Bool
  settings : GracefulSettings
  cache : Table ServiceKey WarmupPolicy := .empty
  /-- The ticks for a service that wait for their turn, after the one whose turn it is. -/
  lines : Table ServiceKey (List Nat) := .empty
  deriving Repr

namespace Adjuster

/-- An adjuster with these settings (`WarmupWeightAdjuster.new`). -/
def create (s : Settings) : Adjuster := { enabled := s.adjustWeights, settings := s.graceful }

/-- An entry of the adjuster. -/
def entry (level : Log.Level) (message : String) (fields : List (String × String)) : Effect :=
  .log ⟨level, "lossless::weight::warmup", some message, fields, []⟩

/-! ## Policies -/

/-- The policy that is kept for a service (`cached_policy`). -/
def cached? (a : Adjuster) (k : ServiceKey) : Option WarmupPolicy := a.cache.get? k

/-- The adjuster without the policy of a service (`invalidate`). -/
def invalidate (a : Adjuster) (k : ServiceKey) : Adjuster := { a with cache := a.cache.erase k }

/-- What is logged when the policy of a service is dropped. -/
def invalidateEffects (a : Adjuster) (k : ServiceKey) : List Effect :=
  if (a.cached? k).isSome then
    [entry .debug "warm-up policy cache invalidated" [("service", k.text)]]
  else []

/-- What a finished tick counts and logs. -/
def weightEffects (p : WarmupPolicy) (t : Tick) : List Effect :=
  let ws := Weight.compute .double p t.now t.candidates
  let total := toString t.candidates.length
  if Weight.isSkipped .double p t.now t.candidates then
    [.count .overloadSkip 1,
      entry .info "overload protection active, warm-up weights skipped"
        [("warming", toString (Weight.unprotected .double p t.now t.candidates).length),
          ("total", total), ("threshold", toString p.overload.threshold)]]
  else if ws.isEmpty then []
  else
    [.count .weightAdjusted ws.length,
      entry .debug "warm-up weights computed"
        [("service", t.service.text), ("adjusted", toString ws.length), ("total", total)]]

/-- Ends a tick with the weights under a policy, at the end of `adjust`. -/
def finish (p : WarmupPolicy) (t : Tick) : TickStage × List Effect :=
  (.done (Weight.compute .double p t.now t.candidates), weightEffects p t)

/-! ## Steps -/

/-- The ticks for a service that have or wait for their turn. -/
def line (a : Adjuster) (k : ServiceKey) : List Nat := (a.lines.get? k).getD []

/-- Whether it is the turn of a tick. -/
def isFirst (a : Adjuster) (k : ServiceKey) (ticket : Nat) : Bool :=
  (a.line k).head? = some ticket

/-- Ends the turn of the first tick. -/
def leave (a : Adjuster) (k : ServiceKey) : Adjuster :=
  { a with lines := a.lines.insert k (a.line k).tail }

/-- Takes a turn in `warmup_policy`: a policy that was kept meanwhile is used, and else it is looked
up. -/
def takeTurn (a : Adjuster) (t : Tick) : Adjuster × TickStage × List Effect :=
  match a.cached? t.service with
  | some p =>
    let (stage, fx) := finish p t
    (a.leave t.service, stage, fx)
  | none => (a, .looking, [])

/-- Starts a tick (`adjust`) that gets this ticket if it has to wait for its turn. -/
def arrive (a : Adjuster) (ticket : Nat) (t : Tick) : Adjuster × TickStage × List Effect :=
  if a.enabled && !t.candidates.isEmpty then
    match a.cached? t.service with
    | some p => (a, finish p t)
    | none =>
      let a := { a with lines := a.lines.insert t.service (a.line t.service ++ [ticket]) }
      if a.isFirst t.service ticket then a.takeTurn t else (a, .queued, [])
  else (a, .done [], [])

/-- Ends the lookup of a tick, at the end of `warmup_policy`. -/
def looked (a : Adjuster) (t : Tick) (r : Except Failure (Option RemoteRule)) :
    Adjuster × TickStage × List Effect :=
  match r with
  | .ok remote =>
    let p := (a.settings.resolve remote).warmup
    let (stage, fx) := finish p t
    (({ a with cache := a.cache.insert t.service p }).leave t.service, stage,
      (a.settings.resolveEntries t.service remote).map .log ++ fx)
  | .error f =>
    let p := (a.settings.resolve none).warmup
    let (stage, fx) := finish p t
    (a.leave t.service, stage,
      entry .warn "lossless rule fetch failed, using local warm-up policy for this tick"
          [("service", t.service.text), ("error", f.text)] ::
        (a.settings.resolveEntries t.service none).map .log ++ fx)

/-! ## Lemmas -/

/-- After invalidation there is no policy of the service, and those of other services are kept. -/
theorem cached?_invalidate (a : Adjuster) (j k : ServiceKey) :
    (a.invalidate j).cached? k = if k = j then none else a.cached? k :=
  Table.get?_erase ..

/-- With a kept policy nothing is looked up and no turn is waited for. -/
theorem arrive_of_cached {a : Adjuster} {t : Tick} {p : WarmupPolicy} (he : a.enabled = true)
    (hc : t.candidates.isEmpty = false) (h : a.cached? t.service = some p) (ticket : Nat) :
    a.arrive ticket t = (a, finish p t) := by
  simp [arrive, he, hc, h]

end Adjuster

end InstanceLifecycle
