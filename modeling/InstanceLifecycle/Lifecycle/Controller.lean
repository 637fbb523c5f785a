import InstanceLifecycle.Failure
import InstanceLifecycle.Policy.Resolve
import InstanceLifecycle.Policy.Summary

/-!
# The controller

The controller keeps, for each instance, its registration state and a summary of the policy that it
was last registered under, and it owns the routes of the probe server. A step of a call changes the
controller, leads to a stage of the call and has effects.

Results:

* `moving_of_ok`, `moving_of_error`: with a change of state that is allowed the step goes on; one
  that is refused ends the call.
-/

namespace InstanceLifecycle

/-! ## Controllers -/

/-- The state that all calls share. -/
structure Controller where
  settings : GracefulSettings
  states : RegistrationStates := .empty
  /-- The policies that instances were last registered under, in short. -/
  summaries : Table InstanceKey PolicySummary := .empty
  server : ProbeServer
  deriving Repr

namespace Controller

/-- A controller with these settings (`build`). The probe server shows the counters if the settings
name a path for them. -/
def create (s : Settings) (server : ProbeServer) :
    Except ProbeError (Controller × List Effect) :=
  match s.admin.metricsPath with
  | none => .ok ({ settings := s.graceful, server }, [])
  | some path =>
    match server.register path .counters with
    | .ok server' =>
      .ok ({ settings := s.graceful, server := server' }, [.installed path (server.has path)])
    | .error e => .error e

/-- The state of an instance (`state`). -/
def state? (c : Controller) (k : InstanceKey) : Option RegistrationState := c.states.get? k

/-- The effect of reporting that something happened to an instance (`emit`). The last event of an
instance carries no summary. -/
def event (c : Controller) (kind : EventKind) (i : Instance) : Effect :=
  .event kind i (if kind = .threadEnd then none else c.summaries.get? i.key)

/-! ## Steps of calls -/

/-- An entry about a call for an instance. -/
def entry (level : Log.Level) (event : String) (i : Instance)
    (fields : List (String × String) := []) : Effect :=
  .log (Log.ofInstance level "lossless::lifecycle::orchestrator" event i fields)

end Controller

/-- What a step leads to. -/
structure Step (σ : Type) where
  controller : Controller
  stage : σ
  effects : List Effect := []

namespace Step

variable {σ : Type}

/-- A step with effects before its own. -/
def after (effects : List Effect) (s : Step σ) : Step σ :=
  { s with effects := effects ++ s.effects }

@[simp] theorem controller_after (fx : List Effect) (s : Step σ) :
    (s.after fx).controller = s.controller := rfl

@[simp] theorem stage_after (fx : List Effect) (s : Step σ) : (s.after fx).stage = s.stage := rfl

@[simp] theorem effects_after (fx : List Effect) (s : Step σ) :
    (s.after fx).effects = fx ++ s.effects := rfl

end Step

namespace Controller

variable {σ : Type}

/-- Moves an instance to another state and goes on, or ends in a stage for the refusal
(`transition`). -/
def moving (c : Controller) (k : InstanceKey) (a b : RegistrationState)
    (refused : TransitionError → σ) (next : Controller → Step σ) : Step σ :=
  match c.states.move k a b with
  | .ok states => (next { c with states }).after [.moved k a b]
  | .error e => ⟨c, refused e, []⟩

/-- Installs a handler if it is wanted and goes on, or ends in a stage for the refusal
(`register_handler`). -/
def installing (c : Controller) (e : EndpointPolicy) (h : Handler)
    (refused : ProbeError → σ) (next : Controller → Step σ) : Step σ :=
  if e.enabled then
    match c.server.register e.path h with
    | .ok server => (next { c with server }).after [.installed e.path (c.server.has e.path)]
    | .error x => ⟨c, refused x, []⟩
  else next c

theorem moving_of_ok {c : Controller} {k : InstanceKey} {a b : RegistrationState}
    {states : RegistrationStates} (h : c.states.move k a b = .ok states)
    (refused : TransitionError → σ) (next : Controller → Step σ) :
    c.moving k a b refused next = (next { c with states }).after [.moved k a b] := by
  simp [moving, h]

theorem moving_of_error {c : Controller} {k : InstanceKey} {a b : RegistrationState}
    {e : TransitionError} (h : c.states.move k a b = .error e)
    (refused : TransitionError → σ) (next : Controller → Step σ) :
    c.moving k a b refused next = ⟨c, refused e, []⟩ := by
  simp [moving, h]

end Controller

end InstanceLifecycle
