import InstanceLifecycle.Lifecycle.Controller

/-!
# Deregistering an instance

A call to deregister an instance is refused unless the instance is registered; an instance that
was already retracted is left as it is. Otherwise the registrar is called, and if it refuses the
instance stays registered.
-/

namespace InstanceLifecycle

/-! ## Stages -/

/-- What a successful call did. -/
inductive DeregisterOutcome
  | deregistered
  | alreadyDeregistered
  deriving DecidableEq, Repr

/-- What a call of `deregister` waits for. -/
inductive DeregisterStage
  | retracting
  | done (result : Except LifecycleError DeregisterOutcome)
  deriving Repr

/-! ## Steps -/

namespace Deregister

/-- Ends a call in an error. -/
def refuse (e : LifecycleError) : DeregisterStage := .done (.error e)

/-- Ends a call because a change of state was refused. -/
def refuseMove (e : TransitionError) : DeregisterStage := refuse (.transition e)

/-- Starts a call of `deregister`, up to the request to the registrar. -/
def start (c : Controller) (i : Instance) : Step DeregisterStage :=
  match c.state? i.key with
  | none => ⟨c, refuse (.unknownInstance i.key.text), []⟩
  | some .deregistered =>
    ⟨c, .done (.ok .alreadyDeregistered), [Controller.entry .debug "deregister_repeated" i]⟩
  | some _ =>
    c.moving i.key .registered .deregistering refuseMove fun c =>
      ⟨c, .retracting, [c.event .offlineStart i]⟩

/-- The step of `deregister` after the registrar has answered. -/
def answered (c : Controller) (i : Instance) : Except Failure Unit → Step DeregisterStage
  | .ok _ =>
    c.moving i.key .deregistering .deregistered refuseMove fun c =>
      ⟨c, .done (.ok .deregistered),
        [.count .deregistrationSucceeded 1, Controller.entry .info "deregistered" i,
          c.event .threadEnd i]⟩
  | .error f =>
    c.moving i.key .deregistering .registered refuseMove fun c =>
      ⟨c, refuse (.deregistration i.key.text f),
        [.count .deregistrationFailed 1,
          Controller.entry .warn "deregister_failed" i [("reason", f.text)]]⟩

/-- The step after an answer; a finished call stays so. -/
def resume (c : Controller) (i : Instance) (stage : DeregisterStage) (a : Except Failure Unit) :
    Step DeregisterStage :=
  match stage with
  | .retracting => answered c i a
  | .done r => ⟨c, .done r, []⟩

end Deregister

end InstanceLifecycle
