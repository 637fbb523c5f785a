import InstanceLifecycle.Lifecycle.Controller

/-!
# Registering an instance

A call to register an instance looks its policy up, installs its probes, announces it, waits at the
gate and calls the registrar. Between these it waits for others, and other calls may run meanwhile;
a stage says what the call waits for.
-/

namespace InstanceLifecycle

/-! ## Stages -/

/-- What a call of `register` waits for. -/
inductive RegisterStage
  | lookup
  | binding (p : Policy)
  | gating (p : Policy) (g : GateStage)
  | registering (p : Policy)
  | done (result : Except LifecycleError Registration)
  deriving Repr

/-- What a call of `register` is told. -/
inductive RegisterAnswer
  | rule (r : Except Failure (Option RemoteRule))
  | bound (r : Except String String)
  | gate (a : GateAnswer)
  | registered (r : Except Failure Registration)

/-! ## Policies -/

namespace Controller

/-- The policy for an instance under the answer to a lookup; without an answer it is local
(`resolve_policy`). -/
def policyFor (c : Controller) (r : Except Failure (Option RemoteRule)) : Policy :=
  match r with
  | .ok remote => c.settings.resolve remote
  | .error _ => c.settings.resolve none

/-- What `resolve_policy` logs. -/
def policyEffects (c : Controller) (i : Instance) (r : Except Failure (Option RemoteRule)) :
    List Effect :=
  match r with
  | .ok remote => (c.settings.resolveEntries i.serviceKey remote).map .log
  | .error f =>
    entry .warn "rule_fetch_failed" i [("reason", f.text)] ::
      (c.settings.resolveEntries i.serviceKey none).map .log

/-- Whatever a lookup is answered, the policy is that under some rule or without one. -/
theorem exists_policyFor (c : Controller) (r : Except Failure (Option RemoteRule)) :
    ∃ remote, c.policyFor r = c.settings.resolve remote := by
  cases r with
  | ok remote => exact ⟨remote, rfl⟩
  | error f => exact ⟨none, rfl⟩

end Controller

/-! ## Steps -/

namespace Register

/-- Ends a call in an error. -/
def refuse (e : LifecycleError) : RegisterStage := .done (.error e)

/-- Ends a call because a change of state was refused. -/
def refuseMove (e : TransitionError) : RegisterStage := refuse (.transition e)

/-- Ends a call because a handler was refused. -/
def refuseProbe (e : ProbeError) : RegisterStage := refuse (.probe e)

/-- Calls the registrar, coming from some state (`call_registrar`). -/
def callRegistrar (c : Controller) (i : Instance) (p : Policy) (origin : RegistrationState) :
    Step RegisterStage :=
  c.moving i.key origin .registering refuseMove fun c => ⟨c, .registering p, []⟩

/-- What is logged when the gate let an instance through (`log_gate_pass`). -/
def passEffects (i : Instance) : GatePass → List Effect
  | .skipped => []
  | .delayed d => [Controller.entry .info "gate_passed" i [("waited", d.render)]]
  | .healthy n => [Controller.entry .info "gate_passed" i [("attempts", toString n)]]

/-- Goes on from a stage of the gate: `register` waits for it until it is closed. -/
def followGate (c : Controller) (i : Instance) (p : Policy) : GateStage → Step RegisterStage
  | .closed (.ok pass) => (callRegistrar c i p .gating).after (passEffects i pass)
  | .closed (.error e) =>
    c.moving i.key .gating .unregistered refuseMove fun c =>
      ⟨c, refuse (.gate i.key.text e),
        [.count .registrationFailed 1,
          Controller.entry .warn "gate_failed" i [("reason", e.message)]]⟩
  | g => ⟨c, .gating p g, []⟩

/-- Announces the instance and comes to the gate, as `register` does after the probes. -/
def announce (c : Controller) (i : Instance) (p : Policy) (now : Nat) : Step RegisterStage :=
  Step.after [c.event .onlineStart i] <|
    if p.delay.enabled then
      c.moving i.key .unregistered .gating refuseMove fun c =>
        let (g, fx) := Gate.arrive i p.delay now
        (followGate c i p g).after fx
    else callRegistrar c i p .unregistered

/-- Notes that the probe server runs or does not, at the end of `start_probes`; the call goes on in
both cases. -/
def followBinding (c : Controller) (i : Instance) (p : Policy) (now : Nat)
    (binding : Except String String) : Step RegisterStage :=
  let wasBound := c.server.address.isSome
  match c.server.run binding with
  | (server, .ok a) =>
    (announce { c with server } i p now).after <|
      (if wasBound then [] else [.log (ProbeServer.startEntry a)]) ++
        [Controller.entry .debug "probes_ready" i [("probe_addr", a)]]
  | (server, .error e) =>
    (announce { c with server } i p now).after
      [.count .probeBindFailure 1,
        Controller.entry .error "probes_unavailable" i [("reason", e.message)]]

/-- Runs the probe server: it is waited for unless it is bound (`start_probes`). -/
def startProbes (c : Controller) (i : Instance) (p : Policy) (now : Nat) : Step RegisterStage :=
  match c.server.address with
  | some a => followBinding c i p now (.ok a)
  | none => ⟨c, .binding p, []⟩

/-- Installs the probes that the policy wants (`install_probes`). -/
def installProbes (c : Controller) (i : Instance) (p : Policy) (now : Nat) :
    Step RegisterStage :=
  if p.probesEnabled then
    c.installing p.readiness (.readiness i.key) refuseProbe fun c =>
      c.installing p.offline (.offline i) refuseProbe fun c => startProbes c i p now
  else announce c i p now

/-- Begins a fresh attempt under a policy: `register` from `begin_attempt` on. -/
def begin (c : Controller) (i : Instance) (p : Policy) (now : Nat) : Step RegisterStage :=
  match c.states.begin i.key with
  | .error e => ⟨c, refuseMove e, []⟩
  | .ok states =>
    let fx : List Effect :=
      if c.state? i.key = some .deregistered then
        [.moved i.key .deregistered .unregistered]
      else []
    let c := { c with states }
    Step.after fx <|
      if p.enabled then
        installProbes { c with summaries := c.summaries.insert i.key p.summary } i p now
      else callRegistrar c i p .unregistered

/-- What follows a successful registration, to the end of `register`; the timer is that of
`schedule_warmup_end`. -/
def succeed (c : Controller) (i : Instance) (p : Policy) (r : Registration) :
    Step RegisterStage :=
  Step.after (if p.enabled then [c.event .onlineEnd i] else []) <|
    c.moving i.key .registering .registered refuseMove fun c =>
      ⟨c, .done (.ok r),
        [.count .registrationSucceeded 1,
          Controller.entry .info "registered" i [("instance_id", r.id)]] ++
        if p.enabled && p.warmup.isActive then
          [c.event .warmupStart i, .warmup i p.warmup.interval]
        else []⟩

/-- What follows a failed registration in `call_registrar`. -/
def fail (c : Controller) (i : Instance) (f : Failure) : Step RegisterStage :=
  c.moving i.key .registering .unregistered refuseMove fun c =>
    ⟨c, refuse (.registration i.key.text f),
      [.count .registrationFailed 1,
        Controller.entry .warn "register_failed" i [("reason", f.text)]]⟩

/-- The step of `register` after an answer; an answer that the stage does not wait for changes
nothing. -/
def resume (c : Controller) (i : Instance) (stage : RegisterStage) (a : RegisterAnswer)
    (now : Nat) : Step RegisterStage :=
  match stage, a with
  | .lookup, .rule r => (begin c i (c.policyFor r) now).after (c.policyEffects i r)
  | .binding p, .bound r => followBinding c i p now r
  | .gating p g, .gate a =>
    let (g, fx) := Gate.resume i g a now
    (followGate c i p g).after fx
  | .registering p, .registered (.ok r) => succeed c i p r
  | .registering _, .registered (.error f) => fail c i f
  | stage, _ => ⟨c, stage, []⟩

end Register

end InstanceLifecycle
