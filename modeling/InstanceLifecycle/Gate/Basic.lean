import InstanceLifecycle.Backoff
import InstanceLifecycle.Duration.Printer
import InstanceLifecycle.Effect
import InstanceLifecycle.Policy.Basic

/-!
# The gate before registration

The gate holds a registration back for a fixed time, or until the instance answers a health check.
It is a machine: a stage says what the gate waits for, and an answer takes it to the next stage. A
health check that fails is repeated after the interval until the budget of attempts is spent.

Results:

* `arrive_of_disabled`: a gate that is switched off lets everything pass;
* `resume_interrupted`: a gate that is interrupted refuses.
-/

namespace InstanceLifecycle

/-! ## Results -/

/-- Why the gate refused. -/
inductive GateError
  | timeout (attempts : Nat)
  | unsupportedStrategy (name : String)
  | cancelled
  deriving DecidableEq, Repr

/-- The text of a refusal. -/
def GateError.message : GateError → String
  | timeout n => s!"health check did not pass after {n} attempt(s)"
  | unsupportedStrategy s => s!"delay-register strategy `{s}` is not supported"
  | cancelled => "delay-register gate cancelled"

/-- How the gate let an instance through. -/
inductive GatePass
  | skipped
  | delayed (interval : Duration)
  | healthy (attempts : Nat)
  deriving DecidableEq, Repr

/-! ## Stages -/

/-- A health check that an instance is asked for (`probe`). -/
structure HealthRequest where
  method : String
  url : String
  timeout : Duration
  deriving DecidableEq, Repr

/-- What `wait` and `poll_health` wait for. Attempts count from one; `started` is the time of the
first one. -/
inductive GateStage
  | delaying (interval : Duration)
  | checking (check : HealthCheckPolicy) (started attempt : Nat)
  | pausing (check : HealthCheckPolicy) (started attempt : Nat)
  | closed (result : Except GateError GatePass)
  deriving Repr

/-- What the gate is told: that its wait is over or was cut short, or what the instance answered. -/
inductive GateAnswer
  | elapsed
  | interrupted
  | answered (reply : Except String Http.Status)
  deriving Repr

namespace Gate

/-- An entry of the gate. -/
def entry (level : Log.Level) (event : String) (i : Instance) (fields : List (String × String)) :
    Effect :=
  .log (Log.ofInstance level "lossless::gate" event i fields)

/-- How many health checks `poll_health` makes: at least one. -/
def budget (c : HealthCheckPolicy) : Nat := max c.maxRetry 1

/-- The request of a health check; all attempts make the same one. -/
def request (i : Instance) (c : HealthCheckPolicy) : HealthRequest :=
  ⟨c.method, c.url i.port, probeTimeout c.interval⟩

/-- Starts the health check with this number, at the head of the loop in `poll_health`. -/
def ask (c : HealthCheckPolicy) (started attempt : Nat) : GateStage × List Effect :=
  (.checking c started attempt, [.count .gateProbeAttempt 1])

/-! ## Steps -/

/-- Comes to the gate at some time (`wait`). -/
def arrive (i : Instance) (p : DelayPolicy) (now : Nat) : GateStage × List Effect :=
  if p.enabled then
    match p.strategy with
    | .byTime d =>
      (.delaying d, [entry .info "gate_delay_start" i [("interval", d.render)]])
    | .byHealthCheck c => ask c now 1
    | .unsupported name =>
      (.closed (.error (.unsupportedStrategy name)),
        [entry .error "gate_unsupported_strategy" i [("strategy", name)]])
  else (.closed (.ok .skipped), [])

/-- What follows a failed health check in `poll_health`: another one after a pause, or the end. -/
def afterFailure (i : Instance) (c : HealthCheckPolicy) (started attempt : Nat) :
    GateStage × List Effect :=
  if attempt < budget c then (.pausing c started attempt, [])
  else
    (.closed (.error (.timeout (budget c))),
      [.count .gateTimeout 1,
        entry .warn "gate_health_check_exhausted" i
          [("attempts", toString (budget c)), ("url", (request i c).url)]])

/-- The entry about a failed health check. -/
def failureEntry (i : Instance) (c : HealthCheckPolicy) (attempt : Nat)
    (field : String × String) : Effect :=
  entry .debug "gate_health_check_failed" i
    [("attempts", toString attempt), ("url", (request i c).url), field]

/-- What the answer to a health check leads to in `poll_health`. -/
def judge (i : Instance) (c : HealthCheckPolicy) (started attempt now : Nat) :
    Except String Http.Status → GateStage × List Effect
  | .ok s =>
    if s.isSuccess then
      (.closed (.ok (.healthy attempt)),
        [entry .info "gate_health_check_passed" i
          [("attempts", toString attempt), ("elapsed_ms", toString (now - started))]])
    else
      let (stage, es) := afterFailure i c started attempt
      (stage, failureEntry i c attempt ("status", toString s.code) :: es)
  | .error reason =>
    let (stage, es) := afterFailure i c started attempt
    (stage, failureEntry i c attempt ("reason", reason) :: es)

/-- The stage of `wait` after an answer; an answer that the stage does not wait for
changes nothing. -/
def resume (i : Instance) (stage : GateStage) (a : GateAnswer) (now : Nat) :
    GateStage × List Effect :=
  match stage, a with
  | .closed r, _ => (.closed r, [])
  | _, .interrupted => (.closed (.error .cancelled), [])
  | .delaying d, .elapsed => (.closed (.ok (.delayed d)), [])
  | .pausing c started n, .elapsed => ask c started (n + 1)
  | .checking c started n, .answered r => judge i c started n now r
  | stage, _ => (stage, [])

/-! ## Lemmas -/

/-- A gate that is switched off lets everything pass. -/
theorem arrive_of_disabled {p : DelayPolicy} (h : p.enabled = false) (i : Instance) (now : Nat) :
    arrive i p now = (.closed (.ok .skipped), []) := by
  simp [arrive, h]

/-- A gate that is interrupted refuses, whatever it waited for. -/
theorem resume_interrupted (i : Instance) (stage : GateStage) (now : Nat)
    (h : ∀ r, stage ≠ .closed r) :
    resume i stage .interrupted now = (.closed (.error .cancelled), []) := by
  cases stage <;> simp_all [resume]

/-- At least one health check is made. -/
theorem one_le_budget (c : HealthCheckPolicy) : 1 ≤ budget c := Nat.le_max_right ..

end Gate

end InstanceLifecycle
