import InstanceLifecycle.Backoff
import InstanceLifecycle.Effect
import InstanceLifecycle.Event.Report

/-!
# Delivering a batch

A batch is posted to a collector at a fixed address, or to an instance of a collector service that
is looked up anew for each attempt. A failed attempt is repeated after a delay that grows, until the
budget of attempts is spent. The delivery is a machine: a stage says what it waits for.

Results:

* `resume_posted_success`: a batch that the collector accepts is delivered;
* `resume_finished`: a finished delivery stays so.
-/

namespace InstanceLifecycle

/-! ## Targets -/

/-- Where batches go. -/
inductive CollectorTarget
  | fixed (url : String)
  | discovered (service : ServiceKey) (reportPath : String)
  deriving DecidableEq, Repr

/-- The collector that the settings name, if there is one (`CollectorTarget.from_config`). A fixed
address wins; a service can only be used if instances can be located. -/
def ReporterSettings.target? (r : ReporterSettings) (canLocate : Bool) : Option CollectorTarget :=
  match r.address with
  | some a => some (.fixed s!"http://{a}/{r.reportPath}")
  | none => if canLocate then r.discovery.map (.discovered · r.reportPath) else none

/-- Where an instance of a collector service answers. -/
structure Endpoint where
  host : String
  port : Nat
  deriving DecidableEq, Repr

/-- The address for reports at an endpoint, as `CollectorTarget.resolve` writes it. -/
def Endpoint.url (e : Endpoint) (reportPath : String) : String :=
  s!"http://{e.host}:{e.port}/{reportPath}"

/-! ## Stages -/

/-- How a reporter delivers. -/
structure Courier where
  reporter : String
  target : CollectorTarget
  backoff : Backoff
  deriving DecidableEq, Repr

/-- What a delivery waits for. Attempts count from one. The body is written once, when the delivery
begins, and is kept until it has finished. -/
inductive DeliveryStage
  | locating (attempt : Nat) (service : ServiceKey) (reportPath body : String)
  | posting (attempt : Nat) (url body : String)
  | waiting (attempt : Nat) (delay : Duration) (body : String)
  | finished (result : Except ReportError Nat)
  deriving Repr

/-- What a delivery is told. -/
inductive DeliveryAnswer
  | located (endpoint : Except String (Option Endpoint))
  | posted (reply : Except String Http.Status)
  | elapsed
  deriving Repr

namespace Courier

variable (c : Courier)

/-- An entry of a reporter. -/
def entry (level : Log.Level) (message : String) (fields : List (String × String)) : Effect :=
  .log ⟨level, "lossless::events::reporter", some message, ("reporter", c.reporter) :: fields, []⟩

/-! ## Steps -/

/-- Starts the attempt with this number (`try_once`). -/
def attempt (n : Nat) (body : String) : DeliveryStage :=
  match c.target with
  | .fixed url => .posting n url body
  | .discovered service path => .locating n service path body

/-- What follows an attempt once its delay is over: the next round of the loop in `deliver`, or its
end. -/
def next (n : Nat) (reason body : String) : DeliveryStage :=
  if n < c.backoff.attempts then c.attempt (n + 1) body
  else .finished (.error (.delivery c.backoff.attempts reason))

/-- What follows a failed attempt in `deliver`. -/
def fail (n : Nat) (reason body : String) : DeliveryStage × List Effect :=
  let stage :=
    match c.backoff.delayAfter n with
    | some d => .waiting n d body
    | none => c.next n reason body
  (stage, [c.entry .warn "event batch delivery failed"
    [("attempts", toString n), ("reason", reason)]])

/-- The stage of `deliver` after an answer; an answer that the stage does not wait for changes
nothing. -/
def resume (stage : DeliveryStage) (a : DeliveryAnswer) : DeliveryStage × List Effect :=
  match stage, a with
  | .locating n _ path body, .located (.ok (some e)) => (.posting n (e.url path) body, [])
  | .locating n service _ body, .located (.ok none) =>
    c.fail n s!"no instance of collector service {service.text} found" body
  | .locating n _ _ body, .located (.error reason) => c.fail n reason body
  | .posting n url body, .posted (.ok s) =>
    if s.isSuccess then (.finished (.ok n), [])
    else c.fail n s!"collector {url} answered {s.render}" body
  | .posting n url body, .posted (.error reason) =>
    c.fail n s!"collector {url} unreachable: {reason}" body
  | .waiting n _ body, .elapsed => (c.attempt (n + 1) body, [])
  | stage, _ => (stage, [])

/-! ## Lemmas -/

/-- A batch that the collector accepts is delivered. -/
theorem resume_posted_success (n : Nat) (url body : String) {s : Http.Status}
    (h : s.isSuccess = true) :
    c.resume (.posting n url body) (.posted (.ok s)) = (.finished (.ok n), []) := by
  simp [resume, h]

/-- A finished delivery stays so. -/
theorem resume_finished (r : Except ReportError Nat) (a : DeliveryAnswer) :
    c.resume (.finished r) a = (.finished r, []) := by
  cases a <;> rfl

end Courier

end InstanceLifecycle
