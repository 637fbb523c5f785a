/-!
# Counters

The controller counts what happens during its life. A counter is a 64-bit word and starts over
when it overflows. The page of counters is in the text format that metric collectors scrape: per
counter a line of help, a line with its type and a line with its value.

Results:

* `get_add`: counting changes one counter and no other.
-/

namespace InstanceLifecycle

/-- What is counted. -/
inductive Counter
  | registrationSucceeded | registrationFailed
  | gateProbeAttempt | gateTimeout
  | deregistrationSucceeded | deregistrationFailed
  | eventEnqueued | eventDropped
  | batchDelivered | batchFailed
  | weightAdjusted | overloadSkip
  | probeBindFailure
  deriving DecidableEq, Repr

namespace Counter

/-- All counters, in the order in which they are shown. -/
def all : List Counter :=
  [registrationSucceeded, registrationFailed, gateProbeAttempt, gateTimeout,
    deregistrationSucceeded, deregistrationFailed, eventEnqueued, eventDropped, batchDelivered,
    batchFailed, weightAdjusted, overloadSkip, probeBindFailure]

theorem mem_all (c : Counter) : c ∈ all := by cases c <;> decide

/-- The name of a counter. -/
def name : Counter → String
  | registrationSucceeded => "registrations_succeeded"
  | registrationFailed => "registrations_failed"
  | gateProbeAttempt => "gate_probe_attempts"
  | gateTimeout => "gate_timeouts"
  | deregistrationSucceeded => "deregistrations_succeeded"
  | deregistrationFailed => "deregistrations_failed"
  | eventEnqueued => "events_enqueued"
  | eventDropped => "events_dropped"
  | batchDelivered => "batches_delivered"
  | batchFailed => "batches_failed"
  | weightAdjusted => "weights_adjusted"
  | overloadSkip => "overload_skips"
  | probeBindFailure => "probe_bind_failures"

/-- The name of a counter on the page. -/
def metric : Counter → String
  | registrationSucceeded => "lossless_registrations_total"
  | registrationFailed => "lossless_registration_failures_total"
  | gateProbeAttempt => "lossless_gate_probe_attempts_total"
  | gateTimeout => "lossless_gate_timeouts_total"
  | deregistrationSucceeded => "lossless_deregistrations_total"
  | deregistrationFailed => "lossless_deregistration_failures_total"
  | eventEnqueued => "lossless_events_enqueued_total"
  | eventDropped => "lossless_events_dropped_total"
  | batchDelivered => "lossless_event_batches_delivered_total"
  | batchFailed => "lossless_event_batches_failed_total"
  | weightAdjusted => "lossless_weights_adjusted_total"
  | overloadSkip => "lossless_overload_skips_total"
  | probeBindFailure => "lossless_probe_bind_failures_total"

/-- What a counter means. -/
def help : Counter → String
  | registrationSucceeded => "Successful lossless registrations"
  | registrationFailed => "Registrations aborted by the gate or the registrar"
  | gateProbeAttempt => "Health-check probes issued by the delay-register gate"
  | gateTimeout => "Gates that exhausted their health-check retry budget"
  | deregistrationSucceeded => "Successful deregistrations"
  | deregistrationFailed => "Deregistration calls rejected by the registrar"
  | eventEnqueued => "Lifecycle events accepted by reporters"
  | eventDropped => "Lifecycle events dropped because a reporter queue was full"
  | batchDelivered => "Event batches accepted by the collector"
  | batchFailed => "Event batches dropped after exhausting delivery retries"
  | weightAdjusted => "Dynamic warm-up weights produced"
  | overloadSkip => "Weight refresh ticks skipped by overload protection"
  | probeBindFailure => "Probe listener start attempts that failed to bind"

end Counter

/-- The values of all counters. -/
structure Counters where
  get : Counter → UInt64

namespace Counters

/-- All counters at zero. -/
def zero : Counters := ⟨fun _ => 0⟩

instance : Inhabited Counters := ⟨zero⟩

/-- One counter raised by so much (`record_registration`, `record_batch`, `inc_gate_timeout` and
their likes). -/
def add (cs : Counters) (c : Counter) (n : Nat) : Counters :=
  ⟨fun x => if x = c then cs.get x + UInt64.ofNat n else cs.get x⟩

/-- Counting changes one counter and no other. -/
theorem get_add (cs : Counters) (c x : Counter) (n : Nat) :
    (cs.add c n).get x = if x = c then cs.get x + UInt64.ofNat n else cs.get x := rfl

/-- The lines of a counter on the page. -/
def metricLines (cs : Counters) (c : Counter) : String :=
  s!"# HELP {c.metric} {c.help}\n# TYPE {c.metric} counter\n{c.metric} {(cs.get c).toNat}\n"

/-- The page of counters (`render_prometheus`). -/
def page (cs : Counters) : String :=
  String.join (Counter.all.map cs.metricLines)

end Counters

end InstanceLifecycle
