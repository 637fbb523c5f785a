import InstanceLifecycle.Lifecycle.Deregister

/-!
# Replies about instances

The readiness probe says whether an instance is registered. The offline probe retracts the instance
and says whether that worked; it may be asked again.

Results:

* `Controller.readiness_status_iff`: the readiness probe confirms exactly registered instances.
-/

namespace InstanceLifecycle

/-- What the readiness probe answers (`ReadinessProbe.serve`). -/
def Controller.readiness (c : Controller) (k : InstanceKey) (method : String) : Reply :=
  if method = "GET" ∨ method = "HEAD" then
    if c.state? k = some .registered then .text 200 "REGISTERED" else .text 503 "UNREGISTERED"
  else .text 405 "METHOD NOT ALLOWED"

/-- What the offline probe answers after its call (`OfflineProbe.serve`). -/
def offlineReply : Except LifecycleError DeregisterOutcome → Reply
  | .ok _ => .text 200 "DEREGISTERED SUCCESS"
  | .error _ => .text 500 "DEREGISTERED FAILED"

/-- What `OfflineProbe.serve` logs after its call. -/
def offlineEffects (i : Instance) : Except LifecycleError DeregisterOutcome → List Effect
  | .ok _ => []
  | .error e =>
    [.log (Log.ofInstance .error "lossless::lifecycle::handlers" "offline_probe_failed" i
      [("reason", e.text)])]

/-- What the page of counters answers (`MetricsProbe.serve`). -/
def countersReply (cs : Counters) : Reply := ⟨⟨200⟩, some "text/plain; version=0.0.4", cs.page⟩

/-- The readiness probe confirms exactly registered instances that it is asked for properly. -/
theorem Controller.readiness_status_iff (c : Controller) (k : InstanceKey) (method : String) :
    (c.readiness k method).status = ⟨200⟩ ↔
      (method = "GET" ∨ method = "HEAD") ∧ c.state? k = some .registered := by
  unfold readiness
  by_cases h : method = "GET" ∨ method = "HEAD" <;>
    by_cases hr : c.state? k = some .registered <;> simp [h, hr, Reply.text]

end InstanceLifecycle
