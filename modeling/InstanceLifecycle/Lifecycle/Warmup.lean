import InstanceLifecycle.Lifecycle.Controller

/-!
# The end of warm-up

When an instance that warms up was registered, a timer is started. It reports the end of warm-up
when the interval is over, unless the controller shuts down before.

Results:

* `length_eventsOf_finish`: a timer that elapses reports one event, one that is interrupted none.
-/

namespace InstanceLifecycle.Warmup

/-- What the timer of `schedule_warmup_end` does at its end. -/
def finish (c : Controller) (i : Instance) (interval : Duration) (isInterrupted : Bool) :
    List Effect :=
  if isInterrupted then [Controller.entry .debug "warmup_timer_cancelled" i]
  else
    [c.event .warmupEnd i,
      Controller.entry .info "warmup_finished" i [("interval", interval.render)]]

/-- A timer that elapses reports one event, and one that is interrupted none. -/
theorem length_eventsOf_finish (c : Controller) (i : Instance) (d : Duration) (b : Bool) :
    (Effect.eventsOf i.key (finish c i d b)).length = if b then 0 else 1 := by
  cases b <;> simp [finish, Effect.eventsOf, Effect.eventOf?, Controller.event, Controller.entry]

end InstanceLifecycle.Warmup
