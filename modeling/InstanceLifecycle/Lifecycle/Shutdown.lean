import InstanceLifecycle.Lifecycle.Traffic

/-!
# Shutdowns

The timers that end warm-ups are tasks of one tracker. A shutdown cancels what can be interrupted,
closes the tracker and waits for it; then it stops the probe server and the reporters, and returns
(`shutdown`). Whoever waits for the tracker goes on once it has been empty at some moment since,
even if timers were started after that; so it is documented of the tracker, which is not part of the
program. All this time the controller serves its calls as before, and others may run the probe
server, stop it, or give it handlers.
-/

namespace InstanceLifecycle

namespace Traffic

/-- Whether a call is a running timer. -/
def Call.isTimer (x : Call) : Bool :=
  match x.stage with
  | .warmup _ => true
  | _ => false

/-- Whether no timer runs, so that the tracker of the timers is empty. -/
def isAtRest (t : Traffic) : Bool := t.calls.all fun x => !x.isTimer

/-- The traffic with another probe server. -/
def serving (t : Traffic) (server : ProbeServer) : Traffic :=
  { t with controller := { t.controller with server } }

/-! ## Shutdowns -/

/-- How far a shutdown has come. -/
inductive Shutdown
  /-- It waits for the tracker, which it has closed: whether this has been empty since. -/
  | waiting (isReleased : Bool)
  /-- It has waited and stops the probe server and the reporters. -/
  | stopping
  | returned
  deriving DecidableEq, Repr

namespace Shutdown

/-- Whether the tracker has been empty at some moment since it was closed. -/
def isReleased : Shutdown → Bool
  | waiting isReleased => isReleased
  | _ => true

/-- Whether a shutdown has waited for the timers. -/
def hasWaited : Shutdown → Bool
  | waiting _ => false
  | _ => true

/-- What a shutdown that waits learns when a timer may have ended. -/
def observe (isEmpty : Bool) : Shutdown → Shutdown
  | waiting isReleased => waiting (isReleased || isEmpty)
  | s => s

end Shutdown

/-! ## Controllers that are shut down -/

/-- The traffic of a controller, and its shutdowns in the order in which they began. -/
structure Closing where
  traffic : Traffic
  shutdowns : List Shutdown := []

namespace Closing

/-- What can happen next. -/
inductive Turn
  /-- A move of the traffic. When it cancels, the controller is given up without a shutdown. -/
  | within (m : Move)
  /-- The probe server has changed, but not by a call. -/
  | serve (server : ProbeServer)
  | shutdown
  /-- The shutdown with this number goes on, if it need not wait. -/
  | goOn (k : Nat)

/-- Takes a turn. -/
def step (c : Closing) : Turn → Closing
  | .within m =>
    let t := c.traffic.step m
    ⟨t, c.shutdowns.map (·.observe t.isAtRest)⟩
  | .serve server => { c with traffic := c.traffic.serving server }
  | .shutdown => ⟨c.traffic.step .cancel, c.shutdowns ++ [.waiting c.traffic.isAtRest]⟩
  | .goOn k =>
    match c.shutdowns[k]? with
    | some (.waiting true) =>
      ⟨c.traffic.serving c.traffic.controller.server.stop, c.shutdowns.set k .stopping⟩
    | some .stopping => { c with shutdowns := c.shutdowns.set k .returned }
    | _ => c

/-- Takes some turns. -/
def run (c : Closing) (ts : List Turn) : Closing := ts.foldl step c

/-- A controller that was just created. -/
def start (τ : Timer) (settings : GracefulSettings) (server : ProbeServer) : Closing :=
  { traffic := .start τ settings server }

end Closing

end Traffic

end InstanceLifecycle
