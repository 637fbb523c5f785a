import InstanceLifecycle.Counters
import InstanceLifecycle.Event.Basic
import InstanceLifecycle.Log.Entry
import InstanceLifecycle.Probe.Server
import InstanceLifecycle.Registration.State

/-!
# Effects

The controller is a pure machine: a step returns what it does to the world as a list of effects, in
the order in which they happen.

Results:

* `total_append`: what is counted adds up.
-/

namespace InstanceLifecycle

/-- What a step does to the world. -/
inductive Effect
  | log (entry : Log.Entry)
  | count (counter : Counter) (amount : Nat)
  /-- An instance went from one state to another. -/
  | moved (key : InstanceKey) (origin target : RegistrationState)
  /-- A handler was registered for a path, perhaps in place of another one. -/
  | installed (path : String) (isReplaced : Bool)
  /-- Reports that something happened to an instance. -/
  | event (kind : EventKind) (inst : Instance) (info : Option PolicySummary)
  /-- Starts a timer that ends the warm-up of an instance. -/
  | warmup (inst : Instance) (interval : Duration)
  deriving DecidableEq, Repr

namespace Effect

/-! ## Views -/

/-- What is reported about an instance. -/
def eventOf? (k : InstanceKey) : Effect → Option (EventKind × Option PolicySummary)
  | event kind i info => if i.key = k then some (kind, info) else none
  | _ => none

/-- By how much a counter is raised. -/
def amount (c : Counter) : Effect → Nat
  | count d n => if c = d then n else 0
  | _ => 0

/-- What is reported about an instance, in order. -/
def eventsOf (k : InstanceKey) (es : List Effect) : List (EventKind × Option PolicySummary) :=
  es.filterMap (eventOf? k)

/-- By how much a counter is raised altogether. -/
def total (c : Counter) (es : List Effect) : Nat := es.foldr (amount c · + ·) 0

/-- What is counted adds up. -/
theorem total_append (c : Counter) (es fs : List Effect) :
    total c (es ++ fs) = total c es + total c fs := by
  induction es with
  | nil => simp [total]
  | cons e es ih =>
    simp only [total, List.cons_append, List.foldr_cons] at ih ⊢
    omega

end Effect

end InstanceLifecycle
