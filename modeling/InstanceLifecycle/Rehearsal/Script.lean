import InstanceLifecycle.Event.Delivery
import InstanceLifecycle.Failure
import InstanceLifecycle.Rule.Basic

/-!
# Scripts

In a rehearsal the collaborators of the controller answer from a script, some of them after a delay,
and every call that reaches one of them is written down with its time.
-/

namespace InstanceLifecycle.Rehearsal

/-! ## Answers -/

/-- An answer that takes a number of milliseconds. -/
structure Scripted (α : Type) where
  delay : Nat := 0
  value : α
  deriving Repr

/-- The next answer of a script and the rest of it; after its end the standing answer is given. -/
def next {α : Type} (standing : α) : List (Scripted α) → Scripted α × List (Scripted α)
  | [] => (⟨0, standing⟩, [])
  | a :: rest => (a, rest)

/-- What a control plane answers to a lookup. -/
abbrev RuleAnswer := Except Failure (Option RemoteRule)

/-- The rules of a control plane: for some services by their text, and for all others. -/
structure RuleScript where
  byService : List (String × Scripted RuleAnswer) := []
  standing : Scripted RuleAnswer := ⟨0, .ok none⟩

/-- What a control plane answers for a service. -/
def RuleScript.answer (s : RuleScript) (k : ServiceKey) : Scripted RuleAnswer :=
  (s.byService.lookup k.text).getD s.standing

/-- How a registrar answers. An instance without an identifier gets the assigned one. -/
structure RegistrarScript where
  registerDelay : Nat := 0
  registerFailure : Option Failure := none
  assigned : Option String := none
  existed : Bool := false
  deregisterDelay : Nat := 0
  deregisterFailure : Option Failure := none

namespace RegistrarScript

/-- What the registrar answers to a registration. -/
def register (s : RegistrarScript) (i : Instance) : Scripted (Except Failure Registration) :=
  ⟨s.registerDelay,
    match s.registerFailure with
    | some f => .error f
    | none => .ok ⟨(s.assigned.or i.id).getD "generated", s.existed⟩⟩

/-- What the registrar answers to a retraction. -/
def deregister (s : RegistrarScript) : Scripted (Except Failure Unit) :=
  ⟨s.deregisterDelay,
    match s.deregisterFailure with
    | some f => .error f
    | none => .ok ()⟩

end RegistrarScript

/-- How all collaborators answer. -/
structure Script where
  /-- The control plane, if there is one. -/
  rules : Option RuleScript := none
  probes : List (Scripted (Except String Http.Status)) := []
  registrar : RegistrarScript := {}
  transport : List (Scripted (Except String Http.Status)) := []
  locator : List (Scripted (Except String (Option Endpoint))) := []

/-! ## Calls -/

/-- A call that reaches a collaborator. -/
inductive Call
  | rules (service : ServiceKey)
  | probe (request : HealthRequest)
  | register (inst : Instance)
  | deregister (request : Retraction)
  | event (reporter body : String)
  | reporterShutdown (reporter : String)
  | post (url body : String)
  | locate (service : ServiceKey)
  deriving Repr

/-- A call and the time when it arrived. -/
structure Traced where
  time : Nat
  call : Call
  deriving Repr

end InstanceLifecycle.Rehearsal
