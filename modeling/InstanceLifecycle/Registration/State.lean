import InstanceLifecycle.Instance
import InstanceLifecycle.Log.Entry
import InstanceLifecycle.Table

/-!
# Registration states

Each instance has a state that moves along the edges of a fixed graph. A move names the state that
it leaves; it is refused if the graph has no such edge or the instance is in another state. A fresh
attempt to register starts from a new or a retracted instance.

Results:

* `get?_of_move`: a move changes the state of its instance and of no other;
* `get?_of_begin`: after a fresh attempt has begun, the instance is unregistered.
-/

namespace InstanceLifecycle

/-! ## States and edges -/

/-- Where an instance stands. -/
inductive RegistrationState
  | unregistered
  | gating
  | registering
  | registered
  | deregistering
  | deregistered
  deriving DecidableEq, Repr

namespace RegistrationState

/-- The name of a state (`as_str`). -/
def name : RegistrationState → String
  | unregistered => "UNREGISTERED"
  | gating => "GATING"
  | registering => "REGISTERING"
  | registered => "REGISTERED"
  | deregistering => "DEREGISTERING"
  | deregistered => "DEREGISTERED"

/-- All states. -/
def all : List RegistrationState :=
  [unregistered, gating, registering, registered, deregistering, deregistered]

/-- The state with this name. -/
def ofName? (s : String) : Option RegistrationState := all.find? fun k => k.name = s

/-- Whether an instance may go from one state to another (`is_valid_transition`). -/
def canMove : RegistrationState → RegistrationState → Bool
  | unregistered, gating => true
  | unregistered, registering => true
  | gating, registering => true
  | gating, unregistered => true
  | registering, registered => true
  | registering, unregistered => true
  | registered, deregistering => true
  | deregistering, deregistered => true
  | deregistering, registered => true
  | deregistered, unregistered => true
  | _, _ => false

/-- No edge leads from a state to itself. -/
theorem canMove_self (s : RegistrationState) : s.canMove s = false := by cases s <;> rfl

end RegistrationState

/-! ## Refusals -/

/-- Why a move is refused. -/
inductive TransitionError
  /-- The instance has no state yet. -/
  | instanceUnknown (instanceText : String)
  /-- There is no such edge, or the instance is in this other state. -/
  | invalidTransition (instanceText : String) (current next : RegistrationState)
  deriving DecidableEq, Repr

/-- The text of a refusal. -/
def TransitionError.message : TransitionError → String
  | instanceUnknown i => s!"instance {i} has no registration state"
  | invalidTransition i a b => s!"instance {i} cannot move from {a.name} to {b.name}"

/-! ## The states of all instances -/

/-- The states of all instances that were ever registered here. -/
abbrev RegistrationStates := Table InstanceKey RegistrationState

namespace RegistrationStates

/-- The states after an instance went from one state to another (`transition`). -/
def move (s : RegistrationStates) (k : InstanceKey) (a b : RegistrationState) :
    Except TransitionError RegistrationStates :=
  match s.get? k with
  | none => .error (.instanceUnknown k.text)
  | some current =>
    if a.canMove b then
      if current = a then .ok (s.insert k b) else .error (.invalidTransition k.text current b)
    else .error (.invalidTransition k.text a b)

/-- The states after a fresh attempt to register an instance has begun (`begin_attempt`). -/
def begin (s : RegistrationStates) (k : InstanceKey) :
    Except TransitionError RegistrationStates :=
  match s.get? k with
  | none => .ok (s.insert k .unregistered)
  | some .unregistered => .ok s
  | some .deregistered => s.move k .deregistered .unregistered
  | some current => .error (.invalidTransition k.text current .unregistered)

/-- A move changes the state of its instance and of no other. -/
theorem get?_of_move {s t : RegistrationStates} {k : InstanceKey} {a b : RegistrationState}
    (h : s.move k a b = .ok t) (j : InstanceKey) :
    t.get? j = if j = k then some b else s.get? j := by
  unfold move at h
  split at h
  · cases h
  · split at h
    · split at h
      · cases h
        exact Table.get?_insert ..
      · cases h
    · cases h

/-- A move starts where the instance stands and follows an edge. -/
theorem move_eq_ok_iff {s t : RegistrationStates} {k : InstanceKey} {a b : RegistrationState} :
    s.move k a b = .ok t ↔ s.get? k = some a ∧ a.canMove b = true ∧ t = s.insert k b := by
  unfold move
  split
  · next h => simp [h]
  · next c h =>
    by_cases he : a.canMove b = true <;> by_cases hc : c = a <;> grind

/-- After a fresh attempt has begun, the instance is unregistered. -/
theorem get?_of_begin {s t : RegistrationStates} {k : InstanceKey} (h : s.begin k = .ok t)
    (j : InstanceKey) : t.get? j = if j = k then some .unregistered else s.get? j := by
  unfold begin at h
  split at h
  · cases h
    exact Table.get?_insert ..
  · cases h
    split <;> simp_all
  · exact get?_of_move h j
  · cases h

end RegistrationStates

/-! ## What is logged -/

/-- The entry about a change of state (`apply`). -/
def stateEntry (k : InstanceKey) (a b : RegistrationState) : Log.Entry :=
  ⟨.info, "lossless::lifecycle::state", some "registration state changed",
    [("instance", k.text), ("state_from", a.name), ("state_to", b.name)], []⟩

end InstanceLifecycle
