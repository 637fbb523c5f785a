import InstanceLifecycle.Registration.State
import Mathlib.Data.List.Basic

/-!
# The history of registration states

The states of instances change only when a fresh attempt begins and when a move is made. Calls of
both kinds come in any order, for any instances and with any states; some are refused. What an
instance went through since the first call is a path along the edges of the graph.

Results:

* `perform_begin`: a fresh attempt may create the state of its instance before it looks at it;
* `after_of_refused`: a refused call changes nothing;
* `get?_after`: an accepted one takes its instance along an edge, or makes it known;
* `exists_path_of_known`: so the states of an instance form a path;
* `keeps_history`: this path, and what each call answers.
-/

namespace InstanceLifecycle.RegistrationStates

/-! ## Calls -/

/-- A call that may change the state of an instance. -/
inductive Call
  | begin (k : InstanceKey)
  | move (k : InstanceKey) (a b : RegistrationState)
  deriving DecidableEq, Repr

/-- The instance that a call is for. -/
def Call.key : Call → InstanceKey
  | begin k => k
  | move k _ _ => k

/-- The states with one for this instance: if it is new, it is unregistered. -/
def opened (s : RegistrationStates) (k : InstanceKey) : RegistrationStates :=
  if (s.get? k).isSome then s else s.insert k .unregistered

/-- Puts new states in place of old ones, if there are new ones. -/
def settle (s : RegistrationStates) :
    Except TransitionError RegistrationStates → RegistrationStates × Except TransitionError Unit
  | .ok t => (t, .ok ())
  | .error e => (s, .error e)

/-- What a call leaves behind and what it answers. A fresh attempt creates the state of its instance
before it looks whether the instance is free. -/
def perform (s : RegistrationStates) : Call → RegistrationStates × Except TransitionError Unit
  | .begin k => (s.opened k).settle ((s.opened k).begin k)
  | .move k a b => s.settle (s.move k a b)

/-- The states after a call. -/
def after (s : RegistrationStates) (c : Call) : RegistrationStates := (s.perform c).1

/-- What a call answers. -/
def answer (s : RegistrationStates) (c : Call) : Except TransitionError Unit := (s.perform c).2

/-- The states after calls, one after another. -/
def afterAll (s : RegistrationStates) (cs : List Call) : RegistrationStates := cs.foldl after s

/-- How an instance stands before the calls and each time this has changed. -/
def trail (k : InstanceKey) (s : RegistrationStates) : List Call → List (Option RegistrationState)
  | [] => [s.get? k]
  | c :: cs =>
    if (s.after c).get? k = s.get? k then trail k (s.after c) cs
    else s.get? k :: trail k (s.after c) cs

/-! ## Single calls -/

/-- A fresh attempt may create the state of its instance before it looks at it: what is refused had
a state already. -/
theorem perform_begin (s : RegistrationStates) (k : InstanceKey) :
    s.perform (.begin k) = s.settle (s.begin k) := by
  cases h : s.get? k with
  | none => simp [perform, opened, begin, settle, h]
  | some a => simp [perform, opened, h]

theorem settle_of_ok {s : RegistrationStates} {r : Except TransitionError RegistrationStates}
    (h : (s.settle r).2 = .ok ()) : r = .ok (s.settle r).1 := by
  cases r with
  | ok t => rfl
  | error e => cases h

theorem snd_settle_eq_ok_iff {s : RegistrationStates}
    {r : Except TransitionError RegistrationStates} :
    (s.settle r).2 = .ok () ↔ ∃ t, r = .ok t := by
  cases r <;> simp [settle]

theorem fst_settle_of_error {s : RegistrationStates}
    {r : Except TransitionError RegistrationStates} {e : TransitionError}
    (h : (s.settle r).2 = .error e) : (s.settle r).1 = s := by
  cases r with
  | ok t => cases h
  | error _ => rfl

theorem begin_of_accepted {s : RegistrationStates} {k : InstanceKey}
    (h : s.answer (.begin k) = .ok ()) : s.begin k = .ok (s.after (.begin k)) := by
  rw [answer, perform_begin] at h
  rw [after, perform_begin]
  exact settle_of_ok h

theorem move_of_accepted {s : RegistrationStates} {k : InstanceKey} {a b : RegistrationState}
    (h : s.answer (.move k a b) = .ok ()) : s.move k a b = .ok (s.after (.move k a b)) :=
  settle_of_ok h

/-- A refused call changes nothing. -/
theorem after_of_refused {s : RegistrationStates} {c : Call} {e : TransitionError}
    (h : s.answer c = .error e) : s.after c = s := by
  cases c with
  | begin k =>
    rw [answer, perform_begin] at h
    rw [after, perform_begin]
    exact fst_settle_of_error h
  | move k a b => exact fst_settle_of_error h

/-- A fresh attempt is accepted exactly for an instance that is new, unregistered or retracted. -/
theorem answer_begin_eq_ok_iff {s : RegistrationStates} {k : InstanceKey} :
    s.answer (.begin k) = .ok () ↔
      s.get? k = none ∨ s.get? k = some .unregistered ∨ s.get? k = some .deregistered := by
  rw [answer, perform_begin, snd_settle_eq_ok_iff]
  cases h : s.get? k with
  | none => simp [begin, h]
  | some a => cases a <;> simp [begin, move, h, RegistrationState.canMove]

/-- A move is accepted exactly if it starts where the instance stands and follows an edge. -/
theorem answer_move_eq_ok_iff {s : RegistrationStates} {k : InstanceKey}
    {a b : RegistrationState} :
    s.answer (.move k a b) = .ok () ↔ s.get? k = some a ∧ a.canMove b = true := by
  rw [answer, perform, snd_settle_eq_ok_iff]
  simp only [move_eq_ok_iff, exists_and_left, exists_eq, and_true]

theorem get?_after_begin {s : RegistrationStates} {k : InstanceKey}
    (h : s.answer (.begin k) = .ok ()) (j : InstanceKey) :
    (s.after (.begin k)).get? j = if j = k then some .unregistered else s.get? j :=
  get?_of_begin (begin_of_accepted h) j

theorem get?_after_move {s : RegistrationStates} {k : InstanceKey} {a b : RegistrationState}
    (h : s.answer (.move k a b) = .ok ()) (j : InstanceKey) :
    (s.after (.move k a b)).get? j = if j = k then some b else s.get? j :=
  get?_of_move (move_of_accepted h) j

/-- A call leaves all instances alone but its own. -/
theorem get?_after_of_ne {s : RegistrationStates} {c : Call} {j : InstanceKey} (h : j ≠ c.key) :
    (s.after c).get? j = s.get? j := by
  cases answered : s.answer c with
  | error e => rw [after_of_refused answered]
  | ok u =>
    cases c with
    | begin k => exact (get?_after_begin answered j).trans (if_neg h)
    | move k a b => exact (get?_after_move answered j).trans (if_neg h)

/-! ## Paths -/

/-- How an instance may stand next: it becomes known, or goes along an edge. -/
inductive Next : Option RegistrationState → Option RegistrationState → Prop
  | known : Next none (some .unregistered)
  | moved {a b : RegistrationState} (edge : a.canMove b = true) : Next (some a) (some b)

/-- A call leaves an instance where it stands, makes it known or takes it along an edge. -/
theorem get?_after (s : RegistrationStates) (c : Call) (k : InstanceKey) :
    (s.after c).get? k = s.get? k ∨ Next (s.get? k) ((s.after c).get? k) := by
  cases answered : s.answer c with
  | error e => exact Or.inl (by rw [after_of_refused answered])
  | ok u =>
    by_cases own : k = c.key
    · cases c with
      | begin j =>
        obtain rfl : k = j := own
        rw [get?_after_begin answered, if_pos rfl]
        rcases answer_begin_eq_ok_iff.mp answered with new | unregistered | retracted
        · exact Or.inr (new ▸ .known)
        · exact Or.inl unregistered.symm
        · exact Or.inr (retracted ▸ .moved rfl)
      | move j a b =>
        obtain rfl : k = j := own
        obtain ⟨stood, edge⟩ := answer_move_eq_ok_iff.mp answered
        rw [get?_after_move answered, if_pos rfl, stood]
        exact Or.inr (.moved edge)
    · exact Or.inl (get?_after_of_ne own)

/-- From where it stands a known instance goes along a path to where it is found at the end. -/
theorem exists_path_of_known {s : RegistrationStates} {k : InstanceKey} {a : RegistrationState}
    (h : s.get? k = some a) (cs : List Call) : ∃ path : List RegistrationState,
      trail k s cs = (a :: path).map some ∧
        (a :: path).IsChain (fun b c => b.canMove c = true) ∧
        (a :: path).getLast? = (s.afterAll cs).get? k := by
  induction cs generalizing s a with
  | nil => exact ⟨[], by rw [trail, h]; rfl, .singleton a, h.symm⟩
  | cons c cs ih =>
    rw [trail]
    by_cases stays : (s.after c).get? k = s.get? k
    · rw [if_pos stays]
      exact ih (stays.trans h)
    · rw [if_neg stays]
      have next := (get?_after s c k).resolve_left stays
      rw [h] at next ⊢
      generalize reached : (s.after c).get? k = x at next
      cases next with
      | moved edge =>
        obtain ⟨path, visited, chain, last⟩ := ih reached
        exact ⟨_ :: path, by rw [visited]; rfl, .cons_cons edge chain, by
          rw [List.getLast?_cons_cons]; exact last⟩

/-- A new instance starts out unregistered and goes along a path from there, if it becomes known. -/
theorem exists_path_of_unknown {s : RegistrationStates} {k : InstanceKey} (h : s.get? k = none)
    (cs : List Call) : ∃ path : List RegistrationState,
      trail k s cs = none :: path.map some ∧ (∀ a ∈ path.head?, a = .unregistered) ∧
        path.IsChain (fun b c => b.canMove c = true) ∧
        path.getLast? = (s.afterAll cs).get? k := by
  induction cs generalizing s with
  | nil => exact ⟨[], by rw [trail, h]; rfl, by simp, .nil, h.symm⟩
  | cons c cs ih =>
    rw [trail]
    by_cases stays : (s.after c).get? k = s.get? k
    · rw [if_pos stays]
      exact ih (stays.trans h)
    · rw [if_neg stays]
      have next := (get?_after s c k).resolve_left stays
      rw [h] at next ⊢
      generalize reached : (s.after c).get? k = x at next
      cases next
      obtain ⟨path, visited, chain, last⟩ := exists_path_of_known reached cs
      exact ⟨.unregistered :: path, by rw [visited], by simp, chain, last⟩

/-- An instance that leaves the gate comes back to where it started; a stale move is not seen. -/
example : let k : InstanceKey := ⟨"default", "echo", "127.0.0.1", 8080⟩
    trail k .empty [.begin k, .move k .unregistered .gating, .move k .registering .registered,
      .move k .gating .unregistered, .begin k] =
      [none, some .unregistered, some .gating, some .unregistered] := by
  decide +kernel

/-! ## Histories -/

/-- What a move answers for an instance, and where it takes it. -/
structure Moves (s : RegistrationStates) (k : InstanceKey) (a b : RegistrationState) : Prop where
  accepted : s.answer (.move k a b) = .ok () ↔ s.get? k = some a ∧ a.canMove b = true
  leaves : s.answer (.move k a b) = .ok () → (s.after (.move k a b)).get? k = some b
  /-- No edge leads back to where it starts, so that an accepted move can be seen. -/
  changes : s.answer (.move k a b) = .ok () → (s.after (.move k a b)).get? k ≠ s.get? k
  unknown : s.get? k = none → s.answer (.move k a b) = .error (.instanceUnknown k.text)
  /-- Where there is no edge, the state is named that was asked for. -/
  edgeless : ∀ c, s.get? k = some c → a.canMove b = false →
    s.answer (.move k a b) = .error (.invalidTransition k.text a b)
  /-- Where there is one, the state is named that the instance is in. -/
  stale : ∀ c, s.get? k = some c → a.canMove b = true → c ≠ a →
    s.answer (.move k a b) = .error (.invalidTransition k.text c b)

/-- What a fresh attempt answers for an instance, and where it takes it. -/
structure Begins (s : RegistrationStates) (k : InstanceKey) : Prop where
  accepted : s.answer (.begin k) = .ok () ↔
    s.get? k = none ∨ s.get? k = some .unregistered ∨ s.get? k = some .deregistered
  leaves : s.answer (.begin k) = .ok () → (s.after (.begin k)).get? k = some .unregistered
  busy : ∀ c, s.get? k = some c → c ≠ .unregistered → c ≠ .deregistered →
    s.answer (.begin k) = .error (.invalidTransition k.text c .unregistered)

theorem moves (s : RegistrationStates) (k : InstanceKey) (a b : RegistrationState) :
    Moves s k a b where
  accepted := answer_move_eq_ok_iff
  leaves answered := by rw [get?_after_move answered, if_pos rfl]
  changes answered := by
    obtain ⟨stood, edge⟩ := answer_move_eq_ok_iff.mp answered
    rw [get?_after_move answered, if_pos rfl, stood]
    rintro ⟨⟩
    rw [RegistrationState.canMove_self] at edge
    cases edge
  unknown h := by simp [answer, perform, settle, move, h]
  edgeless c h edge := by simp [answer, perform, settle, move, h, edge]
  stale c h edge other := by simp [answer, perform, settle, move, h, edge, other]

theorem begins (s : RegistrationStates) (k : InstanceKey) : Begins s k where
  accepted := answer_begin_eq_ok_iff
  leaves answered := by rw [get?_after_begin answered, if_pos rfl]
  busy c h unregistered retracted := by
    rw [answer, perform_begin, begin, h]
    cases c <;> first | rfl | contradiction

/-- What holds of the states after calls, one after another, since no instance was known. -/
structure History (cs : List Call) : Prop where
  /-- Each instance was unknown at first and went from unregistered along edges of the graph to the
  state that it is found in, if it became known. -/
  path : ∀ k, ∃ path : List RegistrationState,
    trail k .empty cs = none :: path.map some ∧ (∀ a ∈ path.head?, a = .unregistered) ∧
      path.IsChain (fun a b => a.canMove b = true) ∧
      path.getLast? = (afterAll .empty cs).get? k
  /-- A call that is refused changes nothing. -/
  refused : ∀ c e, (afterAll .empty cs).answer c = .error e →
    (afterAll .empty cs).after c = afterAll .empty cs
  /-- One that is accepted changes nothing but the state of its instance. -/
  others : ∀ c j, j ≠ c.key →
    ((afterAll .empty cs).after c).get? j = (afterAll .empty cs).get? j
  moves : ∀ k a b, Moves (afterAll .empty cs) k a b
  begins : ∀ k, Begins (afterAll .empty cs) k

/-- Whatever calls are made, the states of each instance form a path along the edges of the graph
that starts unregistered; a call is accepted exactly where it may go on, and a refused one names
what is in its way and changes nothing. -/
theorem keeps_history (cs : List Call) : History cs where
  path k := exists_path_of_unknown (Table.get?_empty k) cs
  refused _ _ := after_of_refused
  others _ _ := get?_after_of_ne
  moves := moves _
  begins := begins _

end InstanceLifecycle.RegistrationStates
