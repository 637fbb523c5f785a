import InstanceLifecycle.Proofs.Traffic.Basic

/-!
# Where calls leave instances

A step of a call either leaves all states as they are or moves its own instance, and then the stage
that it comes to says where the instance stands. What the step is depends on where the instance
stood: a call goes on exactly if its stage admits that state.

Results:

* `Register.resume_settles`, `Register.resume_refused`: a registration goes on where its stage
  admits the state of the instance, and else is refused and moves nothing;
* `Deregister.start_settles`, `Deregister.start_idle`: a call to retract an instance moves it
  exactly if it is registered;
* `Deregister.resume_settles`: a retraction that was answered moves its instance on.
-/

namespace InstanceLifecycle

/-! ## States -/

namespace RegistrationState

/-- Whether a call stands behind a state and will move the instance on. -/
def isTransient : RegistrationState → Bool
  | gating => true
  | registering => true
  | deregistering => true
  | _ => false

end RegistrationState

namespace Controller

@[simp]
theorem state?_mk (g : GracefulSettings) (s : RegistrationStates)
    (ps : Table InstanceKey PolicySummary) (server : ProbeServer) (k : InstanceKey) :
    (Controller.mk g s ps server).state? k = s.get? k := rfl

/-- A move along an edge goes on if the instance stands at its origin, and else is refused. -/
theorem moving_eq {σ : Type} (c : Controller) (k : InstanceKey) {a b : RegistrationState}
    (h : a.canMove b = true) (refused : TransitionError → σ) (next : Controller → Step σ) :
    c.moving k a b refused next =
      if c.state? k = some a then
        (next { c with states := c.states.insert k b }).after [.moved k a b]
      else
        ⟨c, refused (match c.state? k with
          | none => .instanceUnknown k.text
          | some x => .invalidTransition k.text x b), []⟩ := by
  unfold moving RegistrationStates.move state?
  cases c.states.get? k with
  | none => simp
  | some x => by_cases hx : x = a <;> simp [h, hx]

/-- A step from a controller has moved one instance to one of some states and no other instance, and
the stage that it came to says where. -/
def Settles {σ : Type} (c : Controller) (k : InstanceKey) (place? : σ → Option RegistrationState)
    (targets : List RegistrationState) (s : Step σ) : Prop :=
  ∃ b ∈ targets, place? s.stage = some b ∧
    ∀ j, s.controller.state? j = if j = k then some b else c.state? j

section Settles

variable {σ : Type} {c : Controller} {k : InstanceKey} {place? : σ → Option RegistrationState}
  {targets : List RegistrationState}

@[simp]
theorem settles_after (fx : List Effect) (s : Step σ) :
    c.Settles k place? targets (s.after fx) ↔ c.Settles k place? targets s := Iff.rfl

/-- More states may be named. -/
theorem Settles.mono {s : Step σ} (h : c.Settles k place? targets s) {more : List RegistrationState}
    (hm : targets ⊆ more) : c.Settles k place? more s := by
  obtain ⟨b, hb, hp, hs⟩ := h
  exact ⟨b, hm hb, hp, hs⟩

/-- What a step from a moved instance settles, it settles from where the instance was before. -/
theorem Settles.of_states (states : RegistrationStates) {b : RegistrationState} {s : Step σ}
    (hb : ∀ j, states.get? j = if j = k then some b else c.state? j)
    (h : Settles { c with states } k place? targets s) : c.Settles k place? targets s := by
  obtain ⟨b', hb', hp, hs⟩ := h
  refine ⟨b', hb', hp, fun j => ?_⟩
  rw [hs j, state?_mk, hb j]
  split <;> rfl

/-- A move along an edge from where the instance stands settles it at the other end, if the step
that follows comes to a stage that says so. -/
theorem settles_moving {a b : RegistrationState} (hc : c.state? k = some a)
    (h : a.canMove b = true) (refused : TransitionError → σ) {next : Controller → Step σ}
    (hn : ∀ d : Controller, (next d).controller = d ∧ place? (next d).stage = some b)
    (hb : b ∈ targets) : c.Settles k place? targets (c.moving k a b refused next) := by
  rw [moving_eq c k h, if_pos hc, settles_after]
  obtain ⟨hd, hp⟩ := hn { c with states := c.states.insert k b }
  refine ⟨b, hb, hp, fun j => ?_⟩
  rw [hd]
  exact Table.get?_insert ..

end Settles

end Controller

/-! ## Registrations -/

namespace RegisterStage

/-- Where a call leaves its instance when it comes to a stage, if it has moved it. -/
@[simp]
def place? : RegisterStage → Option RegistrationState
  | lookup => none
  | binding _ => some .unregistered
  | gating .. => some .gating
  | registering _ => some .registering
  | done (.ok _) => some .registered
  | done (.error (.transition _)) => none
  | done (.error _) => some .unregistered

/-- Whether a call at a stage can go on where its instance stands. -/
@[simp]
def admits : RegisterStage → Option RegistrationState → Prop
  | lookup, x => x = none ∨ x = some .unregistered ∨ x = some .deregistered
  | binding _, x => x = some .unregistered
  | gating .., x => x = some .gating
  | registering _, x => x = some .registering
  | done _, _ => False

end RegisterStage

namespace Register

/-- The states in which a call can leave its instance before the registrar has answered. -/
def early : List RegistrationState := [.unregistered, .gating, .registering]

section Steps

variable {c : Controller} {i : Instance} {p : Policy}

theorem callRegistrar_settles {origin : RegistrationState} (hc : c.state? i.key = some origin)
    (ho : origin.canMove .registering = true) :
    c.Settles i.key RegisterStage.place? early (callRegistrar c i p origin) :=
  Controller.settles_moving hc ho _ (fun _ => ⟨rfl, rfl⟩) (by decide)

theorem followGate_settles (hc : c.state? i.key = some .gating) (g : GateStage) :
    c.Settles i.key RegisterStage.place? early (followGate c i p g) := by
  have stay (g : GateStage) : c.Settles i.key RegisterStage.place? early ⟨c, .gating p g, []⟩ := by
    refine ⟨.gating, by decide, rfl, fun j => ?_⟩
    split
    · next hj => rw [hj, hc]
    · rfl
  unfold followGate
  split
  · exact (Controller.settles_after ..).mpr (callRegistrar_settles hc rfl)
  · exact Controller.settles_moving hc rfl _ (fun _ => ⟨rfl, rfl⟩) (by decide)
  · exact stay g

theorem announce_settles (hc : c.state? i.key = some .unregistered) (now : Nat) :
    c.Settles i.key RegisterStage.place? early (announce c i p now) := by
  unfold announce
  rw [Controller.settles_after]
  split
  · rw [Controller.moving_eq _ _ rfl, if_pos hc, Controller.settles_after]
    refine Controller.Settles.of_states (c.states.insert i.key .gating)
      (fun j => Table.get?_insert ..) ?_
    exact (Controller.settles_after ..).mpr (followGate_settles (by simp) _)
  · exact callRegistrar_settles hc rfl

theorem followBinding_settles (hc : c.state? i.key = some .unregistered) (now : Nat)
    (binding : Except String String) :
    c.Settles i.key RegisterStage.place? early (followBinding c i p now binding) := by
  unfold followBinding
  rcases c.server.run binding with ⟨server, a | e⟩ <;>
    exact announce_settles (c := { c with server }) hc now

theorem startProbes_settles (hc : c.state? i.key = some .unregistered) (now : Nat) :
    c.Settles i.key RegisterStage.place? early (startProbes c i p now) := by
  unfold startProbes
  split
  · exact followBinding_settles hc now _
  · refine ⟨.unregistered, by decide, rfl, fun j => ?_⟩
    split
    · next hj => rw [hj, hc]
    · rfl

/-- Installing a handler moves nothing; a refusal ends the call where the instance stands. -/
theorem installing_settles (hc : c.state? i.key = some .unregistered) {e : EndpointPolicy}
    {h : Handler} {next : Controller → Step RegisterStage}
    (hn : ∀ server, Controller.Settles { c with server } i.key RegisterStage.place? early
      (next { c with server })) :
    c.Settles i.key RegisterStage.place? early (c.installing e h refuseProbe next) := by
  unfold Controller.installing
  split
  · split
    · next server _ => exact hn server
    · refine ⟨.unregistered, by decide, rfl, fun j => ?_⟩
      split
      · next hj => rw [hj, hc]
      · rfl
  · exact hn c.server

theorem installProbes_settles (hc : c.state? i.key = some .unregistered) (now : Nat) :
    c.Settles i.key RegisterStage.place? early (installProbes c i p now) := by
  unfold installProbes
  split
  · refine installing_settles hc fun server => ?_
    refine installing_settles (c := { c with server }) hc fun server => ?_
    exact startProbes_settles (c := { c with server }) hc now
  · exact announce_settles hc now

/-- A fresh attempt begins exactly where a lookup is admitted. -/
theorem begin_states (hc : RegisterStage.lookup.admits (c.state? i.key)) :
    ∃ states, c.states.begin i.key = .ok states ∧
      ∀ j, states.get? j = if j = i.key then some .unregistered else c.state? j := by
  have key : ∃ states, c.states.begin i.key = .ok states := by
    unfold Controller.state? at hc
    unfold RegistrationStates.begin RegistrationStates.move
    split <;> simp_all [RegistrationState.canMove]
  obtain ⟨states, hs⟩ := key
  exact ⟨states, hs, RegistrationStates.get?_of_begin hs⟩

theorem begin_settles (hc : RegisterStage.lookup.admits (c.state? i.key)) (now : Nat) :
    c.Settles i.key RegisterStage.place? early (begin c i p now) := by
  obtain ⟨states, hs, hj⟩ := begin_states hc
  have fresh : Controller.state? { c with states } i.key = some .unregistered := by
    simp [hj]
  simp only [begin, hs, Controller.settles_after]
  refine Controller.Settles.of_states states hj ?_
  split
  · exact installProbes_settles
      (c := { c with states, summaries := c.summaries.insert i.key p.summary }) fresh now
  · exact callRegistrar_settles fresh rfl

theorem succeed_settles (hc : c.state? i.key = some .registering) (r : Registration) :
    c.Settles i.key RegisterStage.place? [.registered] (succeed c i p r) :=
  Controller.settles_moving hc rfl _ (fun _ => ⟨rfl, rfl⟩) (by decide)

theorem fail_settles (hc : c.state? i.key = some .registering) (f : Failure) :
    c.Settles i.key RegisterStage.place? [.unregistered] (fail c i f) :=
  Controller.settles_moving hc rfl _ (fun _ => ⟨rfl, rfl⟩) (by decide)

/-! ### Refusals -/

theorem begin_refused (hc : ¬RegisterStage.lookup.admits (c.state? i.key)) (now : Nat) :
    ∃ e, begin c i p now = ⟨c, refuseMove e, []⟩ := by
  have key : ∃ e, c.states.begin i.key = .error e := by
    unfold Controller.state? at hc
    unfold RegistrationStates.begin
    split <;> simp_all
  obtain ⟨e, he⟩ := key
  exact ⟨e, by simp [begin, he]⟩

theorem announce_refused (hc : c.state? i.key ≠ some .unregistered) (now : Nat) :
    ∃ e, announce c i p now = ⟨c, refuseMove e, [c.event .onlineStart i]⟩ := by
  unfold announce callRegistrar
  rw [Controller.moving_eq _ _ rfl, Controller.moving_eq _ _ rfl, if_neg hc]
  split <;> exact ⟨_, rfl⟩

theorem followBinding_refused (hc : c.state? i.key ≠ some .unregistered) (now : Nat)
    (binding : Except String String) :
    (followBinding c i p now binding).controller.states = c.states ∧
      ∃ e, (followBinding c i p now binding).stage = refuseMove e := by
  unfold followBinding
  rcases c.server.run binding with ⟨server, a | e⟩
  all_goals
    obtain ⟨e, he⟩ := announce_refused (c := { c with server }) (p := p) hc now
    simp only [he]
    exact ⟨rfl, e, rfl⟩

end Steps

/-! ### Answers -/

section Resume

variable {c : Controller} {i : Instance} {stage : RegisterStage} {a : RegisterAnswer}

/-- Before the registrar has answered, a call that is admitted goes on and moves its instance. -/
theorem resume_settles (ha : stage.awaits a = true) (hc : stage.admits (c.state? i.key))
    (hr : ∀ r, a ≠ .registered r) (now : Nat) :
    c.Settles i.key RegisterStage.place? early (resume c i stage a now) := by
  cases stage with
  | lookup =>
    obtain ⟨r, rfl⟩ := RegisterStage.eq_rule_of_awaits ha
    exact begin_settles hc now
  | binding p =>
    obtain ⟨r, rfl⟩ := RegisterStage.eq_bound_of_awaits ha
    exact followBinding_settles hc now r
  | gating p g =>
    obtain ⟨b, rfl⟩ := RegisterStage.eq_gate_of_awaits ha
    exact followGate_settles hc _
  | registering p =>
    obtain ⟨r, rfl⟩ := RegisterStage.eq_registered_of_awaits ha
    exact absurd rfl (hr r)
  | done r => exact hc.elim

/-- When the registrar has accepted an instance, it is registered. -/
theorem resume_registered_ok {p : Policy} (hc : c.state? i.key = some .registering)
    (r : Registration) (now : Nat) :
    c.Settles i.key RegisterStage.place? [.registered]
      (resume c i (.registering p) (.registered (.ok r)) now) :=
  succeed_settles hc r

/-- When the registrar has refused an instance, it is unregistered. -/
theorem resume_registered_error {p : Policy} (hc : c.state? i.key = some .registering)
    (f : Failure) (now : Nat) :
    c.Settles i.key RegisterStage.place? [.unregistered]
      (resume c i (.registering p) (.registered (.error f)) now) :=
  fail_settles hc f

/-- A call that is admitted leaves its instance where the stage that it comes to says. -/
theorem resume_place (ha : stage.awaits a = true) (hc : stage.admits (c.state? i.key)) (now : Nat) :
    ∃ b, (resume c i stage a now).stage.place? = some b ∧
      (resume c i stage a now).controller.state? i.key = some b := by
  have of_settles {targets : List RegistrationState}
      (h : c.Settles i.key RegisterStage.place? targets (resume c i stage a now)) :
      ∃ b, (resume c i stage a now).stage.place? = some b ∧
        (resume c i stage a now).controller.state? i.key = some b := by
    obtain ⟨b, -, hp, hs⟩ := h
    exact ⟨b, hp, (hs i.key).trans (if_pos rfl)⟩
  cases a with
  | registered r =>
    obtain ⟨p, rfl⟩ := RegisterStage.eq_registering_of_awaits ha
    cases r with
    | ok r => exact of_settles (resume_registered_ok hc r now)
    | error f => exact of_settles (resume_registered_error hc f now)
  | _ => exact of_settles (resume_settles ha hc (by simp) now)

/-- A call that is not admitted is refused and moves nothing. -/
theorem resume_refused (ha : stage.awaits a = true) (hs : stage = .lookup ∨ ∃ p, stage = .binding p)
    (hc : ¬stage.admits (c.state? i.key)) (now : Nat) :
    (resume c i stage a now).controller.states = c.states ∧
      ∃ e, (resume c i stage a now).stage = refuseMove e := by
  rcases hs with rfl | ⟨p, rfl⟩
  · obtain ⟨r, rfl⟩ := RegisterStage.eq_rule_of_awaits ha
    obtain ⟨e, he⟩ := begin_refused (p := c.policyFor r) hc now
    simp only [resume, he]
    exact ⟨rfl, e, rfl⟩
  · obtain ⟨r, rfl⟩ := RegisterStage.eq_bound_of_awaits ha
    exact followBinding_refused hc now r

end Resume

end Register

/-! ## Retractions -/

/-- Where a call leaves its instance when it comes to a stage, if it has moved it. -/
@[simp]
def DeregisterStage.place? : DeregisterStage → Option RegistrationState
  | retracting => some .deregistering
  | done (.ok .deregistered) => some .deregistered
  | done (.error (.deregistration ..)) => some .registered
  | done _ => none

namespace Deregister

variable {c : Controller} {i : Instance}

theorem start_settles (hc : c.state? i.key = some .registered) :
    c.Settles i.key DeregisterStage.place? [.deregistering] (start c i) := by
  simp only [start, hc]
  exact Controller.settles_moving hc rfl _ (fun _ => ⟨rfl, rfl⟩) (by decide)

/-- A call for a registered instance asks the registrar. -/
theorem start_registered (hc : c.state? i.key = some .registered) :
    (start c i).stage = .retracting := by
  unfold start
  rw [hc]
  show (Controller.moving _ _ _ _ _ _).stage = _
  rw [Controller.moving_eq _ _ rfl, if_pos hc]
  rfl

theorem start_idle (hc : c.state? i.key ≠ some .registered) :
    (start c i).controller = c ∧ (start c i).stage.place? = none := by
  unfold start
  split
  · exact ⟨rfl, rfl⟩
  · exact ⟨rfl, rfl⟩
  · rw [Controller.moving_eq _ _ rfl, if_neg hc]
    exact ⟨rfl, rfl⟩

/-- When the registrar has retracted an instance, it is deregistered. -/
theorem resume_ok (hc : c.state? i.key = some .deregistering) (u : Unit) :
    c.Settles i.key DeregisterStage.place? [.deregistered] (resume c i .retracting (.ok u)) :=
  Controller.settles_moving hc rfl _ (fun _ => ⟨rfl, rfl⟩) (by decide)

/-- When the registrar has refused to retract an instance, it stays registered. -/
theorem resume_error (hc : c.state? i.key = some .deregistering) (f : Failure) :
    c.Settles i.key DeregisterStage.place? [.registered] (resume c i .retracting (.error f)) :=
  Controller.settles_moving hc rfl _ (fun _ => ⟨rfl, rfl⟩) (by decide)

end Deregister

/-! ## Calls -/

namespace Traffic

/-- Where a call leaves its instance when it comes to a stage, if it has moved it. -/
@[simp]
def Stage.place? : Stage → Option RegistrationState
  | register s => s.place?
  | deregister _ s => s.place?
  | _ => none

/-- The state that a call at a stage holds for its instance. -/
def Stage.held (s : Stage) : Option RegistrationState := s.place?.filter (·.isTransient)

/-- A call to the registrar. -/
inductive RegistrarAct
  | register
  | deregister
  deriving DecidableEq, Repr

/-- The call to the registrar that an answer says has succeeded. -/
def Answer.success? : Answer → Option RegistrarAct
  | register (.registered (.ok _)) => some .register
  | retracted (.ok _) => some .deregister
  | _ => none

end Traffic

/-- Whether the registry lists an instance in this state. -/
def RegistrationState.isListed : RegistrationState → Bool
  | registered => true
  | deregistering => true
  | _ => false

/-- Whether the registry lists an instance. -/
def Controller.lists (c : Controller) (k : InstanceKey) : Bool := (c.state? k).any (·.isListed)

namespace Traffic

/-- What becomes of the listing of an instance: it changes exactly with a successful call to the
registrar, and the call is one that can change it. -/
def Relists (before : Bool) : Option RegistrarAct → Bool → Prop
  | none, after => after = before
  | some .register, after => before = false ∧ after = true
  | some .deregister, after => before = true ∧ after = false

namespace Call

/-- A call that holds a state for its instance finds it there. -/
def Owns (x : Call) (c : Controller) : Prop :=
  ∀ s, x.stage.held = some s → c.state? x.inst.key = some s

end Call

/-- What a step of a call for the instance `k` does to where instances stand, if the call held a
state before and is told of this success: it leaves all states as they are and then holds none, or
it moves its instance on from where no other call holds it. -/
inductive Turn (k : InstanceKey) (held : Option RegistrationState) (c : Controller)
    (success? : Option RegistrarAct) (s : Step Stage) : Prop
  | refused (free : held = none) (states : s.controller.states = c.states)
      (place? : s.stage.place? = none) (quiet : success? = none)
  | moved (b : RegistrationState) (own : held = (c.state? k).filter (·.isTransient))
      (place? : s.stage.place? = some b)
      (state? : ∀ j, s.controller.state? j = if j = k then some b else c.state? j)
      (relists : Relists (c.lists k) success? b.isListed)

namespace Call

/-- An admitted state is held by the call alone. -/
theorem held_of_admits {s : RegisterStage} {x : Option RegistrationState} (h : s.admits x) :
    (Stage.register s).held = x.filter (·.isTransient) := by
  cases s <;> simp only [RegisterStage.admits] at h
  case lookup => rcases h with rfl | rfl | rfl <;> rfl
  all_goals rw [h]; rfl

/-- An instance in an admitted state is not listed. -/
theorem lists_of_admits {s : RegisterStage} {c : Controller} {k : InstanceKey}
    (h : s.admits (c.state? k)) : c.lists k = false := by
  unfold Controller.lists
  cases s <;> simp only [RegisterStage.admits] at h
  case lookup => rcases h with h | h | h <;> rw [h] <;> rfl
  all_goals rw [h]; rfl

theorem isListed_of_mem_early {b : RegistrationState} (h : b ∈ Register.early) :
    b.isListed = false := by
  revert h
  cases b <;> decide

/-- The answer of the registrar moves its instance on. -/
theorem turn_registered {i : Instance} {p : Policy} {since : Nat} {c : Controller}
    (hc : c.state? i.key = some .registering) (r : Except Failure Registration) (now : Nat) :
    Turn i.key (Stage.register (.registering p)).held c (Answer.register (.registered r)).success?
      (resume ⟨i, .register (.registering p), since⟩ c (.register (.registered r)) now) := by
  have hs : (RegisterStage.registering p).admits (c.state? i.key) := hc
  cases r with
  | ok r =>
    obtain ⟨b, hb, hp, hj⟩ := Register.resume_registered_ok (p := p) hc r now
    obtain rfl := List.mem_singleton.mp hb
    exact .moved _ (held_of_admits hs) hp hj ⟨lists_of_admits hs, rfl⟩
  | error f =>
    obtain ⟨b, hb, hp, hj⟩ := Register.resume_registered_error (p := p) hc f now
    obtain rfl := List.mem_singleton.mp hb
    exact .moved _ (held_of_admits hs) hp hj (lists_of_admits hs).symm

/-- Every other answer moves the instance on as long as the call is admitted. -/
theorem turn_admitted {i : Instance} {s : RegisterStage} {since : Nat} {c : Controller}
    {a : RegisterAnswer} (ha : s.awaits a = true) (hc : s.admits (c.state? i.key))
    (hr : ∀ r, a ≠ .registered r) (now : Nat) :
    Turn i.key (Stage.register s).held c (Answer.register a).success?
      (resume ⟨i, .register s, since⟩ c (.register a) now) := by
  obtain ⟨b, hb, hp, hs⟩ := Register.resume_settles ha hc hr now
  refine .moved b (held_of_admits hc) hp hs ?_
  have quiet : (Answer.register a).success? = none := by
    cases a with
    | registered r => exact absurd rfl (hr r)
    | _ => rfl
  rw [quiet]
  exact (isListed_of_mem_early hb).trans (lists_of_admits hc).symm

/-- A call that is not admitted any more is refused. -/
theorem turn_refused {i : Instance} {s : RegisterStage} {since : Nat} {c : Controller}
    {a : RegisterAnswer} (ha : s.awaits a = true) (hx : Owns ⟨i, .register s, since⟩ c)
    (hc : ¬s.admits (c.state? i.key)) (now : Nat) :
    Turn i.key (Stage.register s).held c (Answer.register a).success?
      (resume ⟨i, .register s, since⟩ c (.register a) now) := by
  -- A call that holds a state is admitted, so only a lookup or a listener can come too late.
  have early : s = .lookup ∨ ∃ p, s = .binding p := by
    cases s with
    | lookup => exact .inl rfl
    | binding p => exact .inr ⟨p, rfl⟩
    | gating p g => exact absurd (hx .gating rfl) hc
    | registering p => exact absurd (hx .registering rfl) hc
    | done r => cases ha
  obtain ⟨hs, e, he⟩ := Register.resume_refused ha early hc now
  have place : (Register.resume c i s a now).stage.place? = none := congrArg RegisterStage.place? he
  rcases early with rfl | ⟨p, rfl⟩
  · obtain ⟨r, rfl⟩ := RegisterStage.eq_rule_of_awaits ha
    exact .refused rfl hs place rfl
  · obtain ⟨r, rfl⟩ := RegisterStage.eq_bound_of_awaits ha
    exact .refused rfl hs place rfl

theorem turn_register {i : Instance} {s : RegisterStage} {since : Nat} {c : Controller}
    {a : RegisterAnswer} (ha : s.awaits a = true) (hx : Owns ⟨i, .register s, since⟩ c) (now : Nat) :
    Turn i.key (Stage.register s).held c (Answer.register a).success?
      (resume ⟨i, .register s, since⟩ c (.register a) now) := by
  by_cases hc : s.admits (c.state? i.key)
  · by_cases hr : ∃ r, a = .registered r
    · obtain ⟨r, rfl⟩ := hr
      obtain ⟨p, rfl⟩ := RegisterStage.eq_registering_of_awaits ha
      exact turn_registered hc r now
    · exact turn_admitted ha hc (fun r h => hr ⟨r, h⟩) now
  · exact turn_refused ha hx hc now

theorem turn_deregister {i : Instance} {isProbe : Bool} {since : Nat} {c : Controller}
    (hx : Owns ⟨i, .deregister isProbe .retracting, since⟩ c) (r : Except Failure Unit) (now : Nat) :
    Turn i.key (Stage.deregister isProbe .retracting).held c (Answer.retracted r).success?
      (resume ⟨i, .deregister isProbe .retracting, since⟩ c (.retracted r) now) := by
  have hc : c.state? i.key = some .deregistering := hx .deregistering rfl
  have held : (Stage.deregister isProbe .retracting).held =
      (c.state? i.key).filter (·.isTransient) := by rw [hc]; rfl
  have listed : c.lists i.key = true := by simp [Controller.lists, hc, RegistrationState.isListed]
  cases r with
  | ok u =>
    obtain ⟨b, hb, hp, hs⟩ := Deregister.resume_ok hc u
    obtain rfl := List.mem_singleton.mp hb
    exact .moved _ held hp hs ⟨listed, rfl⟩
  | error f =>
    obtain ⟨b, hb, hp, hs⟩ := Deregister.resume_error hc f
    obtain rfl := List.mem_singleton.mp hb
    exact .moved _ held hp hs listed.symm

/-- What a step of a call does to where instances stand. -/
theorem turn_resume {x : Call} {c : Controller} {a : Answer} (ha : x.stage.awaits a = true)
    (hx : x.Owns c) (now : Nat) :
    Turn x.inst.key x.stage.held c a.success? (x.resume c a now) := by
  obtain ⟨i, stage, since⟩ := x
  cases stage with
  | register s =>
    cases a with
    | register a => exact turn_register ha hx now
    | _ => simp [Stage.awaits] at ha
  | deregister isProbe s =>
    cases s with
    | retracting =>
      cases a with
      | retracted r => exact turn_deregister hx r now
      | _ => simp [Stage.awaits] at ha
    | done r => cases a <;> simp [Stage.awaits] at ha
  | warmup d =>
    cases a with
    | timer isInterrupted => exact .refused rfl rfl rfl rfl
    | _ => simp [Stage.awaits] at ha
  | warmed => simp [Stage.awaits] at ha

end Call

/-- A call that registers an instance starts without moving it. -/
theorem turn_lookup (k : InstanceKey) (c : Controller) :
    Turn k none c none ⟨c, .register .lookup, []⟩ := .refused rfl rfl rfl rfl

/-- A call that retracts an instance moves it at once or not at all. -/
theorem turn_start (c : Controller) (i : Instance) (isProbe : Bool) :
    Turn i.key none c none (ofDeregister i isProbe (Deregister.start c i)) := by
  by_cases hc : c.state? i.key = some .registered
  · obtain ⟨b, hb, hp, hs⟩ := Deregister.start_settles hc
    obtain rfl := List.mem_singleton.mp hb
    refine .moved _ ?_ hp hs ?_
    · rw [hc]; rfl
    · simp [Relists, Controller.lists, hc, RegistrationState.isListed]
  · obtain ⟨hs, hp⟩ := Deregister.start_idle hc
    exact .refused rfl (congrArg Controller.states hs) hp rfl

end Traffic

end InstanceLifecycle
