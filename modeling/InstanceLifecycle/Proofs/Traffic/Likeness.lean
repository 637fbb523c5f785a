import InstanceLifecycle.Proofs.Traffic.Reports

/-!
# Steps from controllers that are alike

A call reads the settings and what a controller keeps for its instance, and from the probe server
only whether it is bound. So controllers may differ in all the rest, and in the listener, too, if a
call that comes to it is answered at once: the steps of the call lead to the same stage with the
same effects, but for what is said about the server. What else the controllers agree in, and which
effects are compared, is left open here; a likeness names both, and says that it is kept by all that
the call writes. A property of one controller that is kept in this way is a case of it.

Results:

* `Likeness.moved`, `Likeness.begun`: a change of state is refused at both controllers or at
  neither, and keeps them alike;
* `Register.matches_resume`, `Deregister.matches_start`, `Deregister.matches_resume`: the steps of a
  call at controllers that are alike match;
* `matches_call`: the steps of any call at controllers that are alike match;
* `Invariant.call`, `Invariant.start`: what all that a call writes keeps, the call keeps.
-/

namespace InstanceLifecycle

/-! ## Likeness -/

/-- A relation of controllers that agree in what the calls for an instance read, and effects that
are compared. Whatever such a call writes keeps it. -/
structure Likeness (k : InstanceKey) where
  Like : Controller → Controller → Prop
  /-- Whether an effect is compared. -/
  shows : Effect → Bool
  /-- Whether a call that comes to the listener is answered before any other call goes on. If not,
  it matters which of the controllers is bound. -/
  isPrompt : Bool
  /-- What the two listeners may come to. -/
  Allows : Except String String → Except String String → Prop
  settings {c d : Controller} : Like c d → c.settings = d.settings
  states {c d : Controller} : Like c d → c.states.get? k = d.states.get? k
  summaries {c d : Controller} : Like c d → c.summaries.get? k = d.summaries.get? k
  address {c d : Controller} : Like c d → isPrompt = false → c.server.address = d.server.address
  insert_state {c d : Controller} (h : Like c d) (s : RegistrationState) :
    Like { c with states := c.states.insert k s } { d with states := d.states.insert k s }
  insert_summary {c d : Controller} (h : Like c d) (p : PolicySummary) :
    Like { c with summaries := c.summaries.insert k p }
      { d with summaries := d.summaries.insert k p }
  insert_route {c d : Controller} (h : Like c d) (path : String) (handler : Handler) :
    Like { c with server := { c.server with routes := c.server.routes.insert path handler } }
      { d with server := { d.server with routes := d.server.routes.insert path handler } }
  run {c d : Controller} {binding binding' : Except String String} (h : Like c d)
    (allowed : Allows binding binding') :
    Like { c with server := (c.server.run binding).1 }
      { d with server := (d.server.run binding').1 }
  shows_log (e : Log.Entry) : shows (.log e) = false
  shows_bindFailure (n : Nat) : shows (.count .probeBindFailure n) = false
  shows_installed {c d : Controller} (h : Like c d) (path : String) :
    [Effect.installed path (c.server.has path)].filter shows =
      [Effect.installed path (d.server.has path)].filter shows

namespace Likeness

section States

variable {k : InstanceKey} (L : Likeness k) {c d : Controller} (h : L.Like c d)
include h

/-- A change of state is refused at both controllers or at neither, and keeps them alike. -/
theorem moved (a b : RegistrationState) :
    (∃ e, c.states.move k a b = .error e ∧ d.states.move k a b = .error e) ∨
      ∃ states states', c.states.move k a b = .ok states ∧ d.states.move k a b = .ok states' ∧
        L.Like { c with states } { d with states := states' } := by
  unfold RegistrationStates.move
  rw [← L.states h]
  split
  · exact .inl ⟨_, rfl, rfl⟩
  · split
    · split
      · exact .inr ⟨_, _, rfl, rfl, L.insert_state h b⟩
      · exact .inl ⟨_, rfl, rfl⟩
    · exact .inl ⟨_, rfl, rfl⟩

/-- A fresh attempt is refused at both controllers or at neither, and keeps them alike. -/
theorem begun :
    (∃ e, c.states.begin k = .error e ∧ d.states.begin k = .error e) ∨
      ∃ states states', c.states.begin k = .ok states ∧ d.states.begin k = .ok states' ∧
        L.Like { c with states } { d with states := states' } := by
  unfold RegistrationStates.begin
  rw [← L.states h]
  split
  · exact .inr ⟨_, _, rfl, rfl, L.insert_state h _⟩
  · exact .inr ⟨_, _, rfl, rfl, h⟩
  · exact L.moved h _ _
  · exact .inl ⟨_, rfl, rfl⟩

end States

theorem event {i : Instance} (L : Likeness i.key) {c d : Controller} (h : L.Like c d)
    (kind : EventKind) : c.event kind i = d.event kind i := by
  unfold Controller.event
  rw [L.summaries h]

section Silence

variable {k : InstanceKey} (L : Likeness k)

/-- What is only logged is not compared. -/
theorem filter_logs (es : List Log.Entry) : (es.map Effect.log).filter L.shows = [] := by
  rw [List.filter_eq_nil_iff]
  intro x hx
  obtain ⟨e, -, rfl⟩ := List.mem_map.mp hx
  simp [L.shows_log]

theorem filter_policyEffects (c : Controller) (i : Instance)
    (r : Except Failure (Option RemoteRule)) : (c.policyEffects i r).filter L.shows = [] := by
  cases r with
  | ok remote => exact L.filter_logs _
  | error f =>
    unfold Controller.policyEffects Controller.entry
    rw [List.filter_cons_of_neg (by simp [L.shows_log])]
    exact L.filter_logs _

end Silence

/-- Two steps that lead to the same stage with the same effects, as far as these are compared, and
leave controllers behind that are alike. -/
structure Matches {k : InstanceKey} (L : Likeness k) {σ : Type} (s s' : Step σ) : Prop where
  controller : L.Like s.controller s'.controller
  stage : s.stage = s'.stage
  effects : s.effects.filter L.shows = s'.effects.filter L.shows

end Likeness

namespace Step

variable {k : InstanceKey} {L : Likeness k} {σ : Type} {s s' : Step σ} {c d : Controller}

theorem matches_after (h : L.Matches s s') {fx fx' : List Effect}
    (hf : fx.filter L.shows = fx'.filter L.shows) : L.Matches (s.after fx) (s'.after fx') := by
  refine ⟨h.controller, h.stage, ?_⟩
  rw [effects_after, effects_after, List.filter_append, List.filter_append, hf, h.effects]

theorem matches_moving (h : L.Like c d) {a b : RegistrationState} {refused : TransitionError → σ}
    {next next' : Controller → Step σ}
    (hn : ∀ c d : Controller, L.Like c d → L.Matches (next c) (next' d)) :
    L.Matches (c.moving k a b refused next) (d.moving k a b refused next') := by
  rcases L.moved h a b with ⟨e, hc, hd⟩ | ⟨states, states', hc, hd, moved⟩
  · rw [Controller.moving_of_error hc, Controller.moving_of_error hd]
    exact ⟨h, rfl, rfl⟩
  · rw [Controller.moving_of_ok hc, Controller.moving_of_ok hd]
    exact matches_after (hn _ _ moved) rfl

theorem matches_installing (h : L.Like c d) {e : EndpointPolicy} {handler : Handler}
    {refused : ProbeError → σ} {next next' : Controller → Step σ}
    (hn : ∀ c d : Controller, L.Like c d → L.Matches (next c) (next' d)) :
    L.Matches (c.installing e handler refused next) (d.installing e handler refused next') := by
  unfold Controller.installing ProbeServer.register
  split
  · cases Http.isAbsolute e.path with
    | false => exact ⟨h, rfl, rfl⟩
    | true =>
      exact matches_after (hn _ _ (L.insert_route h e.path handler)) (L.shows_installed h e.path)
  · exact hn c d h

end Step

/-! ## Registrations -/

namespace Register

/-- A registration at whose listener something came out is announced; what is said about the
listener is not compared. -/
theorem followBinding_eq {i : Instance} (L : Likeness i.key) (c : Controller) (p : Policy)
    (now : Nat) (binding : Except String String) :
    ∃ fx, fx.filter L.shows = [] ∧ followBinding c i p now binding =
      (announce { c with server := (c.server.run binding).1 } i p now).after fx := by
  unfold followBinding
  rcases c.server.run binding with ⟨server, a | e⟩
  · exact ⟨_, by simp [Controller.entry, L.shows_log, L.shows_bindFailure], rfl⟩
  · refine ⟨_, ?_, rfl⟩
    split <;> simp [Controller.entry, L.shows_log]

section Announcing

variable {i : Instance} {L : Likeness i.key} {c d : Controller} (h : L.Like c d) {p : Policy}
include h

theorem matches_callRegistrar (origin : RegistrationState) :
    L.Matches (callRegistrar c i p origin) (callRegistrar d i p origin) :=
  Step.matches_moving h fun _ _ h => ⟨h, rfl, rfl⟩

theorem matches_followGate (g : GateStage) :
    L.Matches (followGate c i p g) (followGate d i p g) := by
  unfold followGate
  split
  · exact Step.matches_after (matches_callRegistrar h _) rfl
  · exact Step.matches_moving h fun _ _ h => ⟨h, rfl, rfl⟩
  · exact ⟨h, rfl, rfl⟩

theorem matches_announce (now : Nat) : L.Matches (announce c i p now) (announce d i p now) := by
  unfold announce
  rw [L.event h]
  refine Step.matches_after ?_ rfl
  split
  · exact Step.matches_moving h fun _ _ h => Step.matches_after (matches_followGate h _) rfl
  · exact matches_callRegistrar h _

theorem matches_succeed (r : Registration) :
    L.Matches (succeed c i p r) (succeed d i p r) := by
  unfold succeed
  rw [L.event h]
  refine Step.matches_after (Step.matches_moving h fun c d h => ?_) rfl
  simp only [L.event h]
  exact ⟨h, rfl, rfl⟩

theorem matches_fail (f : Failure) : L.Matches (fail c i f) (fail d i f) :=
  Step.matches_moving h fun _ _ h => ⟨h, rfl, rfl⟩

end Announcing

/-- What two listeners come to makes no difference to a call that goes on after them. -/
theorem matches_followBinding {i : Instance} {L : Likeness i.key} {c d : Controller} {p : Policy}
    (now : Nat) {binding binding' : Except String String}
    (run : L.Like { c with server := (c.server.run binding).1 }
      { d with server := (d.server.run binding').1 }) :
    L.Matches (followBinding c i p now binding) (followBinding d i p now binding') := by
  obtain ⟨fx, silent, eq⟩ := followBinding_eq L c p now binding
  obtain ⟨fx', silent', eq'⟩ := followBinding_eq L d p now binding'
  rw [eq, eq']
  exact Step.matches_after (matches_announce run now) (silent.trans silent'.symm)

end Register

/-- Whether a registration waits for the listener. -/
def RegisterStage.isBinding : RegisterStage → Bool
  | binding _ => true
  | _ => false

/-- An answer with the outcome of this listener in place of that of another one. -/
def RegisterAnswer.bind (binding : Except String String) : RegisterAnswer → RegisterAnswer
  | bound _ => bound binding
  | a => a

namespace Register

/-! ### A listener that answers at once -/

section Binding

variable {c : Controller} {i : Instance} {p : Policy}

theorem isBinding_moving {k : InstanceKey} {a b : RegistrationState}
    {next : Controller → Step RegisterStage} (hn : ∀ d, (next d).stage.isBinding = false) :
    (c.moving k a b refuseMove next).stage.isBinding = false := by
  unfold Controller.moving
  split
  · exact hn _
  · rfl

theorem isBinding_callRegistrar (origin : RegistrationState) :
    (callRegistrar c i p origin).stage.isBinding = false :=
  isBinding_moving fun _ => rfl

theorem isBinding_followGate (g : GateStage) : (followGate c i p g).stage.isBinding = false := by
  unfold followGate
  split
  · exact isBinding_callRegistrar _
  · exact isBinding_moving fun _ => rfl
  · rfl

/-- A registration that was announced does not wait for the listener. -/
theorem isBinding_announce (now : Nat) : (announce c i p now).stage.isBinding = false := by
  unfold announce
  rw [Step.stage_after]
  split
  · exact isBinding_moving fun d => isBinding_followGate _
  · exact isBinding_callRegistrar _

theorem isBinding_followBinding (now : Nat) (binding : Except String String) :
    (followBinding c i p now binding).stage.isBinding = false := by
  unfold followBinding
  rcases c.server.run binding with ⟨server, a | e⟩
  · exact isBinding_announce now
  · exact isBinding_announce now

end Binding

section Bound

variable {c : Controller} {i : Instance} {p : Policy} {addr : String}
  (hc : c.server.address = some addr) (now : Nat)
include hc

/-- A registration does not wait for a server that is bound. -/
theorem isBinding_startProbes : (startProbes c i p now).stage.isBinding = false := by
  unfold startProbes
  rw [hc]
  exact isBinding_followBinding ..

theorem isBinding_installing {e : EndpointPolicy} {handler : Handler}
    {next : Controller → Step RegisterStage}
    (hn : ∀ d : Controller, d.server.address = some addr → (next d).stage.isBinding = false) :
    (c.installing e handler refuseProbe next).stage.isBinding = false := by
  unfold Controller.installing ProbeServer.register
  split
  · cases Http.isAbsolute e.path with
    | false => rfl
    | true => exact hn _ hc
  · exact hn c hc

theorem isBinding_installProbes : (installProbes c i p now).stage.isBinding = false := by
  unfold installProbes
  split
  · exact isBinding_installing hc fun _ hc => isBinding_installing hc fun _ hc =>
      isBinding_startProbes hc now
  · exact isBinding_announce now

theorem isBinding_begin : (begin c i p now).stage.isBinding = false := by
  unfold begin
  split
  · rfl
  · next states _ =>
    let d : Controller := { c with states, summaries := c.summaries.insert i.key p.summary }
    have bound : d.server.address = some addr := hc
    rw [Step.stage_after]
    split
    · exact isBinding_installProbes bound now
    · exact isBinding_callRegistrar _

end Bound

/-- A registration comes to wait for the listener only after its lookup, and only if the server is
not bound. -/
theorem lookup_of_isBinding {c : Controller} {i : Instance} {stage : RegisterStage}
    {a : RegisterAnswer} {now : Nat} (awaits : stage.awaits a = true)
    (h : (resume c i stage a now).stage.isBinding = true) :
    (∃ r, a = .rule r) ∧ c.server.address = none := by
  have never {s : Step RegisterStage} (hs : s.stage.isBinding = false)
      (h : s.stage.isBinding = true) : False := by
    rw [hs] at h
    cases h
  cases stage with
  | lookup =>
    obtain ⟨r, rfl⟩ := RegisterStage.eq_rule_of_awaits awaits
    refine ⟨⟨r, rfl⟩, ?_⟩
    cases hc : c.server.address with
    | none => rfl
    | some addr => exact (never (isBinding_begin hc now) h).elim
  | binding p =>
    obtain ⟨r, rfl⟩ := RegisterStage.eq_bound_of_awaits awaits
    exact (never (isBinding_followBinding now r) h).elim
  | gating p g =>
    obtain ⟨b, rfl⟩ := RegisterStage.eq_gate_of_awaits awaits
    exact (never (isBinding_followGate _) h).elim
  | registering p =>
    obtain ⟨v, rfl⟩ := RegisterStage.eq_registered_of_awaits awaits
    cases v with
    | ok r => exact (never (s := succeed c i p r) (isBinding_moving fun _ => rfl) h).elim
    | error f => exact (never (s := fail c i f) (isBinding_moving fun _ => rfl) h).elim
  | done r => cases awaits

section Binding

variable {c : Controller} {i : Instance} {p : Policy}

/-- A step that does not end at the listener: the call is answered there at once. -/
def boundAtOnce (i : Instance) (now : Nat) (binding : Except String String)
    (s : Step RegisterStage) : Step RegisterStage :=
  match s.stage with
  | .binding p => (followBinding s.controller i p now binding).after s.effects
  | _ => s

variable {now : Nat} {binding : Except String String}

theorem boundAtOnce_of_not_binding {s : Step RegisterStage} (h : s.stage.isBinding = false) :
    boundAtOnce i now binding s = s := by
  unfold boundAtOnce
  split
  · next hs =>
    rw [hs] at h
    cases h
  · rfl

theorem boundAtOnce_after (fx : List Effect) (s : Step RegisterStage) :
    boundAtOnce i now binding (s.after fx) = (boundAtOnce i now binding s).after fx := by
  unfold boundAtOnce
  rw [Step.stage_after]
  split
  · simp [Step.after, List.append_assoc]
  · rfl

theorem boundAtOnce_installing {e : EndpointPolicy} {handler : Handler}
    {next : Controller → Step RegisterStage} :
    boundAtOnce i now binding (c.installing e handler refuseProbe next) =
      c.installing e handler refuseProbe fun d => boundAtOnce i now binding (next d) := by
  unfold Controller.installing
  split
  · split
    · exact boundAtOnce_after ..
    · rfl
  · rfl

/-- A step after which a call is answered at the listener at once, if the listener is prompt. -/
def boundIf (isPrompt : Bool) (i : Instance) (now : Nat) (binding : Except String String)
    (s : Step RegisterStage) : Step RegisterStage :=
  if isPrompt then boundAtOnce i now binding s else s

variable {isPrompt : Bool}

theorem boundIf_of_not_binding {s : Step RegisterStage} (h : s.stage.isBinding = false) :
    boundIf isPrompt i now binding s = s := by
  cases isPrompt with
  | true => exact boundAtOnce_of_not_binding h
  | false => rfl

theorem boundIf_after (fx : List Effect) (s : Step RegisterStage) :
    boundIf isPrompt i now binding (s.after fx) = (boundIf isPrompt i now binding s).after fx := by
  cases isPrompt with
  | true => exact boundAtOnce_after fx s
  | false => rfl

theorem boundIf_installing {e : EndpointPolicy} {handler : Handler}
    {next : Controller → Step RegisterStage} :
    boundIf isPrompt i now binding (c.installing e handler refuseProbe next) =
      c.installing e handler refuseProbe fun d => boundIf isPrompt i now binding (next d) := by
  cases isPrompt with
  | true => exact boundAtOnce_installing
  | false => rfl

end Binding

/-- A bound server stays as it is. -/
theorem with_run_of_bound {c : Controller} {a : String} (hc : c.server.address = some a)
    (binding : Except String String) : { c with server := (c.server.run binding).1 } = c := by
  rw [ProbeServer.run_of_bound hc]

section Matches

variable {i : Instance} {L : Likeness i.key} {c d : Controller} (h : L.Like c d) (now : Nat)
  {binding binding' : Except String String} (allowed : L.Allows binding binding')
include h allowed

theorem matches_bound {p : Policy} :
    L.Matches (followBinding c i p now binding) (followBinding d i p now binding') :=
  matches_followBinding now (L.run h allowed)

/-- Whether a call waits for its listener or not, it is announced if that answers at once; else both
calls wait or none. -/
theorem matches_startProbes {p : Policy} :
    L.Matches (boundIf L.isPrompt i now binding (startProbes c i p now))
      (boundIf L.isPrompt i now binding' (startProbes d i p now)) := by
  have reached (c : Controller) (binding : Except String String) :
      ∃ b, boundAtOnce i now binding (startProbes c i p now) = followBinding c i p now b ∧
        { c with server := (c.server.run b).1 } =
          { c with server := (c.server.run binding).1 } := by
    unfold startProbes
    split
    · next a ha =>
      exact ⟨_, boundAtOnce_of_not_binding (isBinding_followBinding ..),
        (with_run_of_bound ha _).trans (with_run_of_bound ha _).symm⟩
    · exact ⟨binding, rfl, rfl⟩
  cases prompt : L.isPrompt with
  | true =>
    obtain ⟨b, hb, run⟩ := reached c binding
    obtain ⟨b', hb', run'⟩ := reached d binding'
    simp only [boundIf, if_true, hb, hb']
    refine matches_followBinding now ?_
    rw [run, run']
    exact L.run h allowed
  | false =>
    simp only [boundIf, startProbes, Bool.false_eq_true, if_false]
    have address := L.address h prompt
    split
    · next a ha =>
      rw [← address, ha]
      refine matches_followBinding now ?_
      rw [with_run_of_bound ha, with_run_of_bound (address ▸ ha)]
      exact h
    · next hn =>
      rw [← address, hn]
      exact ⟨h, rfl, rfl⟩

theorem matches_installProbes {p : Policy} :
    L.Matches (boundIf L.isPrompt i now binding (installProbes c i p now))
      (boundIf L.isPrompt i now binding' (installProbes d i p now)) := by
  unfold installProbes
  split
  · simp only [boundIf_installing]
    exact Step.matches_installing h fun c d h => Step.matches_installing h fun c d h =>
      matches_startProbes h now allowed
  · rw [boundIf_of_not_binding (isBinding_announce _),
      boundIf_of_not_binding (isBinding_announce _)]
    exact matches_announce h now

theorem matches_begin {p : Policy} :
    L.Matches (boundIf L.isPrompt i now binding (begin c i p now))
      (boundIf L.isPrompt i now binding' (begin d i p now)) := by
  have state : c.state? i.key = d.state? i.key := L.states h
  unfold begin
  rcases L.begun h with ⟨e, hc, hd⟩ | ⟨states, states', hc, hd, begun⟩
  · rw [hc, hd, boundIf_of_not_binding rfl, boundIf_of_not_binding rfl]
    exact ⟨h, rfl, rfl⟩
  · rw [hc, hd]
    simp only [boundIf_after, state]
    refine Step.matches_after ?_ rfl
    split
    · exact matches_installProbes (L.insert_summary begun p.summary) now allowed
    · rw [boundIf_of_not_binding (isBinding_callRegistrar _),
        boundIf_of_not_binding (isBinding_callRegistrar _)]
      exact matches_callRegistrar begun _

omit h allowed in
/-- A step that does not end at the listener is not answered there. -/
theorem matches_going {s s' : Step RegisterStage} (hs : s.stage.isBinding = false)
    (key : L.Matches s s') :
    L.Matches (boundIf L.isPrompt i now binding s) (boundIf L.isPrompt i now binding' s') := by
  rw [boundIf_of_not_binding hs, boundIf_of_not_binding (key.stage ▸ hs)]
  exact key

/-- A registration that stays where it is may be answered at the listener. -/
theorem matches_staying (stage : RegisterStage) :
    L.Matches (boundIf L.isPrompt i now binding ⟨c, stage, []⟩)
      (boundIf L.isPrompt i now binding' ⟨d, stage, []⟩) := by
  cases stage with
  | binding p =>
    cases prompt : L.isPrompt with
    | true => exact Step.matches_after (matches_bound h now allowed) rfl
    | false => exact ⟨h, rfl, rfl⟩
  | _ => exact matches_going now rfl ⟨h, rfl, rfl⟩

/-- A registration goes on in the same way at controllers that are alike. -/
theorem matches_resume (stage : RegisterStage) (a : RegisterAnswer) :
    L.Matches (boundIf L.isPrompt i now binding (resume c i stage (a.bind binding) now))
      (boundIf L.isPrompt i now binding' (resume d i stage (a.bind binding') now)) := by
  cases stage with
  | lookup =>
    cases a with
    | rule r =>
      have logged : (c.policyEffects i r).filter L.shows =
          (d.policyEffects i r).filter L.shows := by
        rw [L.filter_policyEffects, L.filter_policyEffects]
      simp only [resume, RegisterAnswer.bind, boundIf_after]
      rw [Traffic.policyFor_congr (L.settings h) r]
      exact Step.matches_after (matches_begin h now allowed) logged
    | _ => exact matches_staying h now allowed _
  | binding p =>
    cases a with
    | bound r => exact matches_going now (isBinding_followBinding ..) (matches_bound h now allowed)
    | _ => exact matches_staying h now allowed _
  | gating p g =>
    cases a with
    | gate b =>
      refine matches_going now ?_ (Step.matches_after (matches_followGate h _) rfl)
      exact isBinding_followGate _
    | _ => exact matches_staying h now allowed _
  | registering p =>
    cases a with
    | registered v =>
      cases v with
      | ok r =>
        refine matches_going now ?_ (matches_succeed h r)
        exact isBinding_moving fun _ => rfl
      | error f => exact matches_going now (isBinding_moving fun _ => rfl) (matches_fail h f)
    | _ => exact matches_staying h now allowed _
  | done r => exact matches_staying h now allowed _

end Matches

end Register

/-! ## Retractions -/

namespace Deregister

variable {i : Instance} {L : Likeness i.key} {c d : Controller} (h : L.Like c d)
include h

theorem matches_start : L.Matches (start c i) (start d i) := by
  have state : c.state? i.key = d.state? i.key := L.states h
  unfold start
  rw [← state]
  split
  · exact ⟨h, rfl, rfl⟩
  · exact ⟨h, rfl, rfl⟩
  · refine Step.matches_moving h fun c d h => ?_
    rw [L.event h]
    exact ⟨h, rfl, rfl⟩

theorem matches_resume (stage : DeregisterStage) (r : Except Failure Unit) :
    L.Matches (resume c i stage r) (resume d i stage r) := by
  unfold resume
  split
  · unfold answered
    cases r with
    | ok u =>
      refine Step.matches_moving h fun c d h => ?_
      rw [L.event h]
      exact ⟨h, rfl, rfl⟩
    | error f => exact Step.matches_moving h fun _ _ h => ⟨h, rfl, rfl⟩
  · exact ⟨h, rfl, rfl⟩

end Deregister

namespace Traffic

/-! ## Calls -/

/-- An answer with the outcome of this listener in place of that of another one. -/
def Answer.bind (binding : Except String String) : Answer → Answer
  | register a => register (a.bind binding)
  | a => a

/-- A step that does not end at the listener: the call is answered there at once. -/
def boundAtOnce (i : Instance) (now : Nat) (binding : Except String String) (s : Step Stage) :
    Step Stage :=
  match s.stage with
  | .register (.binding p) =>
    (ofRegister (Register.followBinding s.controller i p now binding)).after s.effects
  | _ => s

theorem boundAtOnce_ofRegister (i : Instance) (now : Nat) (binding : Except String String)
    (s : Step RegisterStage) :
    boundAtOnce i now binding (ofRegister s) =
      ofRegister (Register.boundAtOnce i now binding s) := by
  obtain ⟨c, stage, fx⟩ := s
  cases stage <;> rfl

/-- A step after which a call is answered at the listener at once, if the listener is prompt. -/
def boundIf (isPrompt : Bool) (i : Instance) (now : Nat) (binding : Except String String)
    (s : Step Stage) : Step Stage :=
  if isPrompt then boundAtOnce i now binding s else s

theorem boundIf_ofRegister (isPrompt : Bool) (i : Instance) (now : Nat)
    (binding : Except String String) (s : Step RegisterStage) :
    boundIf isPrompt i now binding (ofRegister s) =
      ofRegister (Register.boundIf isPrompt i now binding s) := by
  cases isPrompt with
  | true => exact boundAtOnce_ofRegister i now binding s
  | false => rfl

section Waits

variable {isPrompt : Bool} {i : Instance} {now : Nat} {binding : Except String String}
  {s : Step Stage} (h : ∀ p, s.stage ≠ .register (.binding p))
include h

theorem boundAtOnce_of_not_binding : boundAtOnce i now binding s = s := by
  unfold boundAtOnce
  split
  · next p hp => exact absurd hp (h p)
  · rfl

theorem boundIf_of_not_binding : boundIf isPrompt i now binding s = s := by
  cases isPrompt with
  | true => exact boundAtOnce_of_not_binding h
  | false => rfl

end Waits

section Calls

variable {i : Instance} {L : Likeness i.key}

theorem matches_ofRegister {s s' : Step RegisterStage} (h : L.Matches s s') :
    L.Matches (ofRegister s) (ofRegister s') :=
  ⟨h.controller, congrArg Stage.register h.stage, h.effects⟩

theorem matches_ofDeregister {s s' : Step DeregisterStage} (h : L.Matches s s') (isProbe : Bool) :
    L.Matches (ofDeregister i isProbe s) (ofDeregister i isProbe s') := by
  refine ⟨h.controller, congrArg (Stage.deregister isProbe) h.stage, ?_⟩
  unfold ofDeregister
  simp only [List.filter_append]
  rw [h.stage, h.effects]

variable {c d : Controller} (h : L.Like c d)
include h

omit h in
/-- A step that does not end at the listener is not answered there. -/
theorem matches_going {s s' : Step Stage} (now : Nat) {binding binding' : Except String String}
    (hs : ∀ p, s.stage ≠ .register (.binding p)) (key : L.Matches s s') :
    L.Matches (boundIf L.isPrompt i now binding s) (boundIf L.isPrompt i now binding' s') := by
  rw [boundIf_of_not_binding hs, boundIf_of_not_binding (key.stage ▸ hs)]
  exact key

/-- A call that stays where it is may be answered at the listener. -/
theorem matches_staying (stage : Stage) (now : Nat) {binding binding' : Except String String}
    (allowed : L.Allows binding binding') :
    L.Matches (boundIf L.isPrompt i now binding ⟨c, stage, []⟩)
      (boundIf L.isPrompt i now binding' ⟨d, stage, []⟩) := by
  cases stage with
  | register s =>
    show L.Matches (boundIf L.isPrompt i now binding (ofRegister ⟨c, s, []⟩))
      (boundIf L.isPrompt i now binding' (ofRegister ⟨d, s, []⟩))
    rw [boundIf_ofRegister, boundIf_ofRegister]
    exact matches_ofRegister (Register.matches_staying h now allowed s)
  | _ => exact matches_going now (fun p => nofun) ⟨h, rfl, rfl⟩

/-- A call goes on in the same way at controllers that are alike. -/
theorem matches_call (stage : Stage) (since : Nat) (a : Answer) (now : Nat)
    {binding binding' : Except String String} (allowed : L.Allows binding binding') :
    L.Matches
      (boundIf L.isPrompt i now binding (Call.resume ⟨i, stage, since⟩ c (a.bind binding) now))
      (boundIf L.isPrompt i now binding'
        (Call.resume ⟨i, stage, since⟩ d (a.bind binding') now)) := by
  cases stage with
  | register s =>
    cases a with
    | register a =>
      show L.Matches
        (boundIf L.isPrompt i now binding
          (ofRegister (Register.resume c i s (a.bind binding) now)))
        (boundIf L.isPrompt i now binding'
          (ofRegister (Register.resume d i s (a.bind binding') now)))
      rw [boundIf_ofRegister, boundIf_ofRegister]
      exact matches_ofRegister (Register.matches_resume h now allowed s a)
    | _ => exact matches_staying h _ now allowed
  | deregister isProbe s =>
    cases a with
    | retracted r =>
      refine matches_going now (fun p => nofun) ?_
      exact matches_ofDeregister (Deregister.matches_resume h s r) isProbe
    | _ => exact matches_staying h _ now allowed
  | warmup e =>
    cases a with
    | timer isInterrupted =>
      refine matches_going now (fun p => nofun) ⟨h, rfl, ?_⟩
      show (Warmup.finish c i e isInterrupted).filter L.shows =
        (Warmup.finish d i e isInterrupted).filter L.shows
      unfold Warmup.finish
      rw [L.event h]
    | _ => exact matches_staying h _ now allowed
  | warmed => exact matches_staying h _ now allowed

end Calls

end Traffic

/-! ## Invariants -/

/-- A property of controllers that is kept by all that the calls for some instances write. -/
structure Invariant (Own : InstanceKey → Prop) where
  Holds : Controller → Prop
  /-- What the listener may come to. -/
  Allows : Except String String → Prop
  insert_state {c : Controller} {k : InstanceKey} (own : Own k) (h : Holds c)
    (s : RegistrationState) : Holds { c with states := c.states.insert k s }
  insert_summary {c : Controller} {k : InstanceKey} (own : Own k) (h : Holds c)
    (p : PolicySummary) : Holds { c with summaries := c.summaries.insert k p }
  insert_route {c : Controller} (h : Holds c) (path : String) (handler : Handler) :
    Holds { c with server := { c.server with routes := c.server.routes.insert path handler } }
  run {c : Controller} {binding : Except String String} (h : Holds c) (allowed : Allows binding) :
    Holds { c with server := (c.server.run binding).1 }

namespace Invariant

variable {Own : InstanceKey → Prop} (I : Invariant Own)

/-- Controllers that are the same, and have the property. -/
def likeness {k : InstanceKey} (own : Own k) : Likeness k where
  Like c d := c = d ∧ I.Holds c
  shows _ := false
  isPrompt := false
  Allows binding binding' := binding = binding' ∧ I.Allows binding
  settings h := by rw [h.1]
  states h := by rw [h.1]
  summaries h := by rw [h.1]
  address h _ := by rw [h.1]
  insert_state h s := ⟨by rw [h.1], I.insert_state own h.2 s⟩
  insert_summary h p := ⟨by rw [h.1], I.insert_summary own h.2 p⟩
  insert_route h path handler := ⟨by rw [h.1], I.insert_route h.2 path handler⟩
  run h allowed := ⟨by rw [h.1, allowed.1], I.run h.2 allowed.2⟩
  shows_log _ := rfl
  shows_bindFailure _ := rfl
  shows_installed _ _ := rfl

variable {c : Controller} (h : I.Holds c)
include h

/-- A call that goes on keeps the property. -/
theorem call {x : Traffic.Call} (own : Own x.inst.key) (a : Traffic.Answer) (now : Nat)
    {binding : Except String String} (allowed : I.Allows binding) :
    I.Holds (x.resume c (a.bind binding) now).controller :=
  (Traffic.matches_call (L := I.likeness own) ⟨rfl, h⟩ x.stage x.since a now
    ⟨rfl, allowed⟩).controller.2

/-- A call that begins to retract its instance keeps the property. -/
theorem start {i : Instance} (own : Own i.key) : I.Holds (Deregister.start c i).controller :=
  (Deregister.matches_start (L := I.likeness own) ⟨rfl, h⟩).controller.2

end Invariant

end InstanceLifecycle
