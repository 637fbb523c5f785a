import Mathlib.Data.List.Induction
import InstanceLifecycle.Proofs.Traffic.Reports

/-!
# Registrations that are overtaken

A registration looks at the state of its instance when its lookup was answered, and claims the
instance only after the listener of the probe server was started. Another registration that passes
the same check meanwhile can claim the instance first. The one that comes too late has then stored
its policy and installed its probes, and announces the instance before its claim is refused.

Results:

* `Chronicle.concat`, `run_chronicle`: which calls are refused because they were overtaken can be
  told from the run, in which their instance has moved on while they waited;
* `refused_unseen_iff`: a call that is refused a change of state has done nothing that can be seen
  exactly if it was not overtaken on its way to the claim, and every overtaken call has announced
  its instance once more than the instance has left `unregistered`;
* `announced_twice`: a registration waits for the listener, another one does not, and both announce
  the instance.
-/

namespace InstanceLifecycle

/-! ## What can be seen -/

namespace Effect

/-- Whether an effect reports something or installs a handler. -/
def isVisible : Effect → Bool
  | event .. => true
  | installed .. => true
  | _ => false

/-- Whether an instance leaves `unregistered` for the gate or for the registrar. -/
def departs (k : InstanceKey) : Effect → Bool
  | moved j .unregistered .gating => j = k
  | moved j .unregistered .registering => j = k
  | _ => false

theorem visible_of_quiet {fx : List Effect} (h : fx.all isQuiet = true) :
    fx.filter isVisible = [] := by
  rw [List.filter_eq_nil_iff]
  intro x hx
  have hq := List.all_eq_true.mp h x hx
  cases x <;> simp [isVisible] at hq ⊢

theorem departures_of_quiet {fx : List Effect} (h : fx.all isQuiet = true) (k : InstanceKey) :
    fx.countP (departs k) = 0 := by
  rw [List.countP_eq_zero]
  intro x hx
  have hq := List.all_eq_true.mp h x hx
  cases x <;> simp [departs] at hq ⊢

theorem departs_of_isFor {i : Instance} {k : InstanceKey} (hk : i.key ≠ k) {x : Effect}
    (h : x.IsFor i) : x.departs k = false := by
  unfold departs
  split
  · obtain rfl : _ = i.key := h
    simpa using hk
  · obtain rfl : _ = i.key := h
    simpa using hk
  · rfl

end Effect

namespace Traffic

/-- Whether a call was refused when it wanted to claim its instance, because another call had
claimed it meanwhile. -/
def Stage.isOvertaken : Stage → Bool
  | register (.done (.error (.transition (.invalidTransition _ _ .unregistered)))) => false
  | register (.done (.error (.transition _))) => true
  | _ => false

end Traffic

/-! ## Steps -/

/-- Whether a step announces its instance as often as the instance leaves `unregistered`. -/
def Step.Balanced {σ : Type} (k : InstanceKey) (s : Step σ) : Prop :=
  (s.effects.filterMap Effect.kind?).count .onlineStart = s.effects.countP (Effect.departs k)

namespace Step.Balanced

variable {σ : Type} {k : InstanceKey} {s : Step σ}

theorem quiet (h : s.Balanced k) {fx : List Effect} (hq : fx.all Effect.isQuiet = true) :
    (s.after fx).Balanced k := by
  unfold Step.Balanced at h ⊢
  simp only [effects_after, List.filterMap_append, List.countP_append, List.count_append]
  rw [Effect.kinds_of_quiet hq, Effect.departures_of_quiet hq, h]
  rfl

/-- A step that neither announces nor leaves `unregistered`. -/
theorem rest (hk : EventKind.onlineStart ∉ s.effects.filterMap Effect.kind?)
    (hd : s.effects.countP (Effect.departs k) = 0) : s.Balanced k :=
  (List.count_eq_zero.mpr hk).trans hd.symm

theorem of_quiet (hq : s.effects.all Effect.isQuiet = true) : s.Balanced k :=
  rest (by simp [Effect.kinds_of_quiet hq]) (Effect.departures_of_quiet hq k)

end Step.Balanced

namespace Register

variable {c : Controller} {i : Instance} {p : Policy}

/-- A call leaves `unregistered` once when it goes to the registrar from there. -/
theorem departures_callRegistrar {origin : RegistrationState} (hc : c.state? i.key = some origin)
    (ho : origin.canMove .registering = true) :
    (callRegistrar c i p origin).effects.countP (Effect.departs i.key) =
      if origin = .unregistered then 1 else 0 := by
  unfold callRegistrar
  rw [Controller.moving_eq _ _ ho, if_pos hc]
  cases origin <;> simp [Effect.departs]

theorem departures_followGate (hc : c.state? i.key = some .gating) (g : GateStage) :
    (followGate c i p g).effects.countP (Effect.departs i.key) = 0 := by
  cases g with
  | closed r =>
    cases r with
    | ok pass =>
      have hq : (passEffects i pass).all Effect.isQuiet = true := by cases pass <;> rfl
      have hd := departures_callRegistrar (p := p) hc rfl
      simp only [followGate, Step.effects_after, List.countP_append]
      rw [Effect.departures_of_quiet hq, hd]
      rfl
    | error e =>
      simp only [followGate]
      rw [Controller.moving_eq _ _ rfl, if_pos hc]
      rfl
  | delaying d => rfl
  | checking check started n => rfl
  | pausing check started n => rfl

/-- An instance that is unregistered is announced once and leaves that state once. -/
theorem balanced_announce (hc : c.state? i.key = some .unregistered) (now : Nat) :
    (announce c i p now).Balanced i.key := by
  have kinds := (announce_outline (p := p) hc now).2.kinds
  have departures : (announce c i p now).effects.countP (Effect.departs i.key) = 1 := by
    have event : ([c.event .onlineStart i]).countP (Effect.departs i.key) = 0 := rfl
    unfold announce
    rw [Step.effects_after, List.countP_append, event]
    split
    · rw [Controller.moving_eq _ _ rfl, if_pos hc]
      have moved : ([.moved i.key .unregistered .gating] : List Effect).countP
          (Effect.departs i.key) = 1 := by simp [Effect.departs]
      let d : Controller := { c with states := c.states.insert i.key .gating }
      have gate := departures_followGate (c := d) (i := i) (p := p) (by simp [d])
        (Gate.arrive i p.delay now).1
      simp only [Step.effects_after, List.countP_append]
      rw [moved, Effect.departures_of_quiet (Gate.quiet_arrive i p.delay now)]
      show 0 + (1 + (0 + (followGate d i p _).effects.countP _)) = 1
      rw [gate]
    · rw [departures_callRegistrar hc rfl, if_pos rfl]
  unfold Step.Balanced
  rw [kinds, departures]
  rfl

theorem balanced_followBinding (hc : c.state? i.key = some .unregistered) (now : Nat)
    (binding : Except String String) : (followBinding c i p now binding).Balanced i.key := by
  unfold followBinding
  rcases c.server.run binding with ⟨server, a | e⟩
  all_goals
    have announced := balanced_announce (c := { c with server }) (i := i) (p := p) hc now
    refine announced.quiet ?_
  · simp [Controller.entry]
  · split <;> simp [Controller.entry]

theorem balanced_startProbes (hc : c.state? i.key = some .unregistered) (now : Nat) :
    (startProbes c i p now).Balanced i.key := by
  unfold startProbes
  split
  · exact balanced_followBinding hc now _
  · exact .of_quiet rfl

theorem balanced_installing {e : EndpointPolicy} {h : Handler}
    {next : Controller → Step RegisterStage}
    (hn : ∀ server, (next { c with server }).Balanced i.key) :
    (c.installing e h refuseProbe next).Balanced i.key := by
  unfold Controller.installing
  split
  · split
    · next server _ => exact hn server
    · exact .of_quiet rfl
  · exact hn c.server

/-- Under an enabled policy an attempt announces its instance as often as it claims it. -/
theorem balanced_begin (hc : RegisterStage.lookup.admits (c.state? i.key)) (on : p.enabled = true)
    (now : Nat) : (begin c i p now).Balanced i.key := by
  obtain ⟨states, hs, hj⟩ := begin_states hc
  have fresh : states.get? i.key = some .unregistered := by simp [hj]
  have opened : (installProbes
      { c with states, summaries := c.summaries.insert i.key p.summary } i p now).Balanced i.key := by
    unfold installProbes
    split
    · refine balanced_installing fun server => ?_
      refine balanced_installing (c := { c with
        states, summaries := c.summaries.insert i.key p.summary, server }) fun server => ?_
      exact balanced_startProbes (c := { c with
        states, summaries := c.summaries.insert i.key p.summary, server }) fresh now
    · exact balanced_announce (c := { c with
        states, summaries := c.summaries.insert i.key p.summary }) fresh now
  simp only [begin, hs, if_pos on]
  -- Leaving `deregistered` is no departure.
  split
  · exact opened
  · exact opened

theorem balanced_succeed (hc : c.state? i.key = some .registering) (r : Registration) :
    (succeed c i p r).Balanced i.key := by
  obtain ⟨-, -, kinds⟩ := succeed_outline (p := p) hc r
  refine .rest ?_ ?_
  · rw [kinds]
    unfold closing
    cases p.enabled <;> cases p.warmup.isActive <;> simp
  · unfold succeed
    rw [Controller.moving_eq _ _ rfl, if_pos hc]
    cases p.enabled <;> cases p.warmup.isActive <;> rfl

theorem balanced_fail (hc : c.state? i.key = some .registering) (f : Failure) :
    (fail c i f).Balanced i.key := by
  obtain ⟨-, -, kinds⟩ := fail_outline hc f
  refine .rest (by simp [kinds]) ?_
  unfold fail
  rw [Controller.moving_eq _ _ rfl, if_pos hc]
  rfl

/-- A call that is admitted announces its instance as often as it claims it. -/
theorem balanced_resume {stage : RegisterStage} {a : RegisterAnswer} (ha : stage.awaits a = true)
    (hc : stage.admits (c.state? i.key)) (on : c.settings.enabled = true) (now : Nat) :
    (resume c i stage a now).Balanced i.key := by
  cases stage with
  | lookup =>
    obtain ⟨r, rfl⟩ := RegisterStage.eq_rule_of_awaits ha
    have enabled := (c.enabled_policyFor r).trans on
    exact (balanced_begin hc enabled now).quiet (policyEffects_quiet r)
  | binding p =>
    obtain ⟨r, rfl⟩ := RegisterStage.eq_bound_of_awaits ha
    exact balanced_followBinding hc now r
  | gating p g =>
    obtain ⟨b, rfl⟩ := RegisterStage.eq_gate_of_awaits ha
    have kinds := (followGate_outline (p := p) hc (Gate.resume i g b now).1).2.kinds
    have followed : (followGate c i p (Gate.resume i g b now).1).Balanced i.key :=
      .rest (by simp [kinds]) (departures_followGate hc _)
    exact followed.quiet (Gate.quiet_resume ..)
  | registering p =>
    obtain ⟨v, rfl⟩ := RegisterStage.eq_registered_of_awaits ha
    cases v with
    | ok r => exact balanced_succeed hc r
    | error f => exact balanced_fail hc f
  | done r => exact hc.elim

/-! ### Refusals -/

/-- A call that comes too late with its claim has announced its instance. -/
theorem resume_overtaken (hc : c.state? i.key ≠ some .unregistered) (b : Except String String)
    (now : Nat) :
    let s := resume c i (.binding p) (.bound b) now
    (Traffic.Stage.register s.stage).isOvertaken = true ∧
      ∃ fx, fx.all Effect.isQuiet = true ∧ s.effects = fx ++ [c.event .onlineStart i] := by
  have announced (server : ProbeServer) {fx : List Effect} (hq : fx.all Effect.isQuiet = true) :
      let s := (announce { c with server } i p now).after fx
      (Traffic.Stage.register s.stage).isOvertaken = true ∧
        ∃ fx, fx.all Effect.isQuiet = true ∧ s.effects = fx ++ [c.event .onlineStart i] := by
    have hd : Controller.state? { c with server } i.key ≠ some .unregistered := hc
    unfold announce callRegistrar
    rw [Controller.moving_eq _ _ rfl, Controller.moving_eq _ _ rfl, if_neg hd, if_neg hd]
    refine ⟨?_, fx, hq, ?_⟩
    · split <;> cases Controller.state? { c with server } i.key <;> rfl
    · split <;> rfl
  simp only [resume, followBinding]
  rcases c.server.run b with ⟨server, a | e⟩
  · exact announced server (by simp [Controller.entry])
  · exact announced server (by split <;> simp [Controller.entry])

end Register

namespace Traffic

/-! ## Discretion -/

/-- What can be seen of a deed. -/
def Deed.sight? : Deed → Option Effect
  | effect x => if x.isVisible then some x else none
  | _ => none

/-- The events that were reported and the handlers that were installed, in order. -/
def sights (t : Traffic) : List Effect := t.trace.filterMap (·.deed.sight?)

/-- Nothing was reported or installed between, and the stored policies and the handlers are as they
were. -/
structure Discreet (t u : Traffic) : Prop where
  sights : u.sights = t.sights
  summaries : u.controller.summaries = t.controller.summaries
  routes : u.controller.server.routes = t.controller.server.routes

/-- Whether a move is one of the call with this number: it begins the call or answers it. -/
def Move.ActsOn (t : Traffic) (n : Nat) : Move → Prop
  | register _ => n = t.calls.length
  | deregister .. => n = t.calls.length
  | answer m _ => n = m
  | _ => False

/-- Whether the call with this number does nothing during some moves that can be seen. -/
def Unseen (n : Nat) : Traffic → List Move → Prop :=
  Along fun t m => m.ActsOn t n → t.Discreet (t.step m)

namespace Goes

variable {t u : Traffic} {n : Nat} {i : Instance} {told : List Answer} {s : Step Stage}

theorem sights (h : Goes t n i told s u) :
    u.sights = t.sights ++ s.effects.filter Effect.isVisible := by
  have blind : (told.map Deed.told).filterMap Deed.sight? = [] := by
    simp [Deed.sight?, Function.comp_def]
  have seen : (deedsOf s).filterMap Deed.sight? = s.effects.filter Effect.isVisible := by
    rw [deedsOf, List.filterMap_append, List.filterMap_map, ← List.filterMap_eq_filter]
    exact List.append_nil _
  unfold Traffic.sights
  rw [h.trace, note, List.filterMap_append, List.filterMap_map]
  show _ ++ (told.map Deed.told ++ deedsOf s).filterMap Deed.sight? = _
  rw [List.filterMap_append, blind, seen, List.nil_append]

/-- A step that leaves the controller alone and only logs is discreet. -/
theorem discreet (h : Goes t n i told s u) (same : s.controller = t.controller)
    (hq : s.effects.all Effect.isQuiet = true) : t.Discreet u where
  sights := by rw [h.sights, Effect.visible_of_quiet hq, List.append_nil]
  summaries := by rw [h.controller, same]
  routes := by rw [h.controller, same]

/-- A step with an effect that can be seen is not discreet. -/
theorem not_discreet (h : Goes t n i told s u) {x : Effect} (hx : x ∈ s.effects)
    (visible : x.isVisible = true) : ¬t.Discreet u := by
  intro d
  have none : s.effects.filter Effect.isVisible = [] := by
    have key := h.sights.symm.trans d.sights
    simpa using key
  exact List.filter_eq_nil_iff.mp none x hx visible

end Goes

/-- A call that stands where it has moved its instance was not refused. -/
theorem refusal?_of_place? {s : Stage} {b : RegistrationState} (h : s.place? = some b) :
    s.refusal? = none ∧ s.isOvertaken = false := by
  cases s with
  | register s =>
    cases s with
    | done r =>
      cases r with
      | ok x => exact ⟨rfl, rfl⟩
      | error e => cases e <;> first | exact ⟨rfl, rfl⟩ | cases h
    | _ => exact ⟨rfl, rfl⟩
  | deregister isProbe s =>
    cases s with
    | retracting => exact ⟨rfl, rfl⟩
    | done r =>
      cases r with
      | ok x => exact ⟨rfl, rfl⟩
      | error e => cases e <;> first | exact ⟨rfl, rfl⟩ | cases h
  | _ => cases h

/-- Calls that were refused without being overtaken, that wait for their lookup or that have not
begun have done nothing during a run that can be seen, and overtaken calls have. -/
structure Hidden (t₀ : Traffic) (ms : List Move) (t : Traffic) : Prop where
  new : ∀ n, t.calls.length ≤ n → Unseen n t₀ ms
  lookup : ∀ n, t.stage? n = some (.register .lookup) → Unseen n t₀ ms
  refused : ∀ n s, t.stage? n = some s → s.refusal?.isSome = true → s.isOvertaken = false →
    Unseen n t₀ ms
  overtaken : ∀ n s, t.stage? n = some s → s.isOvertaken = true → ¬Unseen n t₀ ms

namespace Hidden

variable {t₀ t u : Traffic} {ms : List Move} {m : Move}

/-- A move that is discreet for all calls that it acts on hides as much as before. -/
theorem idle (h : Hidden t₀ ms t) (hu : ∀ n, Unseen n t₀ (ms ++ [m]) ↔ Unseen n t₀ ms)
    (calls : u.calls = t.calls) : Hidden t₀ (ms ++ [m]) u where
  new n hn := (hu n).mpr (h.new n (calls ▸ hn))
  lookup n hs := (hu n).mpr (h.lookup n (by rwa [stage?, ← calls]))
  refused n s hs he ho := (hu n).mpr (h.refused n s (by rwa [stage?, ← calls]) he ho)
  overtaken n s hs ho hun := h.overtaken n s (by rwa [stage?, ← calls]) ho ((hu n).mp hun)

/-- A call goes on: only what becomes of it has to be looked at. -/
theorem goes (h : Hidden t₀ ms t) {n : Nat} {i : Instance} {told : List Answer} {s : Step Stage}
    (g : Goes t n i told s u)
    (hu : ∀ k, Unseen k t₀ (ms ++ [m]) ↔ Unseen k t₀ ms ∧ (k = n → t.Discreet u))
    (hidden : s.stage = .register .lookup ∨ s.stage.refusal?.isSome = true →
      s.stage.isOvertaken = false → Unseen n t₀ ms ∧ t.Discreet u)
    (shown : s.stage.isOvertaken = true → ¬t.Discreet u) : Hidden t₀ (ms ++ [m]) u := by
  have here : u.stage? n = some s.stage := by rw [stage?, g.call]; rfl
  have acts (k : Nat) (hk : k ≠ n) : Unseen k t₀ (ms ++ [m]) ↔ Unseen k t₀ ms := by
    rw [hu k]
    exact and_iff_left fun hn => absurd hn hk
  -- A call that was not moved stands where it stood, or it is a new timer.
  have there (k : Nat) (hk : k ≠ n) (s' : Stage) (hs : u.stage? k = some s') :
      t.stage? k = some s' ∨ ∃ d, s' = .warmup d := by
    obtain ⟨y, hy, rfl⟩ := Option.map_eq_some_iff.mp hs
    rcases g.others k hk y hy with hy | ⟨-, -, d, -, hd⟩
    · exact .inl (by rw [stage?, hy]; rfl)
    · exact .inr ⟨d, hd⟩
  refine ⟨fun k hk => ?_, fun k hs => ?_, fun k s' hs he ho => ?_, fun k s' hs ho => ?_⟩
  · have hlt := (List.getElem?_eq_some_iff.mp g.call).1
    exact (acts k (by omega)).mpr (h.new k (Nat.le_trans g.length hk))
  · by_cases hk : k = n
    · subst hk
      have hs := Option.some.inj (here.symm.trans hs)
      obtain ⟨unseen, discreet⟩ := hidden (.inl hs) (by rw [hs]; rfl)
      exact (hu k).mpr ⟨unseen, fun _ => discreet⟩
    · rcases there k hk _ hs with hs | ⟨d, hd⟩
      · exact (acts k hk).mpr (h.lookup k hs)
      · cases hd
  · by_cases hk : k = n
    · subst hk
      obtain rfl := Option.some.inj (here.symm.trans hs)
      obtain ⟨unseen, discreet⟩ := hidden (.inr he) ho
      exact (hu k).mpr ⟨unseen, fun _ => discreet⟩
    · rcases there k hk _ hs with hs | ⟨d, rfl⟩
      · exact (acts k hk).mpr (h.refused k s' hs he ho)
      · cases he
  · by_cases hk : k = n
    · subst hk
      obtain rfl := Option.some.inj (here.symm.trans hs)
      intro unseen
      exact shown ho (((hu k).mp unseen).2 rfl)
    · rcases there k hk _ hs with hs | ⟨d, rfl⟩
      · rw [acts k hk]
        exact h.overtaken k s' hs ho
      · cases ho

/-- A call that moves its instance is not refused, and so there is nothing to hide. -/
theorem goes_placed (h : Hidden t₀ ms t) {n : Nat} {i : Instance} {told : List Answer}
    {s : Step Stage} (g : Goes t n i told s u)
    (hu : ∀ k, Unseen k t₀ (ms ++ [m]) ↔ Unseen k t₀ ms ∧ (k = n → t.Discreet u))
    {b : RegistrationState} (hs : s.stage.place? = some b) : Hidden t₀ (ms ++ [m]) u := by
  obtain ⟨unrefused, notOvertaken⟩ := refusal?_of_place? hs
  refine h.goes g hu (fun hr _ => ?_) fun ho => ?_
  · rcases hr with hr | hr
    · rw [hr] at hs
      cases hs
    · rw [unrefused] at hr
      cases hr
  · rw [notOvertaken] at ho
    cases ho

/-- A new call to retract an instance moves it, or it does nothing that can be seen. -/
theorem goes_started (h : Hidden t₀ ms t) {i : Instance} {isProbe : Bool}
    (g : Goes t t.calls.length i []
      (ofDeregister i isProbe (Deregister.start t.controller i)) u)
    (hu : ∀ k, Unseen k t₀ (ms ++ [m]) ↔
      Unseen k t₀ ms ∧ (k = t.calls.length → t.Discreet u)) : Hidden t₀ (ms ++ [m]) u := by
  by_cases hc : t.controller.state? i.key = some .registered
  · obtain ⟨b, -, hs, -⟩ := Deregister.start_settles hc
    exact h.goes_placed g hu (b := b) hs
  · obtain ⟨same, hs⟩ := Deregister.start_idle hc
    refine h.goes g hu (fun _ _ => ⟨h.new _ (Nat.le_refl _), g.discreet same ?_⟩) fun ho => ?_
    · obtain ⟨fx, hq, he⟩ := ofDeregister_eq i isProbe (Deregister.start t.controller i)
      rw [he]
      simp [Deregister.start_quiet hc, hq]
    · cases ho

/-- A call that was answered moves its instance or ends its wait, or it comes too late; if it had
begun its attempt before, it has announced its instance. -/
theorem goes_answered (h : Hidden t₀ ms t) (sound : t.Sound) {n : Nat} {x : Call} {a : Answer}
    (call : t.calls[n]? = some x) (awaits : x.stage.awaits a = true)
    (g : Goes t n x.inst [a] (x.resume t.controller a t.now) u)
    (hu : ∀ k, Unseen k t₀ (ms ++ [m]) ↔ Unseen k t₀ ms ∧ (k = n → t.Discreet u)) :
    Hidden t₀ (ms ++ [m]) u := by
  have standing : t.stage? n = some x.stage := by rw [stage?, call]; rfl
  cases Call.advance awaits (sound.owns call) with
  | admitted ha hc =>
    obtain ⟨b, hs, -⟩ := Register.resume_place ha hc t.now
    exact h.goes_placed g hu (b := b) hs
  | @late i since r hc =>
    obtain ⟨x, hx⟩ := Call.resume_turnedAway hc since r t.now
    rw [hx] at g
    refine h.goes g hu (fun _ _ => ?_) fun ho => by cases ho
    exact ⟨h.lookup n standing, g.discreet rfl (Register.policyEffects_quiet r)⟩
  | @overtaken i since p b hc =>
    obtain ⟨ho, fx, -, he⟩ := Register.resume_overtaken (p := p) hc b t.now
    have event : t.controller.event .onlineStart i ∈
        (Register.resume t.controller i (.binding p) (.bound b) t.now).effects := by
      rw [he]
      exact List.mem_append_right _ (List.mem_singleton.mpr rfl)
    refine h.goes g hu (fun _ no => ?_) fun _ => g.not_discreet event rfl
    exact absurd (ho.symm.trans no) (by simp)
  | retracted isProbe r hc =>
    cases r with
    | ok v =>
      obtain ⟨b, -, hs, -⟩ := Deregister.resume_ok hc v
      exact h.goes_placed g hu (b := b) hs
    | error f =>
      obtain ⟨b, -, hs, -⟩ := Deregister.resume_error hc f
      exact h.goes_placed g hu (b := b) hs
  | timer d isInterrupted =>
    refine h.goes g hu (fun hr _ => ?_) fun ho => by cases ho
    rcases hr with hr | hr <;> cases hr

end Hidden

/-- Every move hides what was hidden. -/
theorem Hidden.concat {t₀ : Traffic} {ms : List Move} (h : Hidden t₀ ms (t₀.run ms))
    (sound : (t₀.run ms).Sound) (m : Move) : Hidden t₀ (ms ++ [m]) ((t₀.run ms).step m) := by
  have hu (k : Nat) : Unseen k t₀ (ms ++ [m]) ↔ Unseen k t₀ ms ∧
      (m.ActsOn (t₀.run ms) k → (t₀.run ms).Discreet ((t₀.run ms).step m)) := along_concat ..
  have move := (t₀.run ms).stepped m
  generalize (t₀.run ms).step m = u at hu move ⊢
  generalize t₀.run ms = t at h sound hu move ⊢
  cases move with
  | idle => exact h.idle (fun k => (hu k).trans (and_iff_left fun _ => ⟨rfl, rfl, rfl⟩)) rfl
  | register i =>
    have g := goes_launch (t := t) (i := i) (s := ⟨t.controller, .register .lookup, []⟩)
      (Step.serves_of_quiet rfl rfl)
    refine h.goes g hu (fun _ _ => ?_) fun ho => by cases ho
    exact ⟨h.new _ (Nat.le_refl _), g.discreet rfl rfl⟩
  | deregister i isProbe => exact h.goes_started (goes_launch (serves_start ..)) hu
  | answer call awaits => exact h.goes_answered sound call awaits (goes_proceed call _) hu

/-- A run hides the calls that were refused without being overtaken. -/
theorem run_hidden (τ : Timer) (settings : GracefulSettings) (server : ProbeServer)
    (ms : List Move) :
    Hidden (start τ settings server) ms ((start τ settings server).run ms) := by
  induction ms using List.reverseRecOn with
  | nil =>
    have none (n : Nat) (s : Stage) : (start τ settings server).stage? n ≠ some s := by
      simp [stage?, start]
    exact ⟨fun _ _ => trivial, fun n hs => absurd hs (none n _), fun n s hs => absurd hs (none n s),
      fun n s hs => absurd hs (none n s)⟩
  | append_singleton ms m ih =>
    rw [run_append]
    exact ih.concat (run_sound τ settings server ms) m

/-! ## Announcements -/

/-- Whether a deed is that an instance leaves `unregistered` for the gate or for the registrar. -/
def Deed.departs (k : InstanceKey) : Deed → Bool
  | effect x => x.departs k
  | _ => false

/-- How often an instance has left `unregistered` for the gate or for the registrar. -/
def departures (t : Traffic) (k : InstanceKey) : Nat := t.trace.countP (·.deed.departs k)

/-- How often an instance was announced. -/
def announcements (t : Traffic) (k : InstanceKey) : Nat := (t.reports k).count .onlineStart

/-- Whether a call for an instance was overtaken. -/
def Call.isOvertaken (k : InstanceKey) (x : Call) : Bool := x.inst.key = k && x.stage.isOvertaken

/-- How many calls for an instance were overtaken. -/
def overtaken (t : Traffic) (k : InstanceKey) : Nat := t.calls.countP (Call.isOvertaken k)

section Goes

variable {t u : Traffic} {n : Nat} {i : Instance} {told : List Answer} {s : Step Stage}
  (g : Goes t n i told s u) (k : InstanceKey)
include g

theorem Goes.announcements : u.announcements k = t.announcements k +
    if i.key = k then (s.effects.filterMap Effect.kind?).count .onlineStart else 0 := by
  unfold Traffic.announcements
  rw [g.reports k, List.count_append]
  split <;> rfl

theorem Goes.departures : u.departures k = t.departures k +
    if i.key = k then s.effects.countP (Effect.departs k) else 0 := by
  have deeds : (deedsOf s).countP (Deed.departs k) = s.effects.countP (Effect.departs k) := by
    rw [deedsOf, List.countP_append, List.countP_map]
    rfl
  have told : (told.map Deed.told).countP (Deed.departs k) = 0 := by
    rw [List.countP_map]
    exact List.countP_false ▸ rfl
  unfold Traffic.departures
  rw [g.trace, note, List.countP_append, List.countP_map]
  show _ + (_ ++ deedsOf s).countP (Deed.departs k) = _
  rw [List.countP_append, told, deeds, Nat.zero_add]
  split
  · rfl
  · next hk =>
    have other : s.effects.countP (Effect.departs k) = 0 := by
      rw [List.countP_eq_zero]
      intro x hx
      simp [Effect.departs_of_isFor hk (g.serves.isFor x hx)]
    rw [other]

end Goes

theorem overtaken_launch (t : Traffic) (i : Instance) (s : Step Stage) (k : InstanceKey) :
    (t.launch i s).overtaken k =
      t.overtaken k + if i.key = k then s.stage.isOvertaken.toNat else 0 := by
  refine (countP_launch ..).trans ?_
  by_cases hk : i.key = k <;> simp [Call.isOvertaken, overtaken, hk]

/-- A call that still waited was not overtaken. -/
theorem isOvertaken_of_awaits {s : Stage} {a : Answer} (h : s.awaits a = true) :
    s.isOvertaken = false := by
  rcases Stage.cases_of_awaits h with
    ⟨r, b, rfl, rfl, hr⟩ | ⟨isProbe, r, rfl, rfl⟩ | ⟨d, isInterrupted, rfl, rfl⟩
  · cases r with
    | done r => cases hr
    | _ => rfl
  · rfl
  · rfl

theorem overtaken_proceed {t : Traffic} {n : Nat} {x : Call} {a : Answer}
    (hx : t.calls[n]? = some x) (ha : x.stage.awaits a = true) (k : InstanceKey) :
    (t.proceed n x a).overtaken k = t.overtaken k +
      if x.inst.key = k then (x.resume t.controller a t.now).stage.isOvertaken.toNat else 0 := by
  have before : x.isOvertaken k = false := by
    rw [Call.isOvertaken, isOvertaken_of_awaits ha, Bool.and_false]
  have timers (i : Instance) (d : Duration) (now : Nat) :
      Call.isOvertaken k ⟨i, .warmup d, now⟩ = false := Bool.and_false _
  refine (countP_proceed timers hx before a).trans ?_
  by_cases hk : x.inst.key = k <;> simp [Call.isOvertaken, overtaken, hk]

theorem departures_retracted {c : Controller} {i : Instance}
    (hc : c.state? i.key = some .deregistering) (isProbe : Bool) (r : Except Failure Unit) :
    (ofDeregister i isProbe (Deregister.resume c i .retracting r)).effects.countP
      (Effect.departs i.key) = 0 := by
  obtain ⟨fx, hq, he⟩ := ofDeregister_eq i isProbe (Deregister.resume c i .retracting r)
  rw [he, List.countP_append, Effect.departures_of_quiet hq]
  cases r with
  | ok v =>
    simp only [Deregister.resume, Deregister.answered]
    rw [Controller.moving_eq _ _ rfl, if_pos hc]
    rfl
  | error f =>
    simp only [Deregister.resume, Deregister.answered]
    rw [Controller.moving_eq _ _ rfl, if_pos hc]
    rfl

theorem silent_start (c : Controller) (i : Instance) (isProbe : Bool) :
    ((ofDeregister i isProbe (Deregister.start c i)).effects.filterMap Effect.kind?).count
        .onlineStart = 0 ∧
      (ofDeregister i isProbe (Deregister.start c i)).effects.countP
        (Effect.departs i.key) = 0 := by
  obtain ⟨fx, hq, he⟩ := ofDeregister_eq i isProbe (Deregister.start c i)
  rw [kinds_ofDeregister, he, List.countP_append, Effect.departures_of_quiet hq]
  by_cases hc : c.state? i.key = some .registered
  · refine ⟨by rw [Deregister.kinds_start hc]; rfl, ?_⟩
    unfold Deregister.start
    rw [hc]
    show (c.moving i.key .registered .deregistering _ _).effects.countP _ + 0 = 0
    rw [Controller.moving_eq _ _ rfl, if_pos hc]
    rfl
  · have quiet := Deregister.start_quiet hc
    rw [Effect.kinds_of_quiet quiet, Effect.departures_of_quiet quiet]
    exact ⟨rfl, rfl⟩

/-- A call that goes on announces its instance as often as it claims it, and once more if it was
overtaken. -/
theorem announced_resume {x : Call} {c : Controller} {a : Answer} (h : Advance c x a)
    (on : c.settings.enabled = true) (now : Nat) :
    ((x.resume c a now).effects.filterMap Effect.kind?).count .onlineStart =
      (x.resume c a now).effects.countP (Effect.departs x.inst.key) +
        (x.resume c a now).stage.isOvertaken.toNat := by
  cases h with
  | @admitted i s since a ha hc =>
    obtain ⟨b, hs, -⟩ := Register.resume_place ha hc now
    have claimed : (Stage.register (Register.resume c i s a now).stage).isOvertaken = false :=
      (refusal?_of_place? (s := .register _) hs).2
    show _ = _ + (Stage.register (Register.resume c i s a now).stage).isOvertaken.toNat
    rw [claimed]
    exact Register.balanced_resume ha hc on now
  | @late i since r hc =>
    obtain ⟨x, hx⟩ := Call.resume_turnedAway hc since r now
    rw [hx]
    exact Step.Balanced.of_quiet (Register.policyEffects_quiet r)
  | @overtaken i since p b hc =>
    obtain ⟨ho, fx, hq, he⟩ := Register.resume_overtaken (p := p) hc b now
    show ((Register.resume c i (.binding p) (.bound b) now).effects.filterMap
        Effect.kind?).count _ =
      (Register.resume c i (.binding p) (.bound b) now).effects.countP _ +
        (Stage.register (Register.resume c i (.binding p) (.bound b) now).stage).isOvertaken.toNat
    rw [ho, he, List.filterMap_append, List.countP_append, Effect.kinds_of_quiet hq,
      Effect.departures_of_quiet hq]
    rfl
  | @retracted i since isProbe r hc =>
    have kinds := (kinds_ofDeregister i isProbe _).trans (Deregister.kinds_resume hc r)
    have departures := departures_retracted hc isProbe r
    show ((ofDeregister i isProbe _).effects.filterMap Effect.kind?).count _ =
      (ofDeregister i isProbe _).effects.countP _ + 0
    rw [kinds, departures]
    cases r <;> rfl
  | timer d isInterrupted => cases isInterrupted <;> rfl

/-- An instance is announced as often as it leaves `unregistered`, and once more for each call that
was overtaken. -/
structure Announced (t : Traffic) : Prop where
  sound : t.Sound
  on : t.controller.settings.enabled = true
  count : ∀ k, t.announcements k = t.departures k + t.overtaken k

/-- Every move preserves the count of announcements. -/
theorem Announced.step {t : Traffic} (h : t.Announced) (m : Move) : (t.step m).Announced := by
  refine ⟨h.sound.step m, (t.settings_step m).symm ▸ h.on, fun k => ?_⟩
  have count := h.count k
  have move := t.stepped m
  generalize t.step m = u at move
  cases move with
  | idle => exact count
  | register i =>
    have g := goes_launch (t := t) (i := i) (s := ⟨t.controller, .register .lookup, []⟩)
      (Step.serves_of_quiet rfl rfl)
    rw [g.announcements, g.departures, overtaken_launch]
    simpa [Stage.isOvertaken] using count
  | deregister i isProbe =>
    have g := goes_launch (t := t) (serves_start t.controller i isProbe)
    obtain ⟨kinds, departures⟩ := silent_start t.controller i isProbe
    have notOvertaken :
        (ofDeregister i isProbe (Deregister.start t.controller i)).stage.isOvertaken = false := rfl
    rw [g.announcements, g.departures, overtaken_launch, notOvertaken]
    split
    · next hk => rw [kinds, ← hk, departures, hk, count]; rfl
    · exact count
  | @answer n x a call awaits =>
    have g := goes_proceed call a
    rw [g.announcements, g.departures, overtaken_proceed call awaits]
    split
    · next hk =>
      have new := announced_resume (Call.advance awaits (h.sound.owns call)) h.on t.now
      rw [hk] at new
      omega
    · exact count

/-! ## Being overtaken -/

/-- Whether the call with this number has come to wait for the listener while its instance was
unregistered, and still waits there after all moves while its instance is not. Only another call can
have moved the instance on. -/
def IsPassed (n : Nat) (t₀ : Traffic) (ms : List Move) : Prop :=
  ∃ (past rest : List Move) (i : Instance) (p : Policy) (since : Nat), ms = past ++ rest ∧
    (t₀.run past).calls[n]? = some ⟨i, .register (.binding p), since⟩ ∧
    (t₀.run past).controller.state? i.key = some .unregistered ∧
    (t₀.run ms).calls[n]? = some ⟨i, .register (.binding p), since⟩ ∧
    (t₀.run ms).controller.state? i.key ≠ some .unregistered

/-- Whether the call with this number is answered at the listener when its instance has moved on. -/
def Overtaken (n : Nat) (t₀ : Traffic) (ms : List Move) : Prop :=
  ∃ past b rest, ms = past ++ .answer n (.register (.bound b)) :: rest ∧ IsPassed n t₀ past

theorem overtaken_concat (n : Nat) (t₀ : Traffic) (ms : List Move) (m : Move) :
    Overtaken n t₀ (ms ++ [m]) ↔
      Overtaken n t₀ ms ∨ (∃ b, m = .answer n (.register (.bound b))) ∧ IsPassed n t₀ ms := by
  constructor
  · rintro ⟨past, b, rest, split, passed⟩
    rcases List.eq_nil_or_concat rest with rfl | ⟨rest', m', rfl⟩
    · obtain ⟨rfl, hm⟩ := List.append_inj' split rfl
      exact .inr ⟨⟨b, List.singleton_inj.mp hm⟩, passed⟩
    · rw [List.concat_eq_append, ← List.cons_append, ← List.append_assoc] at split
      exact .inl ⟨past, b, rest', (List.append_inj' split rfl).1, passed⟩
  · rintro (⟨past, b, rest, rfl, passed⟩ | ⟨⟨b, rfl⟩, passed⟩)
    · exact ⟨past, b, rest ++ [m], by simp, passed⟩
    · exact ⟨ms, b, [], rfl, passed⟩

/-- What a run tells of the calls that wait for the listener or were overtaken there. -/
structure Chronicle (t₀ : Traffic) (ms : List Move) (t : Traffic) : Prop where
  waiting : ∀ (n : Nat) (i : Instance) (p : Policy) (since : Nat),
    t.calls[n]? = some ⟨i, .register (.binding p), since⟩ → ∃ past rest, ms = past ++ rest ∧
      (t₀.run past).calls[n]? = some ⟨i, .register (.binding p), since⟩ ∧
      (t₀.run past).controller.state? i.key = some .unregistered
  overtaken : ∀ (n : Nat) (x : Call), t.calls[n]? = some x →
    (x.stage.isOvertaken = true ↔ Overtaken n t₀ ms)
  begun : ∀ n, Overtaken n t₀ ms → n < t.calls.length

namespace Chronicle

variable {t₀ t u : Traffic} {ms : List Move} {m : Move} (h : Chronicle t₀ ms t)
include h

theorem idle (hu : ∀ k, Overtaken k t₀ (ms ++ [m]) ↔ Overtaken k t₀ ms)
    (calls : u.calls = t.calls) : Chronicle t₀ (ms ++ [m]) u where
  waiting n i p since hx := by
    obtain ⟨past, rest, rfl, there⟩ := h.waiting n i p since (calls ▸ hx)
    exact ⟨past, rest ++ [m], List.append_assoc .., there⟩
  overtaken n x hx := by
    rw [hu n]
    exact h.overtaken n x (calls ▸ hx)
  begun n hn := by
    rw [calls]
    exact h.begun n ((hu n).mp hn)

/-- A call goes on: only what becomes of it has to be looked at. -/
theorem goes {n : Nat} {i : Instance} {told : List Answer} {s : Step Stage} {isLate : Prop}
    (run : t₀.run (ms ++ [m]) = u) (g : Goes t n i told s u)
    (hu : ∀ k, Overtaken k t₀ (ms ++ [m]) ↔ Overtaken k t₀ ms ∨ k = n ∧ isLate)
    (before : ¬Overtaken n t₀ ms) (late : s.stage.isOvertaken = true ↔ isLate)
    (binding : ∀ p, s.stage = .register (.binding p) →
      s.controller.state? i.key = some .unregistered) : Chronicle t₀ (ms ++ [m]) u := by
  -- A call that was not moved stands where it stood, or it is a new timer.
  have there (k : Nat) (hk : k ≠ n) (y : Call) (hy : u.calls[k]? = some y) :
      t.calls[k]? = some y ∨ t.calls.length ≤ k ∧ ∃ d, y.stage = .warmup d := by
    rcases g.others k hk y hy with hy | ⟨new, -, d, -, hd⟩
    · exact .inl hy
    · exact .inr ⟨new, d, hd⟩
  have acts (k : Nat) (hk : k ≠ n) : Overtaken k t₀ (ms ++ [m]) ↔ Overtaken k t₀ ms := by
    rw [hu k]
    exact or_iff_left fun hn => hk hn.1
  refine ⟨fun k j p since hy => ?_, fun k y hy => ?_, fun k hk => ?_⟩
  · by_cases hk : k = n
    · subst hk
      have same := Option.some.inj (g.call.symm.trans hy)
      obtain ⟨rfl, hs, -⟩ := Call.mk.inj same
      refine ⟨ms ++ [m], [], (List.append_nil _).symm, run ▸ hy, ?_⟩
      rw [run, g.controller]
      exact binding p hs
    · rcases there k hk _ hy with hy | ⟨-, d, hd⟩
      · obtain ⟨past, rest, rfl, free⟩ := h.waiting k j p since hy
        exact ⟨past, rest ++ [m], List.append_assoc .., free⟩
      · cases hd
  · by_cases hk : k = n
    · subst hk
      obtain rfl := Option.some.inj (g.call.symm.trans hy)
      rw [hu k, or_iff_right before, and_iff_right rfl]
      exact late
    · rw [acts k hk]
      rcases there k hk y hy with hy | ⟨new, d, hd⟩
      · exact h.overtaken k y hy
      · rw [hd]
        exact iff_of_false (by simp [Stage.isOvertaken])
          fun ho => Nat.not_lt.mpr new (h.begun k ho)
  · by_cases hn : k = n
    · subst hn
      exact (List.getElem?_eq_some_iff.mp g.call).1
    · exact Nat.lt_of_lt_of_le (h.begun k ((acts k hn).mp hk)) g.length

/-- A call that was answered was overtaken exactly if it came too late with its claim. -/
theorem answered (sound : t.Sound) (run : t₀.run ms = t) {n : Nat} {x : Call} {a : Answer}
    (call : t.calls[n]? = some x) (awaits : x.stage.awaits a = true)
    (after : t₀.run (ms ++ [.answer n a]) = u)
    (g : Goes t n x.inst [a] (x.resume t.controller a t.now) u) :
    Chronicle t₀ (ms ++ [.answer n a]) u := by
  have before : ¬Overtaken n t₀ ms := by
    rw [← h.overtaken n x call, isOvertaken_of_awaits awaits]
    exact Bool.false_ne_true
  have hu (k : Nat) : Overtaken k t₀ (ms ++ [.answer n a]) ↔
      Overtaken k t₀ ms ∨ k = n ∧ (∃ b, a = .register (.bound b)) ∧ IsPassed n t₀ ms := by
    rw [overtaken_concat]
    refine or_congr_right ⟨?_, ?_⟩
    · rintro ⟨⟨b, hm⟩, passed⟩
      obtain ⟨rfl, rfl⟩ := Move.answer.inj hm
      exact ⟨rfl, ⟨b, rfl⟩, passed⟩
    · rintro ⟨rfl, ⟨b, rfl⟩, passed⟩
      exact ⟨⟨b, rfl⟩, passed⟩
  cases Call.advance awaits (sound.owns call) with
  | @admitted i stage since a ha hc =>
    obtain ⟨b, place, state⟩ := Register.resume_place ha hc t.now
    refine h.goes after g hu before (iff_of_false ?_ ?_) fun p hp => ?_
    · have claimed := (refusal?_of_place? (s := .register _) place).2
      exact Bool.eq_false_iff.mp claimed
    · -- An instance whose call is admitted at the listener is unregistered.
      rintro ⟨⟨b, hb⟩, past, rest, j, p, since', -, -, -, still, moved⟩
      obtain ⟨rfl, hs, rfl⟩ := Call.mk.inj (Option.some.inj (call.symm.trans (run ▸ still)))
      obtain rfl : stage = .binding p := Stage.register.inj hs
      rw [run] at moved
      exact moved hc
    · have hp : (Register.resume t.controller i stage a t.now).stage = .binding p :=
        Stage.register.inj hp
      rw [hp] at place
      exact state.trans place.symm
  | @late i since r hc =>
    obtain ⟨x, hx⟩ := Call.resume_turnedAway hc since r t.now
    rw [hx] at g
    refine h.goes after g hu before (iff_of_false (by simp [Stage.isOvertaken, Register.refuseMove,
      Register.refuse]) ?_) fun p hp => by cases hp
    rintro ⟨⟨b, hb⟩, -⟩
    cases hb
  | @overtaken i since p b hc =>
    obtain ⟨ho, -⟩ := Register.resume_overtaken (p := p) hc b t.now
    refine h.goes after g hu before (iff_of_true ho ⟨⟨b, rfl⟩, ?_⟩) fun q hq => ?_
    · obtain ⟨past, rest, split, there, free⟩ := h.waiting n i p since call
      exact ⟨past, rest, i, p, since, split, there, free, run ▸ call, run ▸ hc⟩
    · have waits : (Stage.register (Register.resume t.controller i (.binding p) (.bound b)
          t.now).stage).isOvertaken = false := by
        rw [show Stage.register _ = Stage.register (.binding q) from hq]
        rfl
      exact absurd (ho.symm.trans waits) (by simp)
  | @retracted i since isProbe r hc =>
    refine h.goes after g hu before (iff_of_false ?_ ?_) fun p hp => by cases hp
    · exact Bool.false_ne_true
    · rintro ⟨⟨b, hb⟩, -⟩
      cases hb
  | timer d isInterrupted =>
    refine h.goes after g hu before (iff_of_false ?_ ?_) fun p hp => by cases hp
    · exact Bool.false_ne_true
    · rintro ⟨⟨b, hb⟩, -⟩
      cases hb

end Chronicle

/-- Every move continues the chronicle. -/
theorem Chronicle.concat {t₀ : Traffic} {ms : List Move} (h : Chronicle t₀ ms (t₀.run ms))
    (sound : (t₀.run ms).Sound) (m : Move) : Chronicle t₀ (ms ++ [m]) ((t₀.run ms).step m) := by
  have after : t₀.run (ms ++ [m]) = (t₀.run ms).step m := run_append ..
  have new : ¬Overtaken (t₀.run ms).calls.length t₀ ms := fun ho =>
    Nat.lt_irrefl _ (h.begun _ ho)
  have silent (hm : ∀ k b, m = .answer k (.register (.bound b)) → ¬IsPassed k t₀ ms) (k : Nat) :
      Overtaken k t₀ (ms ++ [m]) ↔ Overtaken k t₀ ms := by
    rw [overtaken_concat]
    exact or_iff_left fun ⟨⟨b, hb⟩, passed⟩ => hm k b hb passed
  have silently (k : Nat) : Overtaken k t₀ ms ↔
      Overtaken k t₀ ms ∨ k = (t₀.run ms).calls.length ∧ False := by
    rw [and_false, or_false]
  cases m with
  | pass millis => exact h.idle (silent nofun) rfl
  | cancel => exact h.idle (silent nofun) rfl
  | register i =>
    have g := goes_launch (t := t₀.run ms) (i := i)
      (s := ⟨(t₀.run ms).controller, .register .lookup, []⟩) (Step.serves_of_quiet rfl rfl)
    refine h.goes after g (fun k => (silent nofun k).trans (silently k)) new (iff_of_false ?_ id)
      fun p hp => by cases hp
    exact Bool.false_ne_true
  | deregister i isProbe =>
    have g := goes_launch (t := t₀.run ms) (serves_start (t₀.run ms).controller i isProbe)
    refine h.goes after g (fun k => (silent nofun k).trans (silently k)) new (iff_of_false ?_ id)
      fun p hp => by cases hp
    exact Bool.false_ne_true
  | answer n a =>
    by_cases taken : ∃ x, (t₀.run ms).calls[n]? = some x ∧
        x.accepts (t₀.run ms).timer (t₀.run ms).isCancelled (t₀.run ms).now a = true
    · obtain ⟨x, call, ha⟩ := taken
      have awaits : x.stage.awaits a = true := by
        simp only [Call.accepts, Bool.and_eq_true] at ha
        exact ha.1.1
      rw [step_answer call ha] at after ⊢
      exact h.answered sound rfl call awaits after (goes_proceed call a)
    · have same : (t₀.run ms).step (.answer n a) = t₀.run ms := by
        cases hx : (t₀.run ms).calls[n]? with
        | none => simp [step, hx]
        | some x =>
          simp only [step, hx]
          exact if_neg fun ha => taken ⟨x, hx, ha⟩
      rw [same]
      refine h.idle (silent fun k b hm => ?_) rfl
      -- What waits for the listener takes its answer.
      rintro ⟨past, rest, i, p, since, -, -, -, there, -⟩
      obtain ⟨rfl, rfl⟩ := Move.answer.inj hm
      exact taken ⟨_, there, rfl⟩

/-- A run tells which calls were overtaken. -/
theorem run_chronicle (τ : Timer) (settings : GracefulSettings) (server : ProbeServer)
    (ms : List Move) :
    Chronicle (start τ settings server) ms ((start τ settings server).run ms) := by
  induction ms using List.reverseRecOn with
  | nil =>
    have none (n : Nat) (x : Call) : (start τ settings server).calls[n]? ≠ some x := by simp [start]
    refine ⟨fun n i p since hx => absurd hx (none n _), fun n x hx => absurd hx (none n x), ?_⟩
    rintro n ⟨past, b, rest, split, -⟩
    simp at split
  | append_singleton ms m ih =>
    rw [run_append]
    exact ih.concat (run_sound τ settings server ms) m

/-- A call that is refused a change of state has done nothing that can be seen exactly if it was not
overtaken, that is, if its instance was not moved on while it waited for the listener. And an
instance is announced as often as it leaves `unregistered` for the gate or for the registrar, and
once more for each call that was overtaken. -/
theorem refused_unseen_iff (τ : Timer) (settings : GracefulSettings)
    (on : settings.enabled = true) (server : ProbeServer) (ms : List Move) :
    let t₀ := start τ settings server
    let t := t₀.run ms
    (∀ n x, t.calls[n]? = some x → x.stage.refusal?.isSome = true →
      (Unseen n t₀ ms ↔ ¬Overtaken n t₀ ms)) ∧
    (∀ n x, t.calls[n]? = some x → (x.stage.isOvertaken = true ↔ Overtaken n t₀ ms)) ∧
    ∀ k, t.announcements k = t.departures k + t.overtaken k := by
  intro t₀ t
  have hidden : Hidden t₀ ms t := run_hidden τ settings server ms
  have chronicle : Chronicle t₀ ms t := run_chronicle τ settings server ms
  have announced : t.Announced :=
    run_induction (P := Announced) ⟨sound_start τ settings server, on, fun _ => rfl⟩
      (fun u m _ h => h.step m) ms fun _ _ => trivial
  refine ⟨fun n x hx he => ?_, chronicle.overtaken, announced.count⟩
  have hs : t.stage? n = some x.stage := by rw [stage?, hx]; rfl
  rw [← chronicle.overtaken n x hx, Bool.not_eq_true]
  refine ⟨fun unseen => ?_, fun no => hidden.refused n x.stage hs he no⟩
  cases ho : x.stage.isOvertaken with
  | false => rfl
  | true => exact absurd unseen (hidden.overtaken n x.stage hs ho)

/-- A registration whose lookup is answered while another one waits at the gate is refused, and
nothing can be seen of it. -/
theorem refused_unseen_gate :
    let settings : GracefulSettings :=
      { enabled := true, delay := { enabled := true, kind := .byTime, interval := .ofSeconds 5 } }
    let t₀ := start .thirtyYears settings { listen := "127.0.0.1:0" }
    let i : Instance := ⟨"default", "echo", "127.0.0.1", 8080, none, none, none, none⟩
    let ms : List Move :=
      [.register i, .register i, .answer 0 (.register (.rule (.ok none))),
        .answer 1 (.register (.rule (.ok none)))]
    settings.enabled = true ∧
      (((t₀.run ms).stage? 1).bind Stage.refusal?).isSome = true ∧ Unseen 1 t₀ ms ∧
      (t₀.run ms).announcements i.key = 1 ∧ (t₀.run ms).departures i.key = 1 := by
  intro settings t₀ i ms
  obtain ⟨unseen, overtaken_iff, count⟩ :=
    refused_unseen_iff .thirtyYears settings rfl { listen := "127.0.0.1:0" } ms
  have refused : (((t₀.run ms).stage? 1).bind Stage.refusal?).isSome = true := by decide +kernel
  have departures : (t₀.run ms).departures i.key = 1 := by decide +kernel
  have overtaken : (t₀.run ms).overtaken i.key = 0 := by decide +kernel
  have passed : ((t₀.run ms).stage? 1).map Stage.isOvertaken = some false := by decide +kernel
  obtain ⟨x, hx⟩ : ∃ x, (t₀.run ms).calls[1]? = some x :=
    Option.isSome_iff_exists.mp (by decide +kernel)
  have stage : (t₀.run ms).stage? 1 = some x.stage := by rw [stage?, hx]; rfl
  refine ⟨rfl, refused, (unseen 1 x hx ?_).mpr fun ho => ?_, ?_, departures⟩
  · rwa [stage] at refused
  · have late := (overtaken_iff 1 x hx).mpr ho
    rw [stage] at passed
    simp [late] at passed
  · rw [count i.key, departures, overtaken]

/-- A rule that switches the readiness probe off, as a list of rules whose sections are given by
place. -/
def unprobedRule : RemoteRule :=
  ⟨.lossless, .array [.array [.array [.null, .array [.bool false]]]]⟩

/-- A registration waits for the listener. Another one, under a rule without probes, does not have
to and claims the instance; then the first one is refused after it has announced the instance once
more. -/
theorem announced_twice :
    let settings : GracefulSettings :=
      { enabled := true, readiness := ⟨true, defaultReadinessPath⟩ }
    let t₀ := start .thirtyYears settings { listen := "nocolon" }
    let i : Instance := ⟨"default", "echo", "127.0.0.1", 8080, none, none, none, none⟩
    let ms : List Move :=
      [.register i, .register i, .answer 0 (.register (.rule (.ok none))),
        .answer 1 (.register (.rule (.ok (some unprobedRule)))),
        .answer 0 (.register (.bound (.error "refused")))]
    let t := t₀.run ms
    (t.stage? 0).bind Stage.refusal? =
        some (.invalidTransition i.key.text .registering .registering) ∧
      ¬Unseen 0 t₀ ms ∧ t.announcements i.key = 2 ∧ t.departures i.key = 1 := by
  intro settings t₀ i ms t
  refine ⟨by decide +kernel, fun unseen => ?_, by decide +kernel, by decide +kernel⟩
  have last :=
    (along_concat t₀ (ms.take 4) (.answer 0 (.register (.bound (.error "refused"))))).mp unseen
  have discreet := last.2 rfl
  exact absurd discreet.sights (by decide +kernel)

end Traffic

end InstanceLifecycle
