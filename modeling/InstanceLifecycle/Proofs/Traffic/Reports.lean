import InstanceLifecycle.Proofs.Traffic.Outcome

/-!
# What calls report

A call that goes on changes the states of one instance, and all that it reports is about that
instance. So what was reported about an instance is what its calls have reported, and a call of
another instance adds nothing to it.

Results:

* `Call.advance`: a call that is answered is admitted, comes too late or ends its wait;
* `serves_resume`, `serves_start`: every effect of a step is about the instance of its call, and the
  settings stay as they are;
* `Goes.reports`, `Goes.logOf`: what is written down when a call goes on;
* `run_numbered`: what was written down belongs to a call, and is about the instance of that call;
* `run_resolved`: a call goes on under the policy for an answer to its lookup.
-/

namespace InstanceLifecycle

/-! ## Effects about an instance -/

/-- Whether an effect is about an instance, if it is about one at all. -/
@[simp]
def Effect.IsFor (i : Instance) : Effect → Prop
  | event _ j _ => j = i
  | moved k _ _ => k = i.key
  | warmup j _ => j = i
  | _ => True

theorem Effect.isFor_of_quiet {i : Instance} {fx : List Effect} (h : fx.all isQuiet = true) :
    ∀ x ∈ fx, x.IsFor i := by
  intro x hx
  have hq := List.all_eq_true.mp h x hx
  cases x with
  | event kind j info => cases hq
  | moved j a b => cases hq
  | warmup j d => cases hq
  | _ => trivial

/-- A step of a call for an instance at a controller: all its effects are about the instance, and
the settings stay as they are. -/
structure Step.Serves {σ : Type} (c : Controller) (i : Instance) (s : Step σ) : Prop where
  isFor : ∀ x ∈ s.effects, x.IsFor i
  settings : s.controller.settings = c.settings

namespace Step

variable {σ : Type} {c : Controller} {i : Instance}

theorem Serves.after {s : Step σ} (h : s.Serves c i) {fx : List Effect}
    (hf : ∀ x ∈ fx, x.IsFor i) : (s.after fx).Serves c i where
  isFor x hx := by
    rcases List.mem_append.mp hx with hx | hx
    · exact hf x hx
    · exact h.isFor x hx
  settings := h.settings

/-- It does not matter which controller with the same settings a step began at. -/
theorem Serves.of_settings {d : Controller} {s : Step σ} (h : s.Serves d i)
    (hd : d.settings = c.settings) : s.Serves c i := ⟨h.isFor, h.settings.trans hd⟩

/-- A step that only logs and counts serves every instance. -/
theorem serves_of_quiet {s : Step σ} (hs : s.controller.settings = c.settings)
    (h : s.effects.all Effect.isQuiet = true) : s.Serves c i :=
  ⟨Effect.isFor_of_quiet h, hs⟩

theorem serves_moving {a b : RegistrationState} {refused : TransitionError → σ}
    {next : Controller → Step σ} (hn : ∀ d, (next d).Serves d i) :
    (c.moving i.key a b refused next).Serves c i := by
  unfold Controller.moving
  split
  · next states _ =>
    have h : (next { c with states }).Serves c i := (hn _).of_settings rfl
    exact h.after (by simp)
  · exact serves_of_quiet rfl rfl

theorem serves_installing {e : EndpointPolicy} {h : Handler} {refused : ProbeError → σ}
    {next : Controller → Step σ} (hn : ∀ d, (next d).Serves d i) :
    (c.installing e h refused next).Serves c i := by
  unfold Controller.installing
  split
  · split
    · next server _ =>
      have h : (next { c with server }).Serves c i := (hn _).of_settings rfl
      exact h.after (by simp)
    · exact serves_of_quiet rfl rfl
  · exact hn c

end Step

namespace Register

variable {c : Controller} {i : Instance} {p : Policy}

theorem serves_callRegistrar (origin : RegistrationState) :
    (callRegistrar c i p origin).Serves c i :=
  Step.serves_moving fun _ => Step.serves_of_quiet rfl rfl

theorem serves_followGate (g : GateStage) : (followGate c i p g).Serves c i := by
  unfold followGate
  split
  · refine (serves_callRegistrar _).after (Effect.isFor_of_quiet ?_)
    unfold passEffects
    split <;> rfl
  · exact Step.serves_moving fun _ => Step.serves_of_quiet rfl rfl
  · exact Step.serves_of_quiet rfl rfl

theorem serves_announce (now : Nat) : (announce c i p now).Serves c i := by
  unfold announce
  refine Step.Serves.after ?_ (by simp [Controller.event])
  split
  · exact Step.serves_moving fun d =>
      (serves_followGate _).after (Effect.isFor_of_quiet (Gate.quiet_arrive ..))
  · exact serves_callRegistrar _

theorem serves_followBinding (now : Nat) (binding : Except String String) :
    (followBinding c i p now binding).Serves c i := by
  have announced (server : ProbeServer) {fx : List Effect} (h : fx.all Effect.isQuiet = true) :
      ((announce { c with server } i p now).after fx).Serves c i := by
    have key : (announce { c with server } i p now).Serves c i :=
      (serves_announce now).of_settings rfl
    exact key.after (Effect.isFor_of_quiet h)
  unfold followBinding
  rcases c.server.run binding with ⟨server, a | e⟩
  · exact announced server (by simp [Controller.entry])
  · exact announced server (by split <;> simp [Controller.entry])

theorem serves_startProbes (now : Nat) : (startProbes c i p now).Serves c i := by
  unfold startProbes
  split
  · exact serves_followBinding now _
  · exact Step.serves_of_quiet rfl rfl

theorem serves_installProbes (now : Nat) : (installProbes c i p now).Serves c i := by
  unfold installProbes
  split
  · exact Step.serves_installing fun _ => Step.serves_installing fun _ => serves_startProbes now
  · exact serves_announce now

theorem serves_begin (now : Nat) : (begin c i p now).Serves c i := by
  unfold begin
  split
  · exact Step.serves_of_quiet rfl rfl
  · refine Step.Serves.after ?_ (by split <;> simp)
    split
    · exact (serves_installProbes now).of_settings rfl
    · exact (serves_callRegistrar _).of_settings rfl

theorem serves_succeed (r : Registration) : (succeed c i p r).Serves c i := by
  unfold succeed
  refine Step.Serves.after (Step.serves_moving fun d => ⟨fun x hx => ?_, rfl⟩)
    (by split <;> simp [Controller.event])
  rcases List.mem_append.mp hx with hx | hx
  · exact Effect.isFor_of_quiet (by simp [Controller.entry]) x hx
  · split at hx
    · simp only [List.mem_cons, List.not_mem_nil, or_false] at hx
      rcases hx with rfl | rfl <;> simp [Controller.event]
    · cases hx

/-- A registration serves its instance. -/
theorem serves_resume (stage : RegisterStage) (a : RegisterAnswer) (now : Nat) :
    (resume c i stage a now).Serves c i := by
  unfold resume
  split
  · exact (serves_begin now).after (Effect.isFor_of_quiet (policyEffects_quiet _))
  · exact serves_followBinding now _
  · exact (serves_followGate _).after (Effect.isFor_of_quiet (Gate.quiet_resume ..))
  · exact serves_succeed _
  · exact Step.serves_moving fun _ => Step.serves_of_quiet rfl rfl
  · exact Step.serves_of_quiet rfl rfl

end Register

namespace Deregister

variable {c : Controller} {i : Instance}

theorem serves_start : (start c i).Serves c i := by
  unfold start
  split
  · exact Step.serves_of_quiet rfl rfl
  · exact Step.serves_of_quiet rfl rfl
  · refine Step.serves_moving fun _ => ⟨fun x hx => ?_, rfl⟩
    obtain rfl := List.mem_singleton.mp hx
    rfl

theorem serves_resume (stage : DeregisterStage) (a : Except Failure Unit) :
    (resume c i stage a).Serves c i := by
  unfold resume
  split
  · unfold answered
    split
    · refine Step.serves_moving fun _ => ⟨fun x hx => ?_, rfl⟩
      simp only [List.mem_cons, List.not_mem_nil, or_false] at hx
      rcases hx with rfl | rfl | rfl <;> simp [Controller.event, Controller.entry]
    · exact Step.serves_moving fun _ => Step.serves_of_quiet rfl rfl
  · exact Step.serves_of_quiet rfl rfl

/-- A call that does not retract its instance only logs. -/
theorem start_quiet (hc : c.state? i.key ≠ some .registered) :
    (start c i).effects.all Effect.isQuiet = true := by
  unfold start
  split
  · rfl
  · rfl
  · rw [Controller.moving_eq _ _ rfl, if_neg hc]
    rfl

/-- A call that retracts its instance reports that it starts. -/
theorem kinds_start (hc : c.state? i.key = some .registered) :
    (start c i).effects.filterMap Effect.kind? = [.offlineStart] := by
  unfold start
  rw [hc]
  show (c.moving i.key .registered .deregistering refuseMove _).effects.filterMap _ = _
  rw [Controller.moving_eq _ _ rfl, if_pos hc]
  rfl

/-- What a call reports when the registrar has answered. -/
def closing : Except Failure Unit → List EventKind
  | .ok _ => [.threadEnd]
  | .error _ => []

theorem kinds_resume (hc : c.state? i.key = some .deregistering) (r : Except Failure Unit) :
    (resume c i .retracting r).effects.filterMap Effect.kind? = closing r := by
  cases r with
  | ok v =>
    simp only [resume, answered]
    rw [Controller.moving_eq _ _ rfl, if_pos hc]
    rfl
  | error f =>
    simp only [resume, answered]
    rw [Controller.moving_eq _ _ rfl, if_pos hc]
    rfl

end Deregister

theorem offlineEffects_quiet (i : Instance) (r : Except LifecycleError DeregisterOutcome) :
    (offlineEffects i r).all Effect.isQuiet = true := by
  cases r <;> rfl

namespace Traffic

/-- The offline probe does nothing else but log. -/
theorem ofDeregister_eq (i : Instance) (isProbe : Bool) (s : Step DeregisterStage) :
    ∃ fx, fx.all Effect.isQuiet = true ∧
      ofDeregister i isProbe s = ⟨s.controller, .deregister isProbe s.stage, s.effects ++ fx⟩ := by
  unfold ofDeregister
  split
  · exact ⟨_, offlineEffects_quiet .., rfl⟩
  · exact ⟨[], rfl, rfl⟩

/-- What the offline probe logs reports nothing. -/
theorem kinds_ofDeregister (i : Instance) (isProbe : Bool) (s : Step DeregisterStage) :
    (ofDeregister i isProbe s).effects.filterMap Effect.kind? =
      s.effects.filterMap Effect.kind? := by
  obtain ⟨fx, hq, he⟩ := ofDeregister_eq i isProbe s
  rw [he, List.filterMap_append, Effect.kinds_of_quiet hq, List.append_nil]

theorem serves_ofDeregister {c : Controller} {i : Instance} {s : Step DeregisterStage}
    (h : s.Serves c i) (isProbe : Bool) : (ofDeregister i isProbe s).Serves c i := by
  obtain ⟨fx, hq, he⟩ := ofDeregister_eq i isProbe s
  rw [he]
  refine ⟨fun x hx => ?_, h.settings⟩
  rcases List.mem_append.mp hx with hx | hx
  · exact h.isFor x hx
  · exact Effect.isFor_of_quiet hq x hx

/-- A call that goes on serves its instance. -/
theorem serves_resume (x : Call) (c : Controller) (a : Answer) (now : Nat) :
    (x.resume c a now).Serves c x.inst := by
  unfold Call.resume
  split
  · next s a _ =>
    have h := Register.serves_resume (c := c) (i := x.inst) s a now
    exact ⟨h.isFor, h.settings⟩
  · exact serves_ofDeregister (Deregister.serves_resume ..) _
  · next d isInterrupted _ =>
    refine ⟨fun x hx => ?_, rfl⟩
    unfold Warmup.finish at hx
    split at hx
    · exact Effect.isFor_of_quiet (by simp [Controller.entry]) x hx
    · simp only [List.mem_cons, List.not_mem_nil, or_false] at hx
      rcases hx with rfl | rfl <;> simp [Controller.event, Controller.entry]
  · exact Step.serves_of_quiet rfl rfl

/-- A call that begins to retract serves its instance. -/
theorem serves_start (c : Controller) (i : Instance) (isProbe : Bool) :
    (ofDeregister i isProbe (Deregister.start c i)).Serves c i :=
  serves_ofDeregister Deregister.serves_start isProbe

/-! ## Answers -/

theorem Stage.cases_of_awaits {s : Stage} {a : Answer} (h : s.awaits a = true) :
    (∃ r b, s = .register r ∧ a = .register b ∧ r.awaits b = true) ∨
      (∃ isProbe r, s = .deregister isProbe .retracting ∧ a = .retracted r) ∨
      ∃ d isInterrupted, s = .warmup d ∧ a = .timer isInterrupted := by
  cases s with
  | register r =>
    cases a with
    | register b => exact .inl ⟨r, b, rfl, rfl, h⟩
    | _ => simp [awaits] at h
  | deregister isProbe s =>
    cases s with
    | retracting =>
      cases a with
      | retracted r => exact .inr (.inl ⟨isProbe, r, rfl, rfl⟩)
      | _ => simp [awaits] at h
    | done r => cases a <;> simp [awaits] at h
  | warmup d =>
    cases a with
    | timer isInterrupted => exact .inr (.inr ⟨d, isInterrupted, rfl, rfl⟩)
    | _ => simp [awaits] at h
  | warmed => cases a <;> simp [awaits] at h

/-- Whether a call that registers or retracts an instance has not returned yet at a stage. -/
def Stage.isOpen : Stage → Bool
  | register (.done _) => false
  | register _ => true
  | deregister _ .retracting => true
  | _ => false

/-- How a call goes on at a controller after an answer. -/
inductive Advance (c : Controller) : Call → Answer → Prop
  | admitted {i : Instance} {s : RegisterStage} {since : Nat} {a : RegisterAnswer}
    (awaits : s.awaits a = true) (admits : s.admits (c.state? i.key)) :
    Advance c ⟨i, .register s, since⟩ (.register a)
  /-- Another call has changed the state of the instance before the attempt began. -/
  | late {i : Instance} {since : Nat} (r : Except Failure (Option RemoteRule))
    (refused : ¬RegisterStage.lookup.admits (c.state? i.key)) :
    Advance c ⟨i, .register .lookup, since⟩ (.register (.rule r))
  /-- Another call has claimed the instance while this one waited for the listener. -/
  | overtaken {i : Instance} {since : Nat} (p : Policy) (b : Except String String)
    (refused : c.state? i.key ≠ some .unregistered) :
    Advance c ⟨i, .register (.binding p), since⟩ (.register (.bound b))
  | retracted {i : Instance} {since : Nat} (isProbe : Bool) (r : Except Failure Unit)
    (retracts : c.state? i.key = some .deregistering) :
    Advance c ⟨i, .deregister isProbe .retracting, since⟩ (.retracted r)
  | timer {i : Instance} {since : Nat} (d : Duration) (isInterrupted : Bool) :
    Advance c ⟨i, .warmup d, since⟩ (.timer isInterrupted)

/-- A call that owns what it holds is admitted, comes too late or ends its wait. -/
theorem Call.advance {x : Call} {c : Controller} {a : Answer} (ha : x.stage.awaits a = true)
    (owns : x.Owns c) : Advance c x a := by
  obtain ⟨i, stage, since⟩ := x
  rcases Stage.cases_of_awaits ha with
    ⟨s, b, hs, rfl, awaits⟩ | ⟨isProbe, r, hs, rfl⟩ | ⟨d, isInterrupted, hs, rfl⟩
  · obtain rfl : stage = .register s := hs
    by_cases hc : s.admits (c.state? i.key)
    · exact .admitted awaits hc
    · cases s with
      | lookup =>
        obtain ⟨r, rfl⟩ := RegisterStage.eq_rule_of_awaits awaits
        exact .late r hc
      | binding p =>
        obtain ⟨r, rfl⟩ := RegisterStage.eq_bound_of_awaits awaits
        exact .overtaken p r hc
      | gating p g => exact absurd (owns .gating rfl) hc
      | registering p => exact absurd (owns .registering rfl) hc
      | done r => cases awaits
  · obtain rfl : stage = .deregister isProbe .retracting := hs
    exact .retracted isProbe r (owns .deregistering rfl)
  · obtain rfl : stage = .warmup d := hs
    exact .timer d isInterrupted

/-- A call that comes too late with its lookup is refused and only logs. -/
theorem Call.resume_turnedAway {c : Controller} {i : Instance}
    (hc : ¬RegisterStage.lookup.admits (c.state? i.key)) (since : Nat)
    (r : Except Failure (Option RemoteRule)) (now : Nat) :
    ∃ x, Call.resume ⟨i, .register .lookup, since⟩ c (.register (.rule r)) now =
      ⟨c, .register (Register.refuseMove (.invalidTransition i.key.text x .unregistered)),
        c.policyEffects i r⟩ := by
  have key : ∃ x,
      c.states.begin i.key = .error (.invalidTransition i.key.text x .unregistered) := by
    unfold Controller.state? at hc
    unfold RegistrationStates.begin
    split <;> simp_all
  obtain ⟨x, hx⟩ := key
  exact ⟨x, by simp [Call.resume, ofRegister, Register.resume, Register.begin, hx, Step.after]⟩

/-! ## What is written down -/

/-- The event about an instance that a deed reports. -/
def Deed.reported? (k : InstanceKey) : Deed → Option EventKind
  | effect x => (x.eventOf? k).map (·.1)
  | _ => none

/-- What was reported about an instance, in order. -/
def reports (t : Traffic) (k : InstanceKey) : List EventKind :=
  t.trace.filterMap (·.deed.reported? k)

/-- What a call has done and met with. -/
def logOf (t : Traffic) (n : Nat) : List Happening := t.trace.filter (·.call = n)

theorem reported?_of_isFor {i : Instance} {x : Effect} (h : x.IsFor i) (k : InstanceKey) :
    (Deed.effect x).reported? k = if i.key = k then x.kind? else none := by
  cases x with
  | event kind j info =>
    obtain rfl : j = i := h
    by_cases hk : j.key = k <;> simp [Deed.reported?, Effect.eventOf?, hk]
  | _ => simp [Deed.reported?, Effect.eventOf?]

/-- Whether all deeds are about an instance, or about none. -/
def Deed.IsFor (i : Instance) : Deed → Prop
  | effect x => x.IsFor i
  | _ => True

/-- What a step reports about an instance. -/
theorem reported?_deedsOf {i : Instance} {s : Step Stage} (h : ∀ x ∈ s.effects, x.IsFor i)
    (k : InstanceKey) :
    (deedsOf s).filterMap (Deed.reported? k) =
      if i.key = k then s.effects.filterMap Effect.kind? else [] := by
  have effects : ∀ fx : List Effect, (∀ x ∈ fx, x.IsFor i) →
      (fx.map Deed.effect).filterMap (Deed.reported? k) =
        if i.key = k then fx.filterMap Effect.kind? else [] := by
    intro fx hfx
    induction fx with
    | nil => simp
    | cons x fx ih =>
      have hx := reported?_of_isFor (hfx x (by simp)) k
      have rest := ih fun y hy => hfx y (by simp [hy])
      rw [List.map_cons, List.filterMap_cons, List.filterMap_cons, hx, rest]
      by_cases hk : i.key = k <;> simp [hk]
  rw [deedsOf, List.filterMap_append, effects s.effects h]
  exact List.append_nil _

/-- After a step the call with this number stands where the step came to, its deeds are written down
after what it was told, and no other call has moved, though timers may have started. -/
structure Goes (t : Traffic) (n : Nat) (i : Instance) (told : List Answer) (s : Step Stage)
    (u : Traffic) : Prop where
  serves : s.Serves t.controller i
  controller : u.controller = s.controller
  trace : u.trace = t.note n i (told.map .told ++ deedsOf s)
  call : u.calls[n]? = some ⟨i, s.stage, t.now⟩
  others : ∀ m ≠ n, ∀ y, u.calls[m]? = some y → t.calls[m]? = some y ∨
    t.calls.length ≤ m ∧ y.since = t.now ∧ ∃ d, .warmup y.inst d ∈ s.effects ∧ y.stage = .warmup d
  kept : ∀ m ≠ n, ∀ y, t.calls[m]? = some y → u.calls[m]? = some y
  length : t.calls.length ≤ u.calls.length
  now : u.now = t.now
  timer : u.timer = t.timer

theorem goes_launch {t : Traffic} {i : Instance} {s : Step Stage} (h : s.Serves t.controller i) :
    Goes t t.calls.length i [] s (t.launch i s) where
  serves := h
  controller := rfl
  trace := rfl
  call := by simp [launch]
  others m hm y hy := by
    refine .inl ?_
    unfold launch at hy
    rw [List.getElem?_append] at hy
    split at hy
    · exact hy
    · next hle =>
      have hz : m - t.calls.length ≠ 0 := by omega
      simp [hz] at hy
  kept m _ y hy := by
    have hlt := (List.getElem?_eq_some_iff.mp hy).1
    unfold launch
    rw [List.getElem?_append_left hlt]
    exact hy
  length := by simp [launch]
  now := rfl
  timer := rfl

theorem goes_proceed {t : Traffic} {n : Nat} {x : Call} (hx : t.calls[n]? = some x) (a : Answer) :
    Goes t n x.inst [a] (x.resume t.controller a t.now) (t.proceed n x a) where
  serves := serves_resume ..
  controller := rfl
  trace := rfl
  call := by
    have hlt := (List.getElem?_eq_some_iff.mp hx).1
    unfold proceed
    rw [List.getElem?_append_left (by simpa using hlt), List.getElem?_set_self hlt]
  others m hm y hy := by
    unfold proceed at hy
    rw [List.getElem?_append] at hy
    split at hy
    · rw [List.getElem?_set_ne (Ne.symm hm)] at hy
      exact .inl hy
    · next hle =>
      have hy := List.mem_of_getElem? hy
      unfold timersOf at hy
      obtain ⟨fx, hmem, hfx⟩ := List.mem_filterMap.mp hy
      cases fx <;> simp at hfx
      subst hfx
      exact .inr ⟨by simpa using hle, rfl, _, hmem, rfl⟩
  kept m hm y hy := by
    have hlt := (List.getElem?_eq_some_iff.mp hy).1
    unfold proceed
    rw [List.getElem?_append_left (by simpa using hlt), List.getElem?_set_ne (Ne.symm hm)]
    exact hy
  length := by simp [proceed]
  now := rfl
  timer := rfl

namespace Goes

variable {t u : Traffic} {n : Nat} {i : Instance} {told : List Answer} {s : Step Stage}

/-- A call after a step is the one that has gone on, one that was there before, or a timer. -/
theorem cases_call (h : Goes t n i told s u) {m : Nat} {y : Call} (hy : u.calls[m]? = some y) :
    (m = n ∧ y = ⟨i, s.stage, t.now⟩) ∨ (m ≠ n ∧ t.calls[m]? = some y) ∨
      (m ≠ n ∧ ∃ d, y.stage = .warmup d) := by
  by_cases hm : m = n
  · subst hm
    exact .inl ⟨rfl, Option.some.inj (hy.symm.trans h.call)⟩
  · rcases h.others m hm y hy with hy | ⟨-, -, d, -, hd⟩
    · exact .inr (.inl ⟨hm, hy⟩)
    · exact .inr (.inr ⟨hm, d, hd⟩)

/-- A call that goes on reports what its step reports. -/
theorem reports (h : Goes t n i told s u) (k : InstanceKey) :
    u.reports k = t.reports k ++ if i.key = k then s.effects.filterMap Effect.kind? else [] := by
  have silent : (told.map Deed.told).filterMap (Deed.reported? k) = [] := by
    simp [Deed.reported?, Function.comp_def]
  unfold Traffic.reports
  rw [h.trace, note, List.filterMap_append, List.filterMap_map]
  show _ ++ (told.map Deed.told ++ deedsOf s).filterMap (Deed.reported? k) = _
  rw [List.filterMap_append, silent, reported?_deedsOf h.serves.isFor, List.nil_append]

/-- Only the log of the call that goes on grows. -/
theorem logOf (h : Goes t n i told s u) (m : Nat) :
    u.logOf m = t.logOf m ++
      if m = n then (told.map Deed.told ++ deedsOf s).map fun d => ⟨t.now, n, i, d⟩ else [] := by
  unfold Traffic.logOf
  rw [h.trace, note, List.filter_append]
  congr 1
  split
  · next hm =>
    subst hm
    rw [List.filter_eq_self]
    intro e he
    obtain ⟨d, -, rfl⟩ := List.mem_map.mp he
    simp
  · next hm => simp [List.filter_eq_nil_iff, Ne.symm hm]

end Goes

/-! ## Numbers of calls -/

/-- What was written down belongs to a call that has begun and is about the instance of
that call. -/
structure Numbered (t : Traffic) : Prop where
  entry : ∀ h ∈ t.trace, ∃ x, t.calls[h.call]? = some x ∧ h.inst = x.inst ∧ h.deed.IsFor x.inst
  since : ∀ x ∈ t.calls, x.since ≤ t.now

theorem Goes.numbered {t u : Traffic} {n : Nat} {i : Instance} {told : List Answer} {s : Step Stage}
    (g : Goes t n i told s u) (same : ∀ x, t.calls[n]? = some x → x.inst = i) (h : t.Numbered) :
    u.Numbered where
  entry e he := by
    rw [g.trace, note] at he
    rcases List.mem_append.mp he with he | he
    · obtain ⟨x, hx, hi, hf⟩ := h.entry e he
      by_cases hn : e.call = n
      · rw [hn] at hx ⊢
        have hxi := same x hx
        exact ⟨_, g.call, hi.trans hxi, hxi ▸ hf⟩
      · exact ⟨x, g.kept _ hn x hx, hi, hf⟩
    · obtain ⟨d, hd, rfl⟩ := List.mem_map.mp he
      refine ⟨_, g.call, rfl, ?_⟩
      simp only [deedsOf, List.mem_append, List.mem_map, List.mem_singleton] at hd
      rcases hd with ⟨a, -, rfl⟩ | ⟨x, hx, rfl⟩ | rfl
      · trivial
      · exact g.serves.isFor x hx
      · trivial
  since x hx := by
    rw [g.now]
    obtain ⟨m, hm⟩ := List.getElem?_of_mem hx
    by_cases hn : m = n
    · subst hn
      obtain rfl := Option.some.inj (g.call.symm.trans hm)
      exact Nat.le_refl _
    · rcases g.others m hn x hm with hx | ⟨-, hs, -⟩
      · exact h.since x (List.mem_of_getElem? hx)
      · exact Nat.le_of_eq hs

/-- After a move, too, what was written down belongs to a call. -/
theorem Numbered.step {t : Traffic} (h : t.Numbered) (m : Move) : (t.step m).Numbered := by
  have fresh (t : Traffic) (i : Instance) :
      ∀ x, t.calls[t.calls.length]? = some x → x.inst = i := by simp
  have move := t.stepped m
  generalize t.step m = u at move
  cases move with
  | idle _ le isCancelled => exact ⟨h.entry, fun x hx => Nat.le_trans (h.since x hx) le⟩
  | register i => exact (goes_launch (Step.serves_of_quiet rfl rfl)).numbered (fresh t i) h
  | deregister i isProbe => exact (goes_launch (serves_start ..)).numbered (fresh t i) h
  | answer call =>
    refine (goes_proceed call _).numbered (fun y hy => ?_) h
    rw [call] at hy
    rw [Option.some.inj hy]

theorem Numbered.run {t : Traffic} (h : t.Numbered) (ms : List Move) : (t.run ms).Numbered :=
  run_induction h (fun _ m _ h => h.step m) ms fun _ _ => trivial

theorem numbered_start (τ : Timer) (settings : GracefulSettings) (server : ProbeServer) :
    (start τ settings server).Numbered :=
  ⟨fun _ h => absurd h List.not_mem_nil, fun _ h => absurd h List.not_mem_nil⟩

/-- What was written down belongs to a call and is about its instance. -/
theorem run_numbered (τ : Timer) (settings : GracefulSettings) (server : ProbeServer)
    (ms : List Move) :
    ((start τ settings server).run ms).Numbered := (numbered_start τ settings server).run ms

/-- The settings stay as they are. -/
theorem settings_step (t : Traffic) (m : Move) :
    (t.step m).controller.settings = t.controller.settings := by
  have move := t.stepped m
  generalize t.step m = u at move
  cases move with
  | idle => rfl
  | register i => rfl
  | deregister i isProbe => exact (serves_start t.controller i isProbe).settings
  | @answer _ x a => exact (serves_resume x t.controller a t.now).settings

theorem run_settings (τ : Timer) (settings : GracefulSettings) (server : ProbeServer)
    (ms : List Move) :
    ((start τ settings server).run ms).controller.settings = settings :=
  run_induction (P := fun t => t.controller.settings = settings) rfl
    (fun t m _ h => (t.settings_step m).trans h) ms fun _ _ => trivial

/-- Whether every call goes on under the policy for an answer to its lookup. -/
def Resolved (c₀ : Controller) (t : Traffic) : Prop :=
  ∀ x ∈ t.calls, ∀ p, x.stage.policy? = some p → ∃ r, p = c₀.policyFor r

theorem Goes.resolved {c₀ : Controller} {t u : Traffic} {n : Nat} {i : Instance}
    {told : List Answer} {s : Step Stage} (g : Goes t n i told s u) (h : t.Resolved c₀)
    (hs : ∀ p, s.stage.policy? = some p → ∃ r, p = c₀.policyFor r) : u.Resolved c₀ := by
  intro x hx p hp
  obtain ⟨m, hm⟩ := List.getElem?_of_mem hx
  rcases g.cases_call hm with ⟨-, rfl⟩ | ⟨-, hx⟩ | ⟨-, d, hd⟩
  · exact hs p hp
  · exact h x (List.mem_of_getElem? hx) p hp
  · rw [hd] at hp
    cases hp

theorem policyFor_congr {c d : Controller} (h : c.settings = d.settings)
    (r : Except Failure (Option RemoteRule)) : c.policyFor r = d.policyFor r := by
  unfold Controller.policyFor
  rw [h]

/-- Every move leaves each call under the policy for an answer to its lookup. -/
theorem Resolved.step {c₀ : Controller} {t : Traffic} (h : t.Resolved c₀)
    (same : t.controller.settings = c₀.settings) (m : Move) : (t.step m).Resolved c₀ := by
  have move := t.stepped m
  generalize t.step m = u at move
  cases move with
  | idle => exact h
  | register i =>
    exact (goes_launch (Step.serves_of_quiet rfl rfl)).resolved h fun p hp => by cases hp
  | deregister i isProbe =>
    exact (goes_launch (serves_start ..)).resolved h fun p hp => by cases hp
  | @answer n x a call awaits =>
    refine (goes_proceed call a).resolved h fun p hp => ?_
    have old := h x (List.mem_of_getElem? call)
    obtain ⟨i, stage, since⟩ := x
    rcases Stage.cases_of_awaits awaits with
      ⟨s, b, hs, rfl, -⟩ | ⟨isProbe, r, hs, rfl⟩ | ⟨d, isInterrupted, hs, rfl⟩
    · obtain rfl : stage = .register s := hs
      rcases Register.policy?_resume hp with hp | ⟨r, -, rfl⟩
      · exact old p hp
      · exact ⟨r, policyFor_congr same r⟩
    · obtain rfl : stage = .deregister isProbe .retracting := hs
      cases hp
    · obtain rfl : stage = .warmup d := hs
      cases hp

theorem resolved_start (τ : Timer) (settings : GracefulSettings) (server : ProbeServer) :
    (start τ settings server).Resolved (start τ settings server).controller :=
  fun _ hx => absurd hx List.not_mem_nil

/-- After every run each call goes on under the policy for an answer to its lookup. -/
theorem run_resolved (τ : Timer) (settings : GracefulSettings) (server : ProbeServer)
    (ms : List Move) :
    ((start τ settings server).run ms).Resolved (start τ settings server).controller := by
  let c₀ := (start τ settings server).controller
  exact (run_induction (P := fun t => t.controller.settings = settings ∧ t.Resolved c₀)
    ⟨rfl, resolved_start τ settings server⟩
    (fun t m _ h => ⟨(t.settings_step m).trans h.1, h.2.step h.1 m⟩) ms fun _ _ => trivial).2

/-! ## Counting calls -/

/-- A new call is one more of those that are counted, if it is one of them. -/
theorem countP_launch (p : Call → Bool) (t : Traffic) (i : Instance) (s : Step Stage) :
    (t.launch i s).calls.countP p = t.calls.countP p + (p ⟨i, s.stage, t.now⟩).toNat := by
  unfold launch
  rw [List.countP_append, List.countP_singleton]
  cases p ⟨i, s.stage, t.now⟩ <;> rfl

/-- A call that goes on and was not counted is one more of those that are counted, if it has become
one of them; the timers that it starts are not counted. -/
theorem countP_proceed {p : Call → Bool} (timers : ∀ i d now, p ⟨i, .warmup d, now⟩ = false)
    {t : Traffic} {n : Nat} {x : Call} (hx : t.calls[n]? = some x) (before : p x = false)
    (a : Answer) : (t.proceed n x a).calls.countP p =
      t.calls.countP p + (p ⟨x.inst, (x.resume t.controller a t.now).stage, t.now⟩).toNat := by
  obtain ⟨hn, rfl⟩ := List.getElem?_eq_some_iff.mp hx
  have started (fx : List Effect) : (timersOf t.now fx).countP p = 0 := by
    rw [List.countP_eq_zero]
    intro y hy
    obtain ⟨x, -, hx⟩ := List.mem_filterMap.mp hy
    cases x <;> simp at hx
    rw [← hx, timers]
    simp
  unfold proceed
  simp only [List.countP_append]
  rw [started, List.countP_set hn, before]
  cases p ⟨t.calls[n].inst, (Call.resume t.calls[n] t.controller a t.now).stage, t.now⟩ <;> rfl

/-- What a call that has not begun yet will write down is not there yet. -/
theorem Numbered.logOf_eq_nil {t : Traffic} (h : t.Numbered) {n : Nat} (hn : t.calls.length ≤ n) :
    t.logOf n = [] := by
  unfold logOf
  rw [List.filter_eq_nil_iff]
  intro e he hcall
  obtain ⟨x, hx, -⟩ := h.entry e he
  have hlt := (List.getElem?_eq_some_iff.mp hx).1
  rw [of_decide_eq_true hcall] at hlt
  omega

end Traffic

end InstanceLifecycle
