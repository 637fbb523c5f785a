import InstanceLifecycle.Proofs.Traffic.Reports

/-!
# What events carry

The controller keeps one summary for each instance, and an event carries the one that is there when
it is reported. A registration puts the summary of its policy there when its lookup is answered,
before it reports anything; no other step changes it. So what a step reports carries the summary
that the step leaves behind, whichever attempt this summary is of.

Results:

* `informs_resume_rule`, `informs_resume`: the events of a step of a registration, and the summaries
  that it leaves behind;
* `informs_start`, `informs_resume_retracting`, `informs_finish`: the same for a call to retract an
  instance and for a timer;
* `summaries_of_ne`: a call leaves the summaries of other instances as they are.
-/

namespace InstanceLifecycle

/-! ## Events that carry a summary -/

/-- Whether an effect, if it reports an event, reports one of some kinds that carries the summary of
its instance; the last event of an instance carries none. A timer is started only if the start of
warm-up may be reported. -/
@[simp]
def Effect.Carries (T : Table InstanceKey PolicySummary) (kinds : List EventKind) : Effect → Prop
  | event kind i info =>
    kind ∈ kinds ∧ info = if kind = .threadEnd then none else T.get? i.key
  | warmup .. => .warmupStart ∈ kinds
  | _ => True

theorem Effect.carries_of_quiet {T : Table InstanceKey PolicySummary} {kinds : List EventKind}
    {fx : List Effect} (h : fx.all isQuiet = true) : ∀ x ∈ fx, x.Carries T kinds := by
  intro x hx
  have hq := List.all_eq_true.mp h x hx
  cases x with
  | event kind j info => cases hq
  | warmup j d => cases hq
  | _ => trivial

/-- The event of a controller carries the summary that is there. -/
theorem Controller.carries_event (c : Controller) {kind : EventKind} {kinds : List EventKind}
    (h : kind ∈ kinds) (i : Instance) : (c.event kind i).Carries c.summaries kinds := ⟨h, rfl⟩

/-- A step that leaves these summaries behind and reports events of these kinds that carry them. -/
structure Step.Informs {σ : Type} (T : Table InstanceKey PolicySummary) (kinds : List EventKind)
    (s : Step σ) : Prop where
  carries : ∀ x ∈ s.effects, x.Carries T kinds
  summaries : s.controller.summaries = T

namespace Step

variable {σ : Type} {T : Table InstanceKey PolicySummary} {kinds : List EventKind}
  {c : Controller}

theorem Informs.after {s : Step σ} (h : s.Informs T kinds) {fx : List Effect}
    (hf : ∀ x ∈ fx, x.Carries T kinds) : (s.after fx).Informs T kinds where
  carries x hx := by
    rcases List.mem_append.mp hx with hx | hx
    · exact hf x hx
    · exact h.carries x hx
  summaries := h.summaries

/-- A step that only logs and counts. -/
theorem informs_of_quiet {s : Step σ} (hs : s.controller.summaries = T)
    (h : s.effects.all Effect.isQuiet = true) : s.Informs T kinds :=
  ⟨Effect.carries_of_quiet h, hs⟩

theorem informs_moving {k : InstanceKey} {a b : RegistrationState} {refused : TransitionError → σ}
    {next : Controller → Step σ} (hn : ∀ d, (next d).Informs d.summaries kinds) :
    (c.moving k a b refused next).Informs c.summaries kinds := by
  unfold Controller.moving
  split
  · next states _ =>
    have h : (next { c with states }).Informs c.summaries kinds := hn { c with states }
    exact h.after (by simp)
  · exact informs_of_quiet rfl rfl

theorem informs_installing {e : EndpointPolicy} {h : Handler} {refused : ProbeError → σ}
    {next : Controller → Step σ} (hn : ∀ d, (next d).Informs d.summaries kinds) :
    (c.installing e h refused next).Informs c.summaries kinds := by
  unfold Controller.installing
  split
  · split
    · next server _ =>
      have h : (next { c with server }).Informs c.summaries kinds := hn { c with server }
      exact h.after (by simp)
    · exact informs_of_quiet rfl rfl
  · exact hn c

end Step

/-! ## Registrations -/

/-- The events that a registration reports. -/
def EventKind.ofAttempt : List EventKind := [.onlineStart, .onlineEnd, .warmupStart]

namespace Register

variable {c : Controller} {i : Instance} {p : Policy} {kinds : List EventKind}

theorem informs_callRegistrar (origin : RegistrationState) :
    (callRegistrar c i p origin).Informs c.summaries kinds :=
  Step.informs_moving fun _ => Step.informs_of_quiet rfl rfl

theorem informs_followGate (g : GateStage) :
    (followGate c i p g).Informs c.summaries kinds := by
  unfold followGate
  split
  · refine (informs_callRegistrar _).after (Effect.carries_of_quiet ?_)
    unfold passEffects
    split <;> rfl
  · exact Step.informs_moving fun _ => Step.informs_of_quiet rfl rfl
  · exact Step.informs_of_quiet rfl rfl

theorem informs_fail (f : Failure) : (fail c i f).Informs c.summaries kinds :=
  Step.informs_moving fun _ => Step.informs_of_quiet rfl rfl

section Announcing

variable (announces : .onlineStart ∈ kinds)
include announces

theorem informs_announce (now : Nat) : (announce c i p now).Informs c.summaries kinds := by
  have start : ∀ x ∈ [c.event .onlineStart i], x.Carries c.summaries kinds := by
    intro x hx
    obtain rfl := List.mem_singleton.mp hx
    exact c.carries_event announces i
  unfold announce
  refine Step.Informs.after ?_ start
  split
  · exact Step.informs_moving fun d =>
      (informs_followGate _).after (Effect.carries_of_quiet (Gate.quiet_arrive ..))
  · exact informs_callRegistrar _

theorem informs_followBinding (now : Nat) (binding : Except String String) :
    (followBinding c i p now binding).Informs c.summaries kinds := by
  have announced (server : ProbeServer) {fx : List Effect} (h : fx.all Effect.isQuiet = true) :
      ((announce { c with server } i p now).after fx).Informs c.summaries kinds := by
    have key : (announce { c with server } i p now).Informs c.summaries kinds :=
      informs_announce (c := { c with server }) announces now
    exact key.after (Effect.carries_of_quiet h)
  unfold followBinding
  rcases c.server.run binding with ⟨server, a | e⟩
  · exact announced server (by simp [Controller.entry])
  · exact announced server (by split <;> simp [Controller.entry])

theorem informs_startProbes (now : Nat) :
    (startProbes c i p now).Informs c.summaries kinds := by
  unfold startProbes
  split
  · exact informs_followBinding announces now _
  · exact Step.informs_of_quiet rfl rfl

theorem informs_installProbes (now : Nat) :
    (installProbes c i p now).Informs c.summaries kinds := by
  unfold installProbes
  split
  · exact Step.informs_installing fun _ =>
      Step.informs_installing fun _ => informs_startProbes announces now
  · exact informs_announce announces now

/-- A registration whose lookup is answered reports at most that it has started, whatever the policy
and wherever the instance stands. -/
theorem exists_informs_begin (now : Nat) : ∃ T, (begin c i p now).Informs T kinds := by
  unfold begin
  split
  · exact ⟨_, Step.informs_of_quiet rfl rfl⟩
  · next states _ =>
    let d : Controller := { c with states }
    have follows : ∃ T, (if p.enabled then
        installProbes { d with summaries := d.summaries.insert i.key p.summary } i p now
      else callRegistrar d i p .unregistered).Informs T kinds := by
      split
      · exact ⟨_, informs_installProbes announces now⟩
      · exact ⟨_, informs_callRegistrar _⟩
    obtain ⟨T, h⟩ := follows
    exact ⟨T, h.after (by split <;> simp)⟩

end Announcing

/-- An attempt under an enabled policy leaves the summary of the policy behind. -/
theorem informs_begin (hc : RegisterStage.lookup.admits (c.state? i.key)) (on : p.enabled = true)
    (now : Nat) :
    (begin c i p now).Informs (c.summaries.insert i.key p.summary) EventKind.ofAttempt := by
  obtain ⟨states, hs, -⟩ := begin_states hc
  let d : Controller := { c with states, summaries := c.summaries.insert i.key p.summary }
  have installed : (installProbes d i p now).Informs d.summaries EventKind.ofAttempt :=
    informs_installProbes (by simp [EventKind.ofAttempt]) now
  simp only [begin, hs, on, if_true]
  exact installed.after (by split <;> simp)

theorem informs_succeed (r : Registration) :
    (succeed c i p r).Informs c.summaries EventKind.ofAttempt := by
  unfold succeed
  refine Step.Informs.after (Step.informs_moving fun d => ⟨fun x hx => ?_, rfl⟩) fun x hx => ?_
  · rcases List.mem_append.mp hx with hx | hx
    · exact Effect.carries_of_quiet (by simp [Controller.entry]) x hx
    · split at hx
      · simp only [List.mem_cons, List.not_mem_nil, or_false] at hx
        rcases hx with rfl | rfl
        · exact d.carries_event (by simp [EventKind.ofAttempt]) i
        · simp [EventKind.ofAttempt]
      · cases hx
  · split at hx
    · obtain rfl := List.mem_singleton.mp hx
      exact c.carries_event (by simp [EventKind.ofAttempt]) i
    · cases hx

/-- A registration whose lookup was answered before leaves the summaries as they are. -/
theorem informs_resume {stage : RegisterStage} (hl : stage ≠ .lookup) (a : RegisterAnswer)
    (now : Nat) : (resume c i stage a now).Informs c.summaries EventKind.ofAttempt := by
  unfold resume
  split
  · exact absurd rfl hl
  · exact informs_followBinding (by simp [EventKind.ofAttempt]) now _
  · exact (informs_followGate _).after (Effect.carries_of_quiet (Gate.quiet_resume ..))
  · exact informs_succeed _
  · exact informs_fail _
  · exact Step.informs_of_quiet rfl rfl

/-- A registration whose lookup is answered leaves the summary of its policy behind. -/
theorem informs_resume_rule (hc : RegisterStage.lookup.admits (c.state? i.key))
    {r : Except Failure (Option RemoteRule)} (on : (c.policyFor r).enabled = true) (now : Nat) :
    (resume c i .lookup (.rule r) now).Informs
      (c.summaries.insert i.key (c.policyFor r).summary) EventKind.ofAttempt :=
  (informs_begin hc on now).after (Effect.carries_of_quiet (policyEffects_quiet r))

/-- A registration that goes on before the registrar has accepted the instance reports at most that
it has started. -/
theorem exists_informs_resume (announces : .onlineStart ∈ kinds) {stage : RegisterStage}
    {a : RegisterAnswer} (ha : ∀ r, a ≠ .registered (.ok r)) (now : Nat) :
    ∃ T, (resume c i stage a now).Informs T kinds := by
  unfold resume
  split
  · obtain ⟨T, h⟩ := exists_informs_begin (c := c) (i := i) (p := c.policyFor _) announces now
    exact ⟨T, h.after (Effect.carries_of_quiet (policyEffects_quiet _))⟩
  · exact ⟨_, informs_followBinding announces now _⟩
  · exact ⟨_, (informs_followGate _).after (Effect.carries_of_quiet (Gate.quiet_resume ..))⟩
  · next r => exact absurd rfl (ha r)
  · exact ⟨_, informs_fail _⟩
  · exact ⟨_, Step.informs_of_quiet rfl rfl⟩

end Register

/-! ## Retractions -/

namespace Deregister

variable {c : Controller} {i : Instance}

theorem informs_start : (start c i).Informs c.summaries [.offlineStart] := by
  unfold start
  split
  · exact Step.informs_of_quiet rfl rfl
  · exact Step.informs_of_quiet rfl rfl
  · refine Step.informs_moving fun d => ⟨fun x hx => ?_, rfl⟩
    obtain rfl := List.mem_singleton.mp hx
    exact d.carries_event (List.mem_singleton.mpr rfl) i

theorem informs_resume (stage : DeregisterStage) (a : Except Failure Unit) :
    (resume c i stage a).Informs c.summaries [.threadEnd] := by
  unfold resume
  split
  · unfold answered
    split
    · refine Step.informs_moving fun d => ⟨fun x hx => ?_, rfl⟩
      simp only [List.mem_cons, List.not_mem_nil, or_false] at hx
      rcases hx with rfl | rfl | rfl
      · trivial
      · trivial
      · exact d.carries_event (List.mem_singleton.mpr rfl) i
    · exact Step.informs_moving fun _ => Step.informs_of_quiet rfl rfl
  · exact Step.informs_of_quiet rfl rfl

end Deregister

/-! ## Calls -/

namespace Traffic

theorem informs_ofDeregister {T : Table InstanceKey PolicySummary} {kinds : List EventKind}
    {s : Step DeregisterStage} (h : s.Informs T kinds) (i : Instance) (isProbe : Bool) :
    (ofDeregister i isProbe s).Informs T kinds := by
  obtain ⟨fx, hq, he⟩ := ofDeregister_eq i isProbe s
  rw [he]
  refine ⟨fun x hx => ?_, h.summaries⟩
  rcases List.mem_append.mp hx with hx | hx
  · exact h.carries x hx
  · exact Effect.carries_of_quiet hq x hx

/-- A call that begins to retract. -/
theorem informs_start (c : Controller) (i : Instance) (isProbe : Bool) :
    (ofDeregister i isProbe (Deregister.start c i)).Informs c.summaries [.offlineStart] :=
  informs_ofDeregister Deregister.informs_start i isProbe

/-- A call to retract that goes on. -/
theorem informs_resume_retracting (c : Controller) (i : Instance) (isProbe : Bool) (since : Nat)
    (r : Except Failure Unit) (now : Nat) :
    (Call.resume ⟨i, .deregister isProbe .retracting, since⟩ c (.retracted r) now).Informs
      c.summaries [.threadEnd] :=
  informs_ofDeregister (Deregister.informs_resume .retracting r) i isProbe

/-- A timer at its end. -/
theorem informs_finish (c : Controller) (i : Instance) (d : Duration) (since : Nat)
    (isInterrupted : Bool) (now : Nat) :
    (Call.resume ⟨i, .warmup d, since⟩ c (.timer isInterrupted) now).Informs
      c.summaries [.warmupEnd] := by
  show Step.Informs c.summaries [.warmupEnd] ⟨c, Stage.warmed, Warmup.finish c i d isInterrupted⟩
  refine ⟨fun x hx => ?_, rfl⟩
  cases isInterrupted with
  | true => exact Effect.carries_of_quiet (by simp [Warmup.finish, Controller.entry]) x hx
  | false =>
    simp only [Warmup.finish, Bool.false_eq_true, if_false, List.mem_cons, List.not_mem_nil,
      or_false] at hx
    rcases hx with rfl | rfl
    · exact c.carries_event (List.mem_singleton.mpr rfl) i
    · trivial

/-- A call that is answered leaves the summaries of other instances as they are. -/
theorem summaries_of_ne {x : Call} {c : Controller} {a : Answer} (h : Advance c x a)
    (on : c.settings.enabled = true) {k : InstanceKey} (hk : x.inst.key ≠ k) (now : Nat) :
    (x.resume c a now).controller.summaries.get? k = c.summaries.get? k := by
  cases h with
  | @admitted i s since a awaits admits =>
    by_cases hl : s = .lookup
    · subst hl
      obtain ⟨r, rfl⟩ := RegisterStage.eq_rule_of_awaits awaits
      have enabled := (c.enabled_policyFor r).trans on
      have left := (Register.informs_resume_rule admits enabled now).summaries
      show (Register.resume c i .lookup (.rule r) now).controller.summaries.get? k = _
      rw [left, Table.get?_insert, if_neg (Ne.symm hk)]
    · have left := (Register.informs_resume (c := c) (i := i) hl a now).summaries
      exact congrArg (Table.get? · k) left
  | late r refused =>
    obtain ⟨e, he⟩ := Call.resume_turnedAway refused _ r now
    rw [he]
  | @overtaken i since p b refused =>
    have waits : RegisterStage.binding p ≠ .lookup := by simp
    have left := (Register.informs_resume (c := c) (i := i) waits (.bound b) now).summaries
    exact congrArg (Table.get? · k) left
  | retracted isProbe r retracts =>
    exact congrArg (Table.get? · k) (informs_resume_retracting c _ isProbe _ r now).summaries
  | timer d isInterrupted => rfl

end Traffic

end InstanceLifecycle
