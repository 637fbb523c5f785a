import InstanceLifecycle.Proofs.Gate.Passage
import InstanceLifecycle.Proofs.Traffic.Standing

/-!
# The outline of a registration

What a registration does falls into phases: the lookup of its policy, the probes and their listener,
the announcement, the gate, the call to the registrar and what follows its success. Each step goes
through some phases in order, and the events that it reports depend on the stage that it comes to.

Results:

* `begin_outline`: from the lookup on, a registration is refused by a probe, waits for the listener,
  or was announced; under a disabled policy it calls the registrar and does nothing else;
* `followBinding_outline`, `followGate_outline`: what follows the listener and the gate;
* `succeed_outline`, `fail_outline`: what follows the answer of the registrar.
-/

namespace InstanceLifecycle

/-! ## Phases -/

/-- What a registration goes through, in order. -/
inductive Phase
  | lookup
  | probes
  | listener
  | onlineStart
  | gate
  | registrar
  | onlineEnd
  | registered
  | warmup
  deriving DecidableEq, Repr

namespace Phase

/-- The place of a phase in the order. -/
def rank : Phase → Nat
  | lookup => 0
  | probes => 1
  | listener => 2
  | onlineStart => 3
  | gate => 4
  | registrar => 5
  | onlineEnd => 6
  | registered => 7
  | warmup => 8

/-- Whether phases come in order. -/
def Sorted (fs : List Phase) : Prop := fs.Pairwise fun f g => f.rank ≤ g.rank

instance (fs : List Phase) : Decidable (Sorted fs) :=
  inferInstanceAs (Decidable (fs.Pairwise fun f g => f.rank ≤ g.rank))

/-- Phases up to some phase and those from it on are in order one after the other. -/
theorem Sorted.append {fs gs : List Phase} {f : Phase} (hf : Sorted (fs ++ [f]))
    (hg : Sorted (f :: gs)) : Sorted (fs ++ gs) := by
  obtain ⟨hfs, -, hle⟩ := List.pairwise_append.mp hf
  obtain ⟨hge, hgs⟩ := List.pairwise_cons.mp hg
  refine List.pairwise_append.mpr ⟨hfs, hgs, fun a ha b hb => ?_⟩
  exact Nat.le_trans (hle a ha f (by simp)) (hge b hb)

theorem Sorted.cons_self {fs : List Phase} {f : Phase} (h : Sorted (f :: fs)) :
    Sorted (f :: f :: fs) := by
  obtain ⟨hle, -⟩ := List.pairwise_cons.mp h
  refine List.pairwise_cons.mpr ⟨fun g hg => ?_, h⟩
  rcases List.mem_cons.mp hg with rfl | hg
  · exact Nat.le_refl _
  · exact hle g hg

end Phase

/-- The phase in which an instance comes to a state. -/
@[simp]
def RegistrationState.phase? : RegistrationState → Option Phase
  | gating => some .gate
  | registering => some .registrar
  | registered => some .registered
  | _ => none

/-- The phase in which something is reported. -/
@[simp]
def EventKind.phase? : EventKind → Option Phase
  | onlineStart => some .onlineStart
  | onlineEnd => some .onlineEnd
  | warmupStart => some .warmup
  | _ => none

namespace Effect

/-- The phase that an effect belongs to. -/
@[simp]
def phase? : Effect → Option Phase
  | installed .. => some .probes
  | moved _ _ b => b.phase?
  | event kind .. => kind.phase?
  | warmup .. => some .warmup
  | _ => none

/-- What an effect reports. -/
@[simp]
def kind? : Effect → Option EventKind
  | event kind .. => some kind
  | _ => none

/-- Whether an effect only logs or counts. -/
@[simp]
def isQuiet : Effect → Bool
  | log _ => true
  | count .. => true
  | _ => false

/-- Effects that only log and count are none of those that a view picks out. -/
theorem filterMap_of_quiet {β : Type} {f : Effect → Option β}
    (hf : ∀ x : Effect, x.isQuiet = true → f x = none) {fx : List Effect}
    (h : fx.all isQuiet = true) : fx.filterMap f = [] := by
  rw [List.filterMap_eq_nil_iff]
  intro x hx
  exact hf x (List.all_eq_true.mp h x hx)

theorem phases_of_quiet {fx : List Effect} (h : fx.all isQuiet = true) :
    fx.filterMap phase? = [] := by
  refine filterMap_of_quiet (fun x hx => ?_) h
  cases x <;> first | rfl | simp at hx

theorem kinds_of_quiet {fx : List Effect} (h : fx.all isQuiet = true) :
    fx.filterMap kind? = [] := by
  refine filterMap_of_quiet (fun x hx => ?_) h
  cases x <;> first | rfl | simp at hx

end Effect

/-- The phase in which a registration waits at a stage. -/
@[simp]
def RegisterStage.phase? : RegisterStage → Option Phase
  | lookup => some .lookup
  | binding _ => some .listener
  | gating .. => some .gate
  | registering _ => some .registrar
  | done _ => none

/-- The phase in which an answer is waited for. -/
def RegisterAnswer.phase : RegisterAnswer → Phase
  | rule _ => .lookup
  | bound _ => .listener
  | gate _ => .gate
  | registered _ => .registrar

theorem RegisterStage.phase?_of_awaits {s : RegisterStage} {a : RegisterAnswer}
    (h : s.awaits a = true) : s.phase? = some a.phase := by
  cases s <;> cases a <;> first | rfl | simp [awaits] at h

/-- The phases that a step goes through, that of the stage that it comes to last. -/
def Step.phases (s : Step RegisterStage) : List Phase :=
  s.effects.filterMap Effect.phase? ++ s.stage.phase?.toList

/-! ## Legs -/

/-- A step whose phases come in order, none before some phase, and which reports these events. -/
structure Leg (origin : Phase) (kinds : List EventKind) (s : Step RegisterStage) : Prop where
  sorted : Phase.Sorted (origin :: s.phases)
  kinds : s.effects.filterMap Effect.kind? = kinds

namespace Leg

variable {f g : Phase} {kinds : List EventKind} {s : Step RegisterStage}

/-- A step with effects before its own, which come in order and not after the step. -/
theorem after (h : Leg g kinds s) {fx : List Effect} {all : List EventKind}
    (hf : Phase.Sorted (f :: fx.filterMap Effect.phase? ++ [g]))
    (hk : fx.filterMap Effect.kind? ++ kinds = all) : Leg f all (s.after fx) where
  sorted := by
    have key := Phase.Sorted.append hf h.sorted
    simpa [Step.phases] using key
  kinds := by simp [h.kinds, hk]

/-- A step that only logs and counts before its own effects. -/
theorem quiet (h : Leg f kinds s) {fx : List Effect} (hq : fx.all Effect.isQuiet = true) :
    Leg f kinds (s.after fx) where
  sorted := by simpa [Step.phases, Effect.phases_of_quiet hq] using h.sorted
  kinds := by simpa [Effect.kinds_of_quiet hq] using h.kinds

/-- A leg from a phase is one from each phase before it. -/
theorem mono (h : Leg g kinds s) (hf : f.rank ≤ g.rank) : Leg f kinds s where
  sorted := by
    obtain ⟨hge, hs⟩ := List.pairwise_cons.mp h.sorted
    exact List.pairwise_cons.mpr ⟨fun b hb => Nat.le_trans hf (hge b hb), hs⟩
  kinds := h.kinds

/-- A step that only logs and counts. -/
theorem rest {c : Controller} {stage : RegisterStage} {fx : List Effect}
    (hq : fx.all Effect.isQuiet = true) (hf : Phase.Sorted (f :: stage.phase?.toList)) :
    Leg f [] ⟨c, stage, fx⟩ where
  sorted := by simpa [Step.phases, Effect.phases_of_quiet hq] using hf
  kinds := Effect.kinds_of_quiet hq

end Leg

/-! ## The gate -/

namespace Gate

section Effects

variable {ok : Effect → Bool} (logged : ∀ e, ok (.log e) = true)
  (attempted : ok (.count .gateProbeAttempt 1) = true) (exhausted : ok (.count .gateTimeout 1) = true)

include logged exhausted in
theorem all_afterFailure (i : Instance) (check : HealthCheckPolicy) (started attempt : Nat) :
    (afterFailure i check started attempt).2.all ok = true := by
  unfold afterFailure entry
  split <;> simp [logged, exhausted]

include logged exhausted in
theorem all_judge (i : Instance) (check : HealthCheckPolicy) (started attempt now : Nat)
    (r : Except String Http.Status) : (judge i check started attempt now r).2.all ok = true := by
  have h := all_afterFailure logged exhausted i check started attempt
  unfold judge entry failureEntry entry
  split
  · split
    · simp [logged]
    · simpa [logged] using h
  · simpa [logged] using h

include logged attempted in
/-- What the gate does first is to log or to ask for a health check. -/
theorem all_arrive (i : Instance) (p : DelayPolicy) (now : Nat) :
    (arrive i p now).2.all ok = true := by
  unfold arrive ask entry
  split
  · split <;> simp [logged, attempted]
  · simp

include logged attempted exhausted in
/-- The gate logs, and it counts the health checks that it asks for and the budgets that
are spent. -/
theorem all_resume (i : Instance) (g : GateStage) (a : GateAnswer) (now : Nat) :
    (resume i g a now).2.all ok = true := by
  cases g with
  | checking check started n =>
    cases a with
    | answered r => exact all_judge logged exhausted ..
    | _ => simp [resume]
  | _ => cases a <;> simp [resume, ask, attempted]

end Effects

theorem quiet_arrive (i : Instance) (p : DelayPolicy) (now : Nat) :
    (arrive i p now).2.all Effect.isQuiet = true :=
  all_arrive (fun _ => rfl) rfl i p now

theorem quiet_resume (i : Instance) (g : GateStage) (a : GateAnswer) (now : Nat) :
    (resume i g a now).2.all Effect.isQuiet = true :=
  all_resume (fun _ => rfl) rfl rfl i g a now

end Gate

/-! ## Steps -/

namespace Register

/-- The stage that follows a stage of the gate. -/
def afterGate (i : Instance) (p : Policy) : GateStage → RegisterStage
  | .closed (.ok _) => .registering p
  | .closed (.error e) => refuse (.gate i.key.text e)
  | g => .gating p g

/-- The stage that follows the announcement of an instance. -/
def afterStart (i : Instance) (p : Policy) (now : Nat) : RegisterStage :=
  if p.delay.enabled then afterGate i p (Gate.arrive i p.delay now).1 else .registering p

/-- Where an announced or a not yet announced registration under an enabled policy stands, with the
events that were reported on the way. -/
inductive Opening (i : Instance) (p : Policy) (now : Nat) : RegisterStage → List EventKind → Prop
  | refused (e : ProbeError) : Opening i p now (refuseProbe e) []
  | binding : Opening i p now (.binding p) []
  | announced : Opening i p now (afterStart i p now) [.onlineStart]

section Steps

variable {c : Controller} {i : Instance} {p : Policy}

theorem callRegistrar_outline {origin : RegistrationState} (hc : c.state? i.key = some origin)
    (ho : origin.canMove .registering = true) :
    (callRegistrar c i p origin).stage = .registering p ∧
      (callRegistrar c i p origin).phases = [.registrar, .registrar] ∧
      (callRegistrar c i p origin).effects.filterMap Effect.kind? = [] := by
  unfold callRegistrar
  rw [Controller.moving_eq _ _ ho, if_pos hc]
  exact ⟨rfl, rfl, rfl⟩

theorem callRegistrar_leg {origin : RegistrationState} (hc : c.state? i.key = some origin)
    (ho : origin.canMove .registering = true) {f : Phase} (hf : f.rank ≤ Phase.registrar.rank) :
    Leg f [] (callRegistrar c i p origin) := by
  obtain ⟨-, hp, hk⟩ := callRegistrar_outline (p := p) hc ho
  refine ⟨?_, hk⟩
  rw [hp]
  simp [Phase.Sorted, hf]

theorem followGate_outline (hc : c.state? i.key = some .gating) (g : GateStage) :
    (followGate c i p g).stage = afterGate i p g ∧ Leg .gate [] (followGate c i p g) := by
  have stay (g : GateStage) : Leg .gate [] ⟨c, .gating p g, []⟩ :=
    .rest rfl (by simp [Phase.Sorted])
  cases g with
  | closed r =>
    cases r with
    | ok pass =>
      refine ⟨(callRegistrar_outline hc rfl).1, ?_⟩
      refine (callRegistrar_leg hc rfl (by decide)).quiet ?_
      cases pass <;> rfl
    | error e =>
      simp only [followGate]
      rw [Controller.moving_eq _ _ rfl, if_pos hc]
      refine ⟨rfl, Leg.after (g := .gate) (.rest rfl ?_) ?_ rfl⟩
      · show Phase.Sorted [.gate]
        decide
      · show Phase.Sorted [.gate, .gate]
        decide
  | delaying d => exact ⟨rfl, stay _⟩
  | checking check started n => exact ⟨rfl, stay _⟩
  | pausing check started n => exact ⟨rfl, stay _⟩

theorem announce_outline (hc : c.state? i.key = some .unregistered) (now : Nat) :
    (announce c i p now).stage = afterStart i p now ∧
      Leg .onlineStart [.onlineStart] (announce c i p now) := by
  unfold announce afterStart
  split
  · rw [Controller.moving_eq _ _ rfl, if_pos hc]
    let d : Controller := { c with states := c.states.insert i.key .gating }
    obtain ⟨hs, hl⟩ := followGate_outline (c := d) (i := i) (p := p) (by simp [d])
      (Gate.arrive i p.delay now).1
    refine ⟨hs, ?_⟩
    have arrived := hl.quiet (Gate.quiet_arrive i p.delay now)
    refine Leg.after (g := .onlineStart) (arrived.after ?_ rfl) ?_ rfl
    · simp [Phase.Sorted, Phase.rank]
    · simp [Controller.event, Phase.Sorted]
  · refine ⟨(callRegistrar_outline hc rfl).1, ?_⟩
    exact (callRegistrar_leg (f := .onlineStart) hc rfl (by decide)).after
      (by simp [Controller.event, Phase.Sorted]) rfl

theorem followBinding_outline (hc : c.state? i.key = some .unregistered) (now : Nat)
    (binding : Except String String) :
    (followBinding c i p now binding).stage = afterStart i p now ∧
      Leg .listener [.onlineStart] (followBinding c i p now binding) := by
  unfold followBinding
  rcases c.server.run binding with ⟨server, a | e⟩
  all_goals
    obtain ⟨hs, hl⟩ := announce_outline (c := { c with server }) (i := i) (p := p) hc now
    refine ⟨hs, (hl.mono (by decide)).quiet ?_⟩
  · simp [Controller.entry]
  · split <;> simp [Controller.entry]

theorem startProbes_outline (hc : c.state? i.key = some .unregistered) (now : Nat) :
    ∃ kinds, Opening i p now (startProbes c i p now).stage kinds ∧
      Leg .probes kinds (startProbes c i p now) := by
  unfold startProbes
  split
  · obtain ⟨hs, hl⟩ := followBinding_outline (p := p) hc now (.ok _)
    exact ⟨_, hs ▸ .announced, hl.mono (by decide)⟩
  · exact ⟨_, .binding, .rest (by simp) (by simp [Phase.Sorted, Phase.rank])⟩

/-- Installing a handler belongs to the probes, and a refusal ends the call. -/
theorem installing_outline {e : EndpointPolicy} {h : Handler} {now : Nat}
    {next : Controller → Step RegisterStage}
    (hn : ∀ server, ∃ kinds, Opening i p now (next { c with server }).stage kinds ∧
      Leg .probes kinds (next { c with server })) :
    ∃ kinds, Opening i p now (c.installing e h refuseProbe next).stage kinds ∧
      Leg .probes kinds (c.installing e h refuseProbe next) := by
  unfold Controller.installing
  split
  · split
    · next server _ =>
      obtain ⟨kinds, ho, hl⟩ := hn server
      exact ⟨kinds, ho, hl.after (by simp [Phase.Sorted]) rfl⟩
    · exact ⟨_, .refused _, .rest (by simp) (by simp [refuseProbe, refuse, Phase.Sorted])⟩
  · exact hn c.server

theorem installProbes_outline (hc : c.state? i.key = some .unregistered) (now : Nat) :
    ∃ kinds, Opening i p now (installProbes c i p now).stage kinds ∧
      Leg .probes kinds (installProbes c i p now) := by
  unfold installProbes
  split
  · refine installing_outline fun server => ?_
    refine installing_outline (c := { c with server }) fun server => ?_
    exact startProbes_outline (c := { c with server }) hc now
  · obtain ⟨hs, hl⟩ := announce_outline (p := p) hc now
    exact ⟨_, hs ▸ .announced, hl.mono (by decide)⟩

/-- After the lookup, a registration under a disabled policy calls the registrar and does nothing
else, and one under an enabled policy opens. -/
theorem begin_outline (hc : RegisterStage.lookup.admits (c.state? i.key)) (now : Nat) :
    (p.enabled = false ∧ (begin c i p now).stage = .registering p ∧
      (begin c i p now).phases = [.registrar, .registrar] ∧
      (begin c i p now).effects.filterMap Effect.kind? = []) ∨
    (p.enabled = true ∧ ∃ kinds, Opening i p now (begin c i p now).stage kinds ∧
      Leg .lookup kinds (begin c i p now)) := by
  obtain ⟨states, hs, hj⟩ := begin_states hc
  have fresh : states.get? i.key = some .unregistered := by simp [hj]
  simp only [begin, hs]
  by_cases hp : p.enabled = true
  · refine .inr ⟨hp, ?_⟩
    rw [if_pos hp]
    obtain ⟨kinds, ho, hl⟩ := installProbes_outline
      (c := { c with states, summaries := c.summaries.insert i.key p.summary }) (p := p) fresh now
    refine ⟨kinds, ho, ?_⟩
    have hl := hl.mono (f := .lookup) (by decide)
    split
    · exact hl.after (show Phase.Sorted [.lookup, .lookup] by decide) rfl
    · exact hl.quiet rfl
  · have hp : p.enabled = false := by simpa using hp
    refine .inl ⟨hp, ?_⟩
    obtain ⟨hst, hph, hk⟩ := callRegistrar_outline (c := { c with states }) (p := p) fresh rfl
    simp only [hp, Bool.false_eq_true, if_false]
    split
    · exact ⟨hst, hph, hk⟩
    · exact ⟨hst, hph, hk⟩

/-! ### After the registrar -/

/-- What a registration reports once the registrar has accepted the instance. -/
def closing (p : Policy) : List EventKind :=
  if p.enabled then .onlineEnd :: if p.warmup.isActive then [.warmupStart] else [] else []

/-- What a registration has reported when it stands at a stage. -/
def reportedAt (p : Policy) : RegisterStage → List EventKind
  | .gating .. => [.onlineStart]
  | .done (.error (.gate ..)) => [.onlineStart]
  | .registering _ => if p.enabled then [.onlineStart] else []
  | .done (.error (.registration ..)) => if p.enabled then [.onlineStart] else []
  | .done (.ok _) => (if p.enabled then [.onlineStart] else []) ++ closing p
  | _ => []

/-- The phases that follow a successful registration. -/
def closingPhases (p : Policy) : List Phase :=
  (if p.enabled then [.onlineEnd] else []) ++ .registered ::
    if p.enabled && p.warmup.isActive then [.warmup, .warmup] else []

theorem sorted_closingPhases (p : Policy) : Phase.Sorted (.registrar :: closingPhases p) := by
  unfold closingPhases
  cases p.enabled <;> cases p.warmup.isActive <;> decide

theorem succeed_outline (hc : c.state? i.key = some .registering) (r : Registration) :
    (succeed c i p r).stage = .done (.ok r) ∧ (succeed c i p r).phases = closingPhases p ∧
      (succeed c i p r).effects.filterMap Effect.kind? = closing p := by
  unfold succeed closing closingPhases
  rw [Controller.moving_eq _ _ rfl, if_pos hc]
  refine ⟨rfl, ?_, ?_⟩
  · cases p.enabled <;> cases p.warmup.isActive <;> rfl
  · cases p.enabled <;> cases p.warmup.isActive <;> rfl

theorem fail_outline (hc : c.state? i.key = some .registering) (f : Failure) :
    (fail c i f).stage = refuse (.registration i.key.text f) ∧ (fail c i f).phases = [] ∧
      (fail c i f).effects.filterMap Effect.kind? = [] := by
  unfold fail
  rw [Controller.moving_eq _ _ rfl, if_pos hc]
  exact ⟨rfl, rfl, rfl⟩

end Steps

/-! ### Answers -/

section Resume

variable {c : Controller} {i : Instance}

theorem policyEffects_quiet (r : Except Failure (Option RemoteRule)) :
    (c.policyEffects i r).all Effect.isQuiet = true := by
  cases r <;> simp [Controller.policyEffects, Controller.entry]

/-- What logs and counts only goes through no phase. -/
theorem phases_after {fx : List Effect} (h : fx.all Effect.isQuiet = true)
    (s : Step RegisterStage) : (s.after fx).phases = s.phases := by
  simp [Step.phases, Effect.phases_of_quiet h]

/-- The step after an answer goes through its phases in order, none before that of the answer. -/
theorem resume_sorted {stage : RegisterStage} {a : RegisterAnswer} (ha : stage.awaits a = true)
    (hc : stage.admits (c.state? i.key)) (now : Nat) :
    Phase.Sorted (a.phase :: (resume c i stage a now).phases) := by
  cases stage with
  | lookup =>
    obtain ⟨r, rfl⟩ := RegisterStage.eq_rule_of_awaits ha
    rw [resume, phases_after (policyEffects_quiet r)]
    rcases begin_outline (p := c.policyFor r) hc now with ⟨-, -, hp, -⟩ | ⟨-, kinds, -, hl⟩
    · rw [hp]
      exact (by decide : Phase.Sorted [.lookup, .registrar, .registrar])
    · exact hl.sorted
  | binding p =>
    obtain ⟨r, rfl⟩ := RegisterStage.eq_bound_of_awaits ha
    exact (followBinding_outline hc now r).2.sorted
  | gating p g =>
    obtain ⟨b, rfl⟩ := RegisterStage.eq_gate_of_awaits ha
    exact ((followGate_outline hc _).2.quiet (Gate.quiet_resume ..)).sorted
  | registering p =>
    obtain ⟨v, rfl⟩ := RegisterStage.eq_registered_of_awaits ha
    cases v with
    | ok r =>
      obtain ⟨-, hp, -⟩ := succeed_outline (p := p) hc r
      rw [resume, hp]
      exact sorted_closingPhases p
    | error f =>
      obtain ⟨-, hp, -⟩ := fail_outline hc f
      rw [resume, hp]
      exact (by decide : Phase.Sorted [.registrar])
  | done r => exact hc.elim

/-- The phases of a registration under a disabled policy. -/
def disabledPhases : List Phase := [.lookup, .registrar, .registered]

/-- The step after the answer to the lookup goes to the registrar under a disabled policy. -/
theorem resume_rule_disabled (hc : RegisterStage.lookup.admits (c.state? i.key))
    {r : Except Failure (Option RemoteRule)} (off : (c.policyFor r).enabled = false) (now : Nat) :
    (resume c i .lookup (.rule r) now).phases ⊆ disabledPhases := by
  rw [resume, phases_after (policyEffects_quiet r)]
  rcases begin_outline (p := c.policyFor r) hc now with ⟨-, -, hp, -⟩ | ⟨on, -⟩
  · rw [hp]
    decide
  · rw [off] at on
    cases on

/-- The step after the answer of the registrar reports nothing under a disabled policy. -/
theorem resume_registered_disabled {p : Policy} (hc : c.state? i.key = some .registering)
    (off : p.enabled = false) (v : Except Failure Registration) (now : Nat) :
    (resume c i (.registering p) (.registered v) now).phases ⊆ disabledPhases := by
  cases v with
  | ok r =>
    obtain ⟨-, hp, -⟩ := succeed_outline (p := p) hc r
    rw [resume, hp, closingPhases, off]
    exact (by decide : [Phase.registered] ⊆ disabledPhases)
  | error f =>
    obtain ⟨-, hp, -⟩ := fail_outline hc f
    rw [resume, hp]
    decide

end Resume

end Register

end InstanceLifecycle
