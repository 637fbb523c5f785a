import Mathlib.Data.Set.Card
import InstanceLifecycle.Proofs.Traffic.Overtaking

/-!
# What the counters say

The controller counts how registrations and retractions end. A call counts exactly when it comes to
its end with a verdict of the gate or of the registrar; a call that is turned away counts nothing.
So the counters can be read off the calls, and their differences off the states of the instances.

Results:

* `Register.counts_resume`, `Deregister.counts_resume`: a step counts the verdict of the stage that
  it comes to, and no other;
* `claims_resume`: a call has claimed its instance exactly if its stage says so;
* `counts_agree`: after every run the counters of successes differ by the number of listed
  instances, those of registrations add up to the registrations that have claimed their instance and
  returned, and those of retractions to the answers of the registrar.
-/

namespace InstanceLifecycle

/-! ## Verdicts -/

/-- Whether a counter counts how registrations or retractions end. -/
def Counter.isVerdict : Counter → Bool
  | registrationSucceeded => true
  | registrationFailed => true
  | deregistrationSucceeded => true
  | deregistrationFailed => true
  | _ => false

namespace Effect

/-- Whether an effect counts no verdict. -/
@[simp]
def isNeutral : Effect → Bool
  | count c _ => !c.isVerdict
  | _ => true

theorem total_of_neutral {fx : List Effect} (h : fx.all isNeutral = true) {c : Counter}
    (hc : c.isVerdict = true) : total c fx = 0 := by
  induction fx with
  | nil => rfl
  | cons x fx ih =>
    simp only [List.all_cons, Bool.and_eq_true] at h
    have rest := ih h.2
    have here : x.amount c = 0 := by
      cases x with
      | count d n =>
        have hd : c ≠ d := by
          rintro rfl
          simp [hc] at h
        simp [amount, hd]
      | _ => rfl
    simp only [total, List.foldr_cons] at rest ⊢
    omega

/-- Whether an instance comes to the gate or to the registrar. -/
def isClaim : Effect → Bool
  | moved _ _ .gating => true
  | moved _ _ .registering => true
  | _ => false

theorem claims_of_quiet {fx : List Effect} (h : fx.all isQuiet = true) :
    fx.any isClaim = false := by
  rw [List.any_eq_false]
  intro x hx
  have hq := List.all_eq_true.mp h x hx
  cases x <;> simp [isClaim] at hq ⊢

end Effect

/-- The verdict with which a registration has ended. -/
def RegisterStage.verdict? : RegisterStage → Option Counter
  | done (.ok _) => some .registrationSucceeded
  | done (.error (.gate ..)) => some .registrationFailed
  | done (.error (.registration ..)) => some .registrationFailed
  | _ => none

/-- The verdict with which a retraction has ended. -/
def DeregisterStage.verdict? : DeregisterStage → Option Counter
  | done (.ok .deregistered) => some .deregistrationSucceeded
  | done (.error (.deregistration ..)) => some .deregistrationFailed
  | _ => none

/-- Whether a registration has claimed its instance for the gate or for the registrar. -/
def RegisterStage.isClaimed : RegisterStage → Bool
  | gating .. => true
  | registering _ => true
  | done (.ok _) => true
  | done (.error (.gate ..)) => true
  | done (.error (.registration ..)) => true
  | _ => false

/-! ## Steps -/

/-- Whether a step counts the verdict of the stage that it comes to, and no other. -/
def Step.Counts {σ : Type} (verdict? : σ → Option Counter) (s : Step σ) : Prop :=
  ∀ c : Counter, c.isVerdict = true →
    Effect.total c s.effects = if verdict? s.stage = some c then 1 else 0

namespace Step.Counts

variable {σ : Type} {verdict? : σ → Option Counter} {s : Step σ}

theorem after (h : s.Counts verdict?) {fx : List Effect} (hf : fx.all Effect.isNeutral = true) :
    (s.after fx).Counts verdict? := by
  intro c hc
  rw [effects_after, Effect.total_append, Effect.total_of_neutral hf hc, Nat.zero_add]
  exact h c hc

/-- A step that counts no verdict and comes to a stage without one. -/
theorem of_neutral (hs : verdict? s.stage = none) (h : s.effects.all Effect.isNeutral = true) :
    s.Counts verdict? := by
  intro c hc
  rw [Effect.total_of_neutral h hc, hs]
  rfl

theorem moving {c : Controller} {k : InstanceKey} {a b : RegistrationState}
    {refused : TransitionError → σ} {next : Controller → Step σ}
    (hr : ∀ e, verdict? (refused e) = none) (hn : ∀ d, (next d).Counts verdict?) :
    (c.moving k a b refused next).Counts verdict? := by
  unfold Controller.moving
  split
  · exact (hn _).after rfl
  · exact of_neutral (hr _) rfl

theorem installing {c : Controller} {e : EndpointPolicy} {h : Handler} {refused : ProbeError → σ}
    {next : Controller → Step σ} (hr : ∀ e, verdict? (refused e) = none)
    (hn : ∀ d, (next d).Counts verdict?) : (c.installing e h refused next).Counts verdict? := by
  unfold Controller.installing
  split
  · split
    · exact (hn _).after rfl
    · exact of_neutral (hr _) rfl
  · exact hn c

end Step.Counts

namespace Register

variable {c : Controller} {i : Instance} {p : Policy}

theorem counts_callRegistrar (origin : RegistrationState) :
    (callRegistrar c i p origin).Counts RegisterStage.verdict? :=
  .moving (fun _ => rfl) fun _ => .of_neutral rfl rfl

/-- A gate that refuses is the verdict of its call. -/
theorem counts_followGate (g : GateStage) :
    (followGate c i p g).Counts RegisterStage.verdict? := by
  unfold followGate
  split
  · refine (counts_callRegistrar _).after ?_
    unfold passEffects
    split <;> rfl
  · refine .moving (fun _ => rfl) fun d x _ => ?_
    cases x <;> rfl
  · refine .of_neutral ?_ rfl
    rfl

theorem counts_announce (now : Nat) : (announce c i p now).Counts RegisterStage.verdict? := by
  unfold announce
  refine Step.Counts.after ?_ rfl
  split
  · exact .moving (fun _ => rfl) fun _ =>
      (counts_followGate _).after (Gate.all_arrive (fun _ => rfl) rfl ..)
  · exact counts_callRegistrar _

theorem counts_followBinding (now : Nat) (binding : Except String String) :
    (followBinding c i p now binding).Counts RegisterStage.verdict? := by
  unfold followBinding
  rcases c.server.run binding with ⟨server, a | e⟩
  · exact (counts_announce now).after rfl
  · refine (counts_announce now).after ?_
    split <;> rfl

theorem counts_startProbes (now : Nat) : (startProbes c i p now).Counts RegisterStage.verdict? := by
  unfold startProbes
  split
  · exact counts_followBinding now _
  · exact .of_neutral rfl rfl

theorem counts_begin (now : Nat) : (begin c i p now).Counts RegisterStage.verdict? := by
  unfold begin
  split
  · exact .of_neutral rfl rfl
  · refine Step.Counts.after ?_ (by split <;> rfl)
    split
    · unfold installProbes
      split
      · exact .installing (fun _ => rfl) fun _ =>
          .installing (fun _ => rfl) fun _ => counts_startProbes now
      · exact counts_announce now
    · exact counts_callRegistrar _

theorem counts_succeed (r : Registration) : (succeed c i p r).Counts RegisterStage.verdict? := by
  unfold succeed
  refine Step.Counts.after (.moving (fun _ => rfl) fun d x _ => ?_) (by split <;> rfl)
  split <;> cases x <;> rfl

/-- A registration that is answered counts the verdict with which it ends, if it does. -/
theorem counts_resume {stage : RegisterStage} {a : RegisterAnswer} (ha : stage.awaits a = true)
    (now : Nat) : (resume c i stage a now).Counts RegisterStage.verdict? := by
  cases stage with
  | lookup =>
    obtain ⟨r, rfl⟩ := RegisterStage.eq_rule_of_awaits ha
    refine (counts_begin now).after ?_
    cases r <;> simp [Controller.policyEffects, Controller.entry]
  | binding p =>
    obtain ⟨r, rfl⟩ := RegisterStage.eq_bound_of_awaits ha
    exact counts_followBinding now r
  | gating p g =>
    obtain ⟨b, rfl⟩ := RegisterStage.eq_gate_of_awaits ha
    exact (counts_followGate _).after (Gate.all_resume (fun _ => rfl) rfl rfl ..)
  | registering p =>
    obtain ⟨v, rfl⟩ := RegisterStage.eq_registered_of_awaits ha
    cases v with
    | ok r => exact counts_succeed r
    | error f =>
      refine .moving (fun _ => rfl) fun d x _ => ?_
      cases x <;> rfl
  | done r => cases ha

end Register

namespace Deregister

variable {c : Controller} {i : Instance}

/-- A retraction that begins counts nothing. -/
theorem counts_start : (start c i).Counts DeregisterStage.verdict? ∧
    (start c i).stage.verdict? = none := by
  unfold start
  split
  · exact ⟨.of_neutral rfl rfl, rfl⟩
  · exact ⟨.of_neutral rfl rfl, rfl⟩
  · refine ⟨.moving (fun _ => rfl) fun _ => .of_neutral rfl rfl, ?_⟩
    unfold Controller.moving
    split <;> rfl

/-- A retraction that is answered counts the verdict with which it ends. -/
theorem counts_resume (r : Except Failure Unit) :
    (resume c i .retracting r).Counts DeregisterStage.verdict? := by
  cases r with
  | ok u =>
    refine .moving (fun _ => rfl) fun d x _ => ?_
    cases x <;> rfl
  | error f =>
    refine .moving (fun _ => rfl) fun d x _ => ?_
    cases x <;> rfl

end Deregister

/-! ## Claims -/

namespace Register

variable {c : Controller} {i : Instance} {p : Policy}

/-- Whether a step comes to a stage that has claimed its instance exactly if it claims it. -/
def Claims (s : Step RegisterStage) : Prop := s.effects.any Effect.isClaim = s.stage.isClaimed

theorem isClaimed_afterGate (g : GateStage) : (afterGate i p g).isClaimed = true := by
  cases g with
  | closed r => cases r <;> rfl
  | _ => rfl

theorem claims_callRegistrar {origin : RegistrationState} (hc : c.state? i.key = some origin)
    (ho : origin.canMove .registering = true) : Claims (callRegistrar c i p origin) := by
  unfold callRegistrar
  rw [Controller.moving_eq _ _ ho, if_pos hc]
  rfl

theorem claims_announce (hc : c.state? i.key = some .unregistered) (now : Nat) :
    Claims (announce c i p now) := by
  have stage := (announce_outline (p := p) hc now).1
  unfold Claims
  rw [stage]
  unfold announce afterStart
  split
  · rw [Controller.moving_eq _ _ rfl, if_pos hc, isClaimed_afterGate]
    rfl
  · exact (claims_callRegistrar (p := p) hc rfl).trans
      (congrArg RegisterStage.isClaimed (callRegistrar_outline hc rfl).1)

theorem claims_followBinding (hc : c.state? i.key = some .unregistered) (now : Nat)
    (binding : Except String String) : Claims (followBinding c i p now binding) := by
  unfold followBinding
  rcases c.server.run binding with ⟨server, a | e⟩
  · exact claims_announce (c := { c with server }) hc now
  · have announced := claims_announce (c := { c with server }) (p := p) hc now
    unfold Claims at announced ⊢
    rw [Step.effects_after, List.any_append, announced]
    split <;> rfl

theorem claims_startProbes (hc : c.state? i.key = some .unregistered) (now : Nat) :
    Claims (startProbes c i p now) := by
  unfold startProbes
  split
  · exact claims_followBinding hc now _
  · rfl

theorem claims_installing {e : EndpointPolicy} {h : Handler}
    {next : Controller → Step RegisterStage} (hn : ∀ server, Claims (next { c with server })) :
    Claims (c.installing e h refuseProbe next) := by
  unfold Controller.installing
  split
  · split
    · next server _ => exact hn server
    · rfl
  · exact hn c.server

theorem claims_begin (hc : RegisterStage.lookup.admits (c.state? i.key)) (now : Nat) :
    Claims (begin c i p now) := by
  obtain ⟨states, hs, hj⟩ := begin_states hc
  have fresh : states.get? i.key = some .unregistered := by simp [hj]
  have opened : Claims (installProbes
      { c with states, summaries := c.summaries.insert i.key p.summary } i p now) := by
    unfold installProbes
    split
    · refine claims_installing fun server => ?_
      refine claims_installing (c := { c with
        states, summaries := c.summaries.insert i.key p.summary, server }) fun server => ?_
      exact claims_startProbes (c := { c with
        states, summaries := c.summaries.insert i.key p.summary, server }) fresh now
    · exact claims_announce (c := { c with
        states, summaries := c.summaries.insert i.key p.summary }) fresh now
  have called : Claims (callRegistrar { c with states } i p .unregistered) :=
    claims_callRegistrar (c := { c with states }) fresh rfl
  simp only [begin, hs]
  -- Leaving `deregistered` claims nothing.
  split <;> split <;> assumption

/-- A registration that is admitted has claimed its instance before or claims it now, exactly if the
stage that it comes to says so. -/
theorem claims_resume {stage : RegisterStage} {a : RegisterAnswer} (ha : stage.awaits a = true)
    (hc : stage.admits (c.state? i.key)) (now : Nat) :
    (stage.isClaimed || (resume c i stage a now).effects.any Effect.isClaim) =
      (resume c i stage a now).stage.isClaimed := by
  cases stage with
  | lookup =>
    obtain ⟨r, rfl⟩ := RegisterStage.eq_rule_of_awaits ha
    simp only [resume, Step.effects_after, List.any_append]
    rw [Effect.claims_of_quiet (policyEffects_quiet r)]
    exact claims_begin hc now
  | binding p =>
    obtain ⟨r, rfl⟩ := RegisterStage.eq_bound_of_awaits ha
    exact claims_followBinding hc now r
  | gating p g =>
    obtain ⟨b, rfl⟩ := RegisterStage.eq_gate_of_awaits ha
    show true = (resume c i (.gating p g) (.gate b) now).stage.isClaimed
    rw [stage_gate hc, isClaimed_afterGate]
  | registering p =>
    obtain ⟨v, rfl⟩ := RegisterStage.eq_registered_of_awaits ha
    show true = (resume c i (.registering p) (.registered v) now).stage.isClaimed
    rw [stage_registered hc]
    cases v <;> rfl
  | done r => exact hc.elim

end Register

namespace Traffic

/-! ## Calls -/

/-- The verdict with which a call has ended. -/
def Stage.verdict? : Stage → Option Counter
  | register s => s.verdict?
  | deregister _ s => s.verdict?
  | _ => none

/-- Whether a call has claimed its instance for the gate or for the registrar. -/
def Stage.isClaimed : Stage → Bool
  | register s => s.isClaimed
  | _ => false

/-- The offline probe counts nothing of its own. -/
theorem counts_ofDeregister {s : Step DeregisterStage} (h : s.Counts DeregisterStage.verdict?)
    (i : Instance) (isProbe : Bool) : (ofDeregister i isProbe s).Counts Stage.verdict? := by
  intro c hc
  have noted (r : Except LifecycleError DeregisterOutcome) :
      Effect.total c (offlineEffects i r) = 0 :=
    Effect.total_of_neutral (by cases r <;> rfl) hc
  have key := h c hc
  unfold ofDeregister
  split
  · rw [Effect.total_append, noted]
    exact key
  · rw [List.append_nil]
    exact key

/-- A call that is answered counts the verdict with which it ends, if it does. -/
theorem counts_resume {x : Call} {a : Answer} (ha : x.stage.awaits a = true) (c : Controller)
    (now : Nat) : (x.resume c a now).Counts Stage.verdict? := by
  obtain ⟨i, stage, since⟩ := x
  rcases Stage.cases_of_awaits ha with
    ⟨s, b, hs, rfl, awaits⟩ | ⟨isProbe, r, hs, rfl⟩ | ⟨d, isInterrupted, hs, rfl⟩
  · obtain rfl : stage = .register s := hs
    exact Register.counts_resume awaits now
  · obtain rfl : stage = .deregister isProbe .retracting := hs
    exact counts_ofDeregister (Deregister.counts_resume r) i isProbe
  · obtain rfl : stage = .warmup d := hs
    refine .of_neutral rfl ?_
    cases isInterrupted <;> rfl

/-- A call that waits for an answer has not ended. -/
theorem verdict?_of_awaits {s : Stage} {a : Answer} (h : s.awaits a = true) : s.verdict? = none := by
  rcases Stage.cases_of_awaits h with
    ⟨r, b, rfl, rfl, hr⟩ | ⟨isProbe, r, rfl, rfl⟩ | ⟨d, isInterrupted, rfl, rfl⟩
  · cases r with
    | done r => cases hr
    | _ => rfl
  · rfl
  · rfl

/-- Retractions claim nothing. -/
theorem claims_retracted (c : Controller) (i : Instance) (isProbe : Bool) (r : Except Failure Unit) :
    (ofDeregister i isProbe (Deregister.resume c i .retracting r)).effects.any Effect.isClaim =
      false := by
  obtain ⟨fx, hq, he⟩ := ofDeregister_eq i isProbe (Deregister.resume c i .retracting r)
  rw [he, List.any_append, Effect.claims_of_quiet hq, Bool.or_false]
  cases r <;> simp only [Deregister.resume, Deregister.answered, Controller.moving] <;> split <;> rfl

theorem claims_start (c : Controller) (i : Instance) (isProbe : Bool) :
    (ofDeregister i isProbe (Deregister.start c i)).effects.any Effect.isClaim = false := by
  obtain ⟨fx, hq, he⟩ := ofDeregister_eq i isProbe (Deregister.start c i)
  rw [he, List.any_append, Effect.claims_of_quiet hq, Bool.or_false]
  unfold Deregister.start
  split
  · rfl
  · rfl
  · unfold Controller.moving
    split <;> rfl

/-- A call that goes on has claimed its instance exactly if the stage that it comes to says so. -/
theorem claims_resume {x : Call} {c : Controller} {a : Answer} (h : Advance c x a) (now : Nat) :
    (x.stage.isClaimed || (x.resume c a now).effects.any Effect.isClaim) =
      (x.resume c a now).stage.isClaimed := by
  cases h with
  | admitted ha hc => exact Register.claims_resume ha hc now
  | @late i since r hc =>
    obtain ⟨x, hx⟩ := Call.resume_turnedAway hc since r now
    rw [hx]
    exact Effect.claims_of_quiet (Register.policyEffects_quiet r)
  | @overtaken i since p b hc =>
    obtain ⟨ho, fx, hq, he⟩ := Register.resume_overtaken (p := p) hc b now
    have unclaimed : (Register.resume c i (.binding p) (.bound b) now).stage.isClaimed = false := by
      obtain ⟨-, e, hs⟩ := Register.followBinding_refused (p := p) hc now b
      exact congrArg RegisterStage.isClaimed hs
    show (Register.resume c i (.binding p) (.bound b) now).effects.any Effect.isClaim = _
    rw [he, List.any_append, Effect.claims_of_quiet hq]
    exact unclaimed.symm
  | retracted isProbe r hc => exact claims_retracted c _ isProbe r
  | timer d isInterrupted => cases isInterrupted <;> rfl

/-! ### Successes -/

/-- Whether an answer is that of the registrar to a retraction. -/
def Answer.isRetraction : Answer → Bool
  | retracted _ => true
  | _ => false

/-- What an answer says about the verdict of the stage to which a call comes after it. -/
structure Decides (a : Answer) (verdict? : Option Counter) : Prop where
  registered : verdict? = some .registrationSucceeded ↔ a.success? = some .register
  deregistered : verdict? = some .deregistrationSucceeded ↔ a.success? = some .deregister
  retraction : verdict? = some .deregistrationSucceeded ∨ verdict? = some .deregistrationFailed ↔
    a.isRetraction = true

/-- A stage that a registration comes to before the registrar has answered is no success. -/
theorem verdict?_of_early {s : RegisterStage} {b : RegistrationState} (hb : b ∈ Register.early)
    (hs : s.place? = some b) : s.verdict? = none ∨ s.verdict? = some .registrationFailed := by
  cases s with
  | done r =>
    cases r with
    | ok r =>
      obtain rfl : b = .registered := (Option.some.inj hs).symm
      exact absurd hb (by decide)
    | error e => cases e <;> first | exact .inl rfl | exact .inr rfl
  | _ => exact .inl rfl

/-- An answer that is no success and not one to a retraction leads to no success. -/
theorem Decides.of_quiet {a : Answer} {verdict? : Option Counter} (success : a.success? = none)
    (no : a.isRetraction = false)
    (h : verdict? = none ∨ verdict? = some .registrationFailed) : Decides a verdict? := by
  rcases h with rfl | rfl <;> exact ⟨by simp [success], by simp [success], by simp [no]⟩

/-- The verdict with which a call ends is what its answer says. -/
theorem decides_resume {x : Call} {c : Controller} {a : Answer} (h : Advance c x a) (now : Nat) :
    Decides a (x.resume c a now).stage.verdict? := by
  cases h with
  | @admitted i s since a ha hc =>
    show Decides _ (Register.resume c i s a now).stage.verdict?
    by_cases hr : ∃ r, a = .registered r
    · obtain ⟨r, rfl⟩ := hr
      obtain ⟨p, rfl⟩ := RegisterStage.eq_registering_of_awaits ha
      rw [Register.stage_registered hc]
      cases r <;> constructor <;>
        simp [RegisterStage.ofVerdict, RegisterStage.verdict?, Except.mapError, Answer.success?,
          Answer.isRetraction]
    · have early := Register.resume_settles ha hc (fun r h => hr ⟨r, h⟩) now
      obtain ⟨b, hb, hp, -⟩ := early
      refine .of_quiet ?_ rfl (verdict?_of_early hb hp)
      cases a with
      | registered r => exact absurd ⟨r, rfl⟩ hr
      | _ => rfl
  | @late i since r hc =>
    obtain ⟨x, hx⟩ := Call.resume_turnedAway hc since r now
    rw [hx]
    exact .of_quiet rfl rfl (.inl rfl)
  | @overtaken i since p b hc =>
    obtain ⟨-, e, hs⟩ := Register.followBinding_refused (p := p) hc now b
    exact .of_quiet rfl rfl (.inl (congrArg RegisterStage.verdict? hs))
  | @retracted i since isProbe r hc =>
    show Decides _ (Deregister.resume c i .retracting r).stage.verdict?
    rw [Deregister.stage_retracted hc]
    cases r <;> constructor <;>
      simp [DeregisterStage.ofVerdict, DeregisterStage.verdict?, Answer.success?, Answer.isRetraction]
  | timer d isInterrupted => exact .of_quiet rfl rfl (.inl rfl)

/-! ## Counters -/

/-- The effects of all calls, in order. -/
def effects (t : Traffic) : List Effect := t.trace.filterMap (·.deed.effect?)

/-- How often something was counted. -/
def counted (t : Traffic) (c : Counter) : Nat := Effect.total c t.effects

/-- The counters after an effect. -/
def raise (cs : Counters) : Effect → Counters
  | .count c n => cs.add c n
  | _ => cs

/-- The counters, which were zero when the controller was created. -/
def counters (t : Traffic) : Counters := t.effects.foldl raise .zero

/-- A counter holds what was counted, as far as a word can hold it. -/
theorem get_counters (t : Traffic) (c : Counter) :
    t.counters.get c = UInt64.ofNat (t.counted c) := by
  have key (fx : List Effect) : ∀ cs : Counters,
      (fx.foldl raise cs).get c = cs.get c + UInt64.ofNat (Effect.total c fx) := by
    induction fx with
    | nil => exact fun cs => (UInt64.add_zero _).symm
    | cons x fx ih =>
      intro cs
      have raised : (raise cs x).get c = cs.get c + UInt64.ofNat (x.amount c) := by
        cases x with
        | count d n =>
          simp only [raise, Counters.get_add, Effect.amount]
          split <;> simp
        | _ => exact (UInt64.add_zero _).symm
      rw [List.foldl_cons, ih, raised, UInt64.add_assoc, ← UInt64.ofNat_add]
      rfl
  have whole := key t.effects .zero
  rw [show Counters.zero.get c = 0 from rfl, UInt64.zero_add] at whole
  exact whole

/-! ## What the counters are about -/

/-- Whether a deed is that the registrar answers a retraction. -/
def Deed.isRetraction : Deed → Bool
  | told a => a.isRetraction
  | _ => false

/-- How often the registrar has answered a retraction. -/
def answered (t : Traffic) : Nat := t.trace.countP (·.deed.isRetraction)

/-- Whether a call has brought its instance to the gate or to the registrar. -/
def hasClaimed (t : Traffic) (n : Nat) : Bool :=
  (t.logOf n).any fun h => h.deed.effect?.any Effect.isClaim

/-- Whether a registration has returned at a stage. -/
def Stage.isRegistrationOver : Stage → Bool
  | register (.done _) => true
  | _ => false

/-- How many registrations have brought their instance to the gate or to the registrar and have
returned. -/
def settled (t : Traffic) : Nat :=
  (List.range t.calls.length).countP fun n =>
    t.hasClaimed n && (t.stage? n).any Stage.isRegistrationOver

end Traffic

/-- The instances that are registered or are being retracted. -/
def Controller.listed (c : Controller) : Set InstanceKey :=
  {k | c.state? k = some .registered ∨ c.state? k = some .deregistering}

theorem Controller.mem_listed (c : Controller) (k : InstanceKey) :
    k ∈ c.listed ↔ c.lists k = true := by
  unfold listed lists
  rw [Set.mem_ofPred_eq]
  cases c.state? k with
  | none => simp
  | some s => cases s <;> simp [RegistrationState.isListed]

namespace Traffic

/-! ## Steps -/

/-- A successful registration lists one instance more, a successful retraction one less, and nothing
else changes what is listed. -/
theorem Turn.ncard_listed {k : InstanceKey} {held : Option RegistrationState} {c : Controller}
    {act : Option RegistrarAct} {s : Step Stage} (h : Turn k held c act s) (fin : c.listed.Finite) :
    s.controller.listed.Finite ∧
      s.controller.listed.ncard + (if act = some .deregister then 1 else 0) =
        c.listed.ncard + if act = some .register then 1 else 0 := by
  cases h with
  | refused _ hs _ quiet =>
    have same : s.controller.listed = c.listed := by
      unfold Controller.listed Controller.state?
      rw [hs]
    rw [same, quiet]
    exact ⟨fin, rfl⟩
  | moved b _ _ hs relists =>
    have here : k ∈ s.controller.listed ↔ b.isListed = true := by
      rw [Controller.mem_listed]
      simp [Controller.lists, hs k]
    have there : ∀ j ≠ k, (j ∈ s.controller.listed ↔ j ∈ c.listed) := by
      intro j hj
      unfold Controller.listed
      rw [Set.mem_ofPred_eq, Set.mem_ofPred_eq, hs j, if_neg hj]
    cases act with
    | none =>
      have same : s.controller.listed = c.listed := by
        ext j
        by_cases hj : j = k
        · rw [hj, here, Controller.mem_listed, relists]
        · exact there j hj
      rw [same]
      exact ⟨fin, rfl⟩
    | some act =>
      cases act with
      | register =>
        have new : k ∉ c.listed := by simp [Controller.mem_listed, relists.1]
        have grown : s.controller.listed = insert k c.listed := by
          ext j
          by_cases hj : j = k
          · simp [hj, here, relists.2]
          · simp [hj, there j hj]
        rw [grown, Set.ncard_insert_of_notMem new fin]
        exact ⟨fin.insert k, rfl⟩
      | deregister =>
        have old : k ∉ s.controller.listed := by simp [here, relists.2]
        have shrunk : c.listed = insert k s.controller.listed := by
          ext j
          by_cases hj : j = k
          · simp [hj, Controller.mem_listed, relists.1]
          · simp [hj, there j hj]
        have left : s.controller.listed.Finite := fin.subset (shrunk ▸ Set.subset_insert ..)
        rw [shrunk, Set.ncard_insert_of_notMem old left]
        exact ⟨left, rfl⟩

section Goes

variable {t u : Traffic} {n : Nat} {i : Instance} {told : List Answer} {s : Step Stage}
  (g : Goes t n i told s u)
include g

theorem Goes.counted (c : Counter) : u.counted c = t.counted c + Effect.total c s.effects := by
  have news : u.effects = t.effects ++ s.effects := by
    unfold Traffic.effects
    rw [g.trace, note, List.filterMap_append, List.filterMap_map]
    simp [deedsOf, Deed.effect?, Function.comp_def, List.filterMap_append]
  unfold Traffic.counted
  rw [news, Effect.total_append]

theorem Goes.answered : u.answered = t.answered + told.countP Answer.isRetraction := by
  unfold Traffic.answered
  rw [g.trace, note, List.countP_append, List.countP_map]
  show _ + (told.map Deed.told ++ deedsOf s).countP Deed.isRetraction = _
  rw [List.countP_append, List.countP_map, deedsOf, List.countP_append, List.countP_map]
  have silent : s.effects.countP (Deed.isRetraction ∘ Deed.effect) = 0 := by
    simp [List.countP_eq_zero, Deed.isRetraction]
  rw [silent]
  rfl

theorem Goes.hasClaimed (m : Nat) :
    u.hasClaimed m = (t.hasClaimed m || (decide (m = n) && s.effects.any Effect.isClaim)) := by
  unfold Traffic.hasClaimed
  rw [g.logOf m, List.any_append]
  congr 1
  split
  · next hm =>
    simp [hm, deedsOf, Deed.effect?, Function.comp_def]
  · next hm => simp [hm]

end Goes

/-- Another call stands where it stood, or it is a timer that claims nothing. -/
theorem Goes.isClaimed_other {t u : Traffic} {n : Nat} {i : Instance} {told : List Answer}
    {s : Step Stage} (g : Goes t n i told s u) {m : Nat} (hm : m ≠ n) :
    (u.stage? m).any Stage.isClaimed = (t.stage? m).any Stage.isClaimed := by
  unfold stage?
  cases hu : u.calls[m]? with
  | some y =>
    rcases g.others m hm y hu with ht | ⟨hle, -, d, -, hd⟩
    · rw [ht]
    · have none : t.calls[m]? = none := by simpa using hle
      simp [none, hd, Stage.isClaimed]
  | none =>
    cases ht : t.calls[m]? with
    | none => rfl
    | some y =>
      rw [g.kept m hm y ht] at hu
      cases hu

/-- What the counters hold agrees with how calls have ended, which instances are listed and what the
registrar has answered. -/
structure Tallied (t : Traffic) : Prop where
  sound : t.Sound
  verdicts : ∀ c : Counter, c.isVerdict = true →
    t.counted c = t.calls.countP fun x => x.stage.verdict? = some c
  claimed : ∀ n, t.hasClaimed n = (t.stage? n).any Stage.isClaimed
  finite : t.controller.listed.Finite
  listed : t.counted .registrationSucceeded =
    t.counted .deregistrationSucceeded + t.controller.listed.ncard
  answered : t.counted .deregistrationSucceeded + t.counted .deregistrationFailed = t.answered

namespace Tallied

variable {t : Traffic} (h : t.Tallied)
include h

/-- What is claimed at a step agrees with the stage to which its call comes. -/
theorem claimed_goes {u : Traffic} {n : Nat} {i : Instance} {told : List Answer} {s : Step Stage}
    (g : Goes t n i told s u)
    (here : ((t.stage? n).any Stage.isClaimed || s.effects.any Effect.isClaim) = s.stage.isClaimed)
    (m : Nat) : u.hasClaimed m = (u.stage? m).any Stage.isClaimed := by
  rw [g.hasClaimed, h.claimed m]
  by_cases hm : m = n
  · subst hm
    have stage : u.stage? m = some s.stage := by
      rw [stage?, g.call]
      rfl
    simp [stage, ← here]
  · simp [g.isClaimed_other hm, hm]

/-- A call that begins counts nothing. -/
theorem launch {i : Instance} {s : Step Stage} (serves : s.Serves t.controller i)
    (turn : Turn i.key none t.controller none s) (counts : s.Counts Stage.verdict?)
    (undecided : s.stage.verdict? = none)
    (claims : s.effects.any Effect.isClaim = s.stage.isClaimed) : (t.launch i s).Tallied := by
  have g := goes_launch serves
  have uncounted (c : Counter) (hc : c.isVerdict = true) : Effect.total c s.effects = 0 := by
    rw [counts c hc, undecided]
    rfl
  obtain ⟨finite, ncard⟩ := turn.ncard_listed h.finite
  refine ⟨h.sound.launch turn, fun c hc => ?_, h.claimed_goes g ?_, finite, ?_, ?_⟩
  · rw [g.counted, uncounted c hc, h.verdicts c hc, countP_launch]
    simp [undecided]
  · have new : t.stage? t.calls.length = none := by simp [stage?]
    simpa [new] using claims
  · rw [g.counted, g.counted, uncounted _ rfl, uncounted _ rfl, h.listed]
    show _ = _ + s.controller.listed.ncard
    simpa using ncard.symm
  · rw [g.counted, g.counted, uncounted _ rfl, uncounted _ rfl, g.answered]
    exact h.answered

/-- A call that goes on counts the verdict with which it ends. -/
theorem proceed {n : Nat} {x : Call} {a : Answer} (hx : t.calls[n]? = some x)
    (ha : x.stage.awaits a = true) : (t.proceed n x a).Tallied := by
  have g := goes_proceed hx a
  have owns := h.sound.owns hx
  have counts := counts_resume ha t.controller t.now
  have advance := Call.advance ha owns
  have decides := decides_resume advance t.now
  obtain ⟨finite, ncard⟩ := (Call.turn_resume ha owns t.now).ncard_listed h.finite
  refine ⟨h.sound.proceed hx ha, fun c hc => ?_, h.claimed_goes g ?_, finite, ?_, ?_⟩
  · have timers (i : Instance) (d : Duration) (now : Nat) :
        decide ((Call.mk i (.warmup d) now).stage.verdict? = some c) = false := rfl
    have before : decide (x.stage.verdict? = some c) = false := by simp [verdict?_of_awaits ha]
    rw [g.counted, counts c hc, h.verdicts c hc,
      countP_proceed (p := fun y => decide (y.stage.verdict? = some c)) timers hx before a]
    by_cases hv : (x.resume t.controller a t.now).stage.verdict? = some c <;> simp [hv]
  · have stage : t.stage? n = some x.stage := by simp [stage?, hx]
    simpa [stage] using claims_resume advance t.now
  · rw [g.counted, g.counted, counts _ rfl, counts _ rfl, h.listed]
    simp only [decides.registered, decides.deregistered]
    show _ = _ + (x.resume t.controller a t.now).controller.listed.ncard
    omega
  · rw [g.counted, g.counted, counts _ rfl, counts _ rfl, g.answered, ← h.answered,
      List.countP_singleton]
    have key := decides.retraction
    cases hr : a.isRetraction with
    | false =>
      rw [hr] at key
      have neither : ¬(_ ∨ _) := fun hv => absurd (key.mp hv) (by simp)
      rw [if_neg fun hv => neither (.inl hv), if_neg fun hv => neither (.inr hv)]
      simp
    | true =>
      rcases key.mpr hr with hv | hv <;> rw [hv] <;> simp <;> omega

/-- Every move preserves the tally. -/
theorem step (m : Move) : (t.step m).Tallied := by
  have move := t.stepped m
  generalize t.step m = u at move
  cases move with
  | idle =>
    exact { h with sound := ⟨h.sound.held, h.sound.listed⟩ }
  | register i =>
    exact h.launch (Step.serves_of_quiet rfl rfl) (turn_lookup ..) (.of_neutral rfl rfl) rfl rfl
  | deregister i isProbe =>
    obtain ⟨counts, undecided⟩ := Deregister.counts_start (c := t.controller) (i := i)
    exact h.launch (serves_start ..) (turn_start ..) (counts_ofDeregister counts i isProbe) undecided
      (claims_start ..)
  | answer call awaits => exact h.proceed call awaits

end Tallied

/-! ## Runs -/

theorem listed_start (τ : Timer) (settings : GracefulSettings) (server : ProbeServer) :
    (start τ settings server).controller.listed = ∅ := by
  ext k
  rw [Controller.mem_listed]
  exact ⟨fun h => absurd h Bool.false_ne_true, fun h => absurd h (Set.notMem_empty k)⟩

theorem tallied_start (τ : Timer) (settings : GracefulSettings) (server : ProbeServer) :
    (start τ settings server).Tallied where
  sound := sound_start τ settings server
  verdicts _ _ := rfl
  claimed _ := rfl
  finite := by
    rw [listed_start]
    exact Set.finite_empty
  listed := by
    rw [listed_start, Set.ncard_empty]
    rfl
  answered := rfl

theorem run_tallied (τ : Timer) (settings : GracefulSettings) (server : ProbeServer)
    (ms : List Move) :
    ((start τ settings server).run ms).Tallied :=
  run_induction (tallied_start τ settings server) (fun _ m _ h => h.step m) ms fun _ _ => trivial

/-- The calls that are counted can be counted by their numbers. -/
theorem countP_range_length {α : Type} (p : α → Bool) (l : List α) :
    (List.range l.length).countP (fun n => l[n]?.any p) = l.countP p := by
  induction l with
  | nil => rfl
  | cons a l ih =>
    rw [List.length_cons, List.range_succ_eq_map, List.countP_cons, List.countP_map,
      List.countP_cons, ← ih]
    rfl

/-- A registration has returned after it has claimed its instance exactly if it ended with a
verdict. -/
theorem Stage.isClaimed_and_isOver (s : Stage) :
    (s.isClaimed && s.isRegistrationOver) =
      (decide (s.verdict? = some .registrationSucceeded) ||
        decide (s.verdict? = some .registrationFailed)) := by
  cases s with
  | register s =>
    cases s with
    | done r =>
      cases r with
      | ok r => rfl
      | error e => cases e <;> rfl
    | _ => rfl
  | deregister isProbe s =>
    cases s with
    | retracting => rfl
    | done r =>
      cases r with
      | ok x => cases x <;> rfl
      | error e => cases e <;> rfl
  | _ => rfl

/-- The registrations that have claimed their instance and returned are those that were counted. -/
theorem Tallied.settled {t : Traffic} (h : t.Tallied) :
    t.counted .registrationSucceeded + t.counted .registrationFailed = t.settled := by
  have disjoint (l : List Call) :
      l.countP (fun x => decide (x.stage.verdict? = some .registrationSucceeded)) +
          l.countP (fun x => decide (x.stage.verdict? = some .registrationFailed)) =
        l.countP fun x => x.stage.isClaimed && x.stage.isRegistrationOver := by
    induction l with
    | nil => rfl
    | cons x l ih =>
      rw [List.countP_cons, List.countP_cons, List.countP_cons, ← ih, Stage.isClaimed_and_isOver]
      by_cases hs : x.stage.verdict? = some .registrationSucceeded
      · simp [hs]
        omega
      · by_cases hf : x.stage.verdict? = some .registrationFailed
        · simp [hf]
          omega
        · simp [hs, hf]
  have numbers (n : Nat) : (t.hasClaimed n && (t.stage? n).any Stage.isRegistrationOver) =
      t.calls[n]?.any fun x => x.stage.isClaimed && x.stage.isRegistrationOver := by
    rw [h.claimed n, stage?]
    cases t.calls[n]? <;> rfl
  rw [h.verdicts _ rfl, h.verdicts _ rfl, disjoint, Traffic.settled]
  simp only [numbers]
  exact (countP_range_length ..).symm

/-- After every run the counters hold what was counted. The successes differ by the number of
instances that are registered or are being retracted, the registrations that were counted are those
that have brought their instance to the gate or to the registrar and have returned, and the
retractions that were counted are those that the registrar has answered. -/
theorem counts_agree (τ : Timer) (settings : GracefulSettings) (server : ProbeServer)
    (ms : List Move) :
    let t := (start τ settings server).run ms
    (∀ c, t.counters.get c = UInt64.ofNat (t.counted c)) ∧
      t.controller.listed.Finite ∧
      t.counted .registrationSucceeded =
        t.counted .deregistrationSucceeded + t.controller.listed.ncard ∧
      t.counted .registrationSucceeded + t.counted .registrationFailed = t.settled ∧
      t.counted .deregistrationSucceeded + t.counted .deregistrationFailed = t.answered := by
  intro t
  have h : t.Tallied := run_tallied τ settings server ms
  exact ⟨t.get_counters, h.finite, h.listed, h.settled, h.answered⟩

end Traffic

end InstanceLifecycle
