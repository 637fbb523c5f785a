import InstanceLifecycle.Proofs.Policy.Paths
import InstanceLifecycle.Proofs.Traffic.Exclusion
import InstanceLifecycle.Proofs.Traffic.Outline

/-!
# What calls return

A call that waits at the gate or for the registrar finds its instance where it left it, whatever
other calls do meanwhile. So what it is told there is what it returns. A call can come too late only
where it claims an instance: when it begins an attempt, when it leaves `unregistered`, and when it
starts to retract.

Results:

* `resume_late`: a registration is refused a change of state only while it has not claimed its
  instance;
* `run_supported`: no call goes on under a policy with a gate that is closed from the start;
* `outcomes_kept`: no answer of the gate or the registrar is lost to a change of state.
-/

namespace InstanceLifecycle

/-! ## Policies with a gate that opens -/

/-- Whether the gate knows what to wait for, if it is switched on. -/
def Policy.IsSupported (p : Policy) : Prop :=
  p.delay.enabled = true → ∀ name, p.delay.strategy ≠ .unsupported name

namespace GracefulSettings

variable (g : GracefulSettings)

theorem isSupported_localPolicy : g.localPolicy.IsSupported := by
  intro _ name
  unfold localPolicy
  split <;> exact g.localStrategy_ne_unsupported name

/-- A rule with a strategy that is not known switches the gate off. -/
theorem remoteDelay_supported (r : RuleDelay) (on : (g.remoteDelay r).enabled = true)
    (name : String) : (g.remoteDelay r).strategy ≠ .unsupported name := by
  unfold remoteDelay at on ⊢
  split
  · split
    · simp
    · split
      · simp
      · simp_all
    · simp_all
  · exact g.localStrategy_ne_unsupported name

theorem isSupported_resolve (remote : Option RemoteRule) : (g.resolve remote).IsSupported := by
  refine resolve_induction g (P := Policy.IsSupported) g.isSupported_localPolicy (fun _ r => ?_) remote
  simp only [Policy.IsSupported, merge]
  cases (r.online.getD {}).delay with
  | none => exact g.isSupported_localPolicy
  | some d => exact g.remoteDelay_supported d

end GracefulSettings

theorem Controller.isSupported_policyFor (c : Controller) (r : Except Failure (Option RemoteRule)) :
    (c.policyFor r).IsSupported := by
  obtain ⟨remote, h⟩ := c.exists_policyFor r
  rw [h]
  exact c.settings.isSupported_resolve remote

/-- A policy is switched on exactly if the settings are. -/
theorem Controller.enabled_policyFor (c : Controller) (r : Except Failure (Option RemoteRule)) :
    (c.policyFor r).enabled = c.settings.enabled := by
  obtain ⟨remote, h⟩ := c.exists_policyFor r
  rw [h]
  exact c.settings.enabled_resolve remote

/-- A gate that knows what to wait for is not closed when an instance comes to it. -/
theorem Gate.arrive_waits {p : Policy} (hp : p.IsSupported) (on : p.delay.enabled = true)
    (i : Instance) (now : Nat) (r : Except GateError GatePass) :
    (arrive i p.delay now).1 ≠ .closed r := by
  unfold arrive
  rw [if_pos on]
  split
  · simp
  · simp [ask]
  · next h => exact absurd h (hp on _)

namespace RegisterStage

/-- The policy that a call goes on under. -/
@[simp]
def policy? : RegisterStage → Option Policy
  | binding p => some p
  | gating p _ => some p
  | registering p => some p
  | _ => none

end RegisterStage

/-! ## Registrations under their policies -/

namespace Register

variable {c : Controller} {i : Instance} {p : Policy}

/-- Whether a step comes to a stage under no other policy. -/
def Carries (p : Policy) (s : Step RegisterStage) : Prop := ∀ q, s.stage.policy? = some q → q = p

@[simp]
theorem carries_after (fx : List Effect) (s : Step RegisterStage) :
    Carries p (s.after fx) ↔ Carries p s := Iff.rfl

theorem carries_moving {k : InstanceKey} {a b : RegistrationState}
    {next : Controller → Step RegisterStage} (hn : ∀ d, Carries p (next d)) :
    Carries p (c.moving k a b refuseMove next) := by
  unfold Controller.moving
  split
  · exact hn _
  · intro q hq
    cases hq

theorem carries_callRegistrar (origin : RegistrationState) :
    Carries p (callRegistrar c i p origin) :=
  carries_moving fun _ _ hq => (Option.some.inj hq).symm

theorem carries_followGate (g : GateStage) : Carries p (followGate c i p g) := by
  unfold followGate
  split
  · exact carries_callRegistrar .gating
  · exact carries_moving fun _ q hq => by cases hq
  · exact fun q hq => (Option.some.inj hq).symm

theorem carries_announce (now : Nat) : Carries p (announce c i p now) := by
  unfold announce
  rw [carries_after]
  split
  · exact carries_moving fun d => carries_followGate _
  · exact carries_callRegistrar .unregistered

theorem carries_followBinding (now : Nat) (binding : Except String String) :
    Carries p (followBinding c i p now binding) := by
  unfold followBinding
  rcases c.server.run binding with ⟨server, a | e⟩ <;> exact carries_announce now

theorem carries_startProbes (now : Nat) : Carries p (startProbes c i p now) := by
  unfold startProbes
  split
  · exact carries_followBinding now _
  · exact fun q hq => (Option.some.inj hq).symm

theorem carries_installing {e : EndpointPolicy} {h : Handler}
    {next : Controller → Step RegisterStage} (hn : ∀ d, Carries p (next d)) :
    Carries p (c.installing e h refuseProbe next) := by
  unfold Controller.installing
  split
  · split
    · exact hn _
    · intro q hq
      cases hq
  · exact hn c

theorem carries_begin (now : Nat) : Carries p (begin c i p now) := by
  unfold begin
  split
  · intro q hq
    cases hq
  · rw [carries_after]
    split
    · unfold installProbes
      split
      · exact carries_installing fun _ => carries_installing fun _ => carries_startProbes now
      · exact carries_announce now
    · exact carries_callRegistrar .unregistered

/-- A call goes on under the policy that its lookup was answered with. -/
theorem policy?_resume {stage : RegisterStage} {a : RegisterAnswer} {now : Nat} {q : Policy}
    (hq : (resume c i stage a now).stage.policy? = some q) :
    stage.policy? = some q ∨ ∃ r, a = .rule r ∧ q = c.policyFor r := by
  unfold resume at hq
  split at hq
  · next r => exact .inr ⟨r, rfl, carries_begin now q hq⟩
  · exact .inl (congrArg some (carries_followBinding now _ q hq).symm)
  · exact .inl (congrArg some (carries_followGate _ q hq).symm)
  · next p r =>
    refine .inl (congrArg some ?_)
    exact (carries_moving (p := p) (fun _ q hq => by cases hq) q hq).symm
  · next p f =>
    refine .inl (congrArg some ?_)
    exact (carries_moving (p := p) (fun _ q hq => by cases hq) q hq).symm
  · exact .inl hq

end Register

/-! ## Refusals -/

/-- A call that is admitted is not refused. -/
theorem Register.resume_admitted {c : Controller} {i : Instance} {stage : RegisterStage}
    {a : RegisterAnswer} (ha : stage.awaits a = true) (hc : stage.admits (c.state? i.key)) (now : Nat)
    (e : TransitionError) : (Register.resume c i stage a now).stage ≠ Register.refuseMove e := by
  intro he
  obtain ⟨b, hb, -⟩ := Register.resume_place ha hc now
  rw [he] at hb
  cases hb

theorem Register.begin_refusal {c : Controller} {i : Instance} {p : Policy} {now : Nat}
    {e : TransitionError} (hc : ¬RegisterStage.lookup.admits (c.state? i.key))
    (he : (Register.begin c i p now).stage = Register.refuseMove e) :
    c.states.begin i.key = .error e := by
  have key : ∃ e', c.states.begin i.key = .error e' := by
    unfold Controller.state? at hc
    unfold RegistrationStates.begin
    split <;> simp_all
  obtain ⟨e', he'⟩ := key
  simp only [Register.begin, he', Register.refuseMove, Register.refuse, RegisterStage.done.injEq,
    Except.error.injEq, LifecycleError.transition.injEq] at he
  rw [he', he]

/-- The state that an announced call leaves `unregistered` for. -/
def Policy.claim (p : Policy) : RegistrationState := if p.delay.enabled then .gating else .registering

theorem Register.announce_refusal {c : Controller} {i : Instance} {p : Policy} {now : Nat}
    {e : TransitionError} (hc : c.state? i.key ≠ some .unregistered)
    (he : (Register.announce c i p now).stage = Register.refuseMove e) :
    c.states.move i.key .unregistered p.claim = .error e := by
  have refused {b : RegistrationState} {next : Controller → Step RegisterStage}
      (h : (c.moving i.key .unregistered b Register.refuseMove next).stage = Register.refuseMove e) :
      c.states.move i.key .unregistered b = .error e := by
    cases hm : c.states.move i.key .unregistered b with
    | ok states => exact absurd (RegistrationStates.move_eq_ok_iff.mp hm).1 hc
    | error e' =>
      rw [Controller.moving_of_error hm] at h
      simpa [Register.refuseMove, Register.refuse] using h
  unfold Register.announce at he
  unfold Policy.claim
  rw [Step.stage_after] at he
  split at he
  · next on =>
    rw [if_pos on]
    exact refused he
  · next off =>
    rw [if_neg off]
    exact refused he

/-- A registration is refused a change of state only while it has not claimed its instance. -/
theorem Register.resume_late {c : Controller} {i : Instance} {stage : RegisterStage}
    {a : RegisterAnswer} {now : Nat} {e : TransitionError} (ha : stage.awaits a = true)
    (owns : ∀ s, (Traffic.Stage.register stage).held = some s → c.state? i.key = some s)
    (he : (Register.resume c i stage a now).stage = Register.refuseMove e) :
    (stage = .lookup ∧ c.states.begin i.key = .error e) ∨
      ∃ p, stage = .binding p ∧ c.states.move i.key .unregistered p.claim = .error e := by
  have hc : ¬stage.admits (c.state? i.key) := fun hc => Register.resume_admitted ha hc now e he
  cases stage with
  | lookup =>
    obtain ⟨r, rfl⟩ := RegisterStage.eq_rule_of_awaits ha
    exact .inl ⟨rfl, Register.begin_refusal hc he⟩
  | binding p =>
    obtain ⟨r, rfl⟩ := RegisterStage.eq_bound_of_awaits ha
    refine .inr ⟨p, rfl, ?_⟩
    simp only [Register.resume, Register.followBinding] at he
    split at he
    · next server _ _ => exact Register.announce_refusal (c := { c with server }) hc he
    · next server _ _ => exact Register.announce_refusal (c := { c with server }) hc he
  | gating p g => exact absurd (owns .gating rfl) hc
  | registering p => exact absurd (owns .registering rfl) hc
  | done r => cases ha

theorem Deregister.start_refusal {c : Controller} {i : Instance} {e : TransitionError}
    (he : (Deregister.start c i).stage = Deregister.refuseMove e) :
    c.states.move i.key .registered .deregistering = .error e := by
  unfold Deregister.start at he
  split at he
  · simp [Deregister.refuseMove, Deregister.refuse] at he
  · simp [Deregister.refuseMove, Deregister.refuse] at he
  · cases hm : c.states.move i.key .registered .deregistering with
    | ok states =>
      rw [Controller.moving_of_ok hm] at he
      cases he
    | error e' =>
      rw [Controller.moving_of_error hm] at he
      simpa [Deregister.refuseMove, Deregister.refuse] using he

/-! ## Answers that are kept -/

/-- What a call to register an instance returns after the registrar has answered. -/
def RegisterStage.ofVerdict (i : Instance) (r : Except Failure Registration) : RegisterStage :=
  .done (r.mapError (.registration i.key.text))

/-- What a call to retract an instance returns after the registrar has answered. -/
def DeregisterStage.ofVerdict (i : Instance) : Except Failure Unit → DeregisterStage
  | .ok _ => .done (.ok .deregistered)
  | .error f => .done (.error (.deregistration i.key.text f))

theorem Register.stage_registered {c : Controller} {i : Instance}
    (hc : c.state? i.key = some .registering) (p : Policy) (r : Except Failure Registration)
    (now : Nat) :
    (Register.resume c i (.registering p) (.registered r) now).stage = .ofVerdict i r := by
  cases r with
  | ok r => exact (Register.succeed_outline (p := p) hc r).1
  | error f => exact (Register.fail_outline hc f).1

theorem Register.stage_gate {c : Controller} {i : Instance} (hc : c.state? i.key = some .gating)
    (p : Policy) (g : GateStage) (a : GateAnswer) (now : Nat) :
    (Register.resume c i (.gating p g) (.gate a) now).stage =
      Register.afterGate i p (Gate.resume i g a now).1 :=
  (Register.followGate_outline (p := p) hc _).1

theorem Deregister.stage_retracted {c : Controller} {i : Instance}
    (hc : c.state? i.key = some .deregistering) (r : Except Failure Unit) :
    (Deregister.resume c i .retracting r).stage = .ofVerdict i r := by
  cases r with
  | ok u =>
    simp only [Deregister.resume, Deregister.answered]
    rw [Controller.moving_eq _ _ rfl, if_pos hc]
    rfl
  | error f =>
    simp only [Deregister.resume, Deregister.answered]
    rw [Controller.moving_eq _ _ rfl, if_pos hc]
    rfl

/-! ## Calls -/

namespace Traffic

/-- The stage of the call with this number. -/
def stage? (t : Traffic) (n : Nat) : Option Stage := t.calls[n]?.map (·.stage)

/-- The change of state that a call ended for because it was refused. -/
def Stage.refusal? : Stage → Option TransitionError
  | register (.done (.error (.transition e))) => some e
  | deregister _ (.done (.error (.transition e))) => some e
  | _ => none

/-- The call with this number comes too late with a move: another call has changed the state of its
instance before it claims the instance. -/
inductive Late (t : Traffic) (n : Nat) (e : TransitionError) : Move → Prop
  | begin {i : Instance} {since : Nat} (r : Except Failure (Option RemoteRule))
    (call : t.calls[n]? = some ⟨i, .register .lookup, since⟩)
    (refused : t.controller.states.begin i.key = .error e) :
    Late t n e (.answer n (.register (.rule r)))
  | leave {i : Instance} {p : Policy} {since : Nat} (r : Except String String)
    (call : t.calls[n]? = some ⟨i, .register (.binding p), since⟩)
    (refused : t.controller.states.move i.key .unregistered p.claim = .error e) :
    Late t n e (.answer n (.register (.bound r)))
  | retract {i : Instance} (isProbe : Bool) (new : n = t.calls.length)
    (refused : t.controller.states.move i.key .registered .deregistering = .error e) :
    Late t n e (.deregister i isProbe)

/-- No answer that a call waits for is lost to a change of state. -/
structure KeepsOutcomes (t : Traffic) : Prop where
  accepted : ∀ n i p since r, t.calls[n]? = some ⟨i, .register (.registering p), since⟩ →
    (t.step (.answer n (.register (.registered (.ok r))))).stage? n =
      some (.register (.done (.ok r)))
  rejected : ∀ n i p since f, t.calls[n]? = some ⟨i, .register (.registering p), since⟩ →
    (t.step (.answer n (.register (.registered (.error f))))).stage? n =
      some (.register (.done (.error (.registration i.key.text f))))
  passed : ∀ n i p g since a pass, t.calls[n]? = some ⟨i, .register (.gating p g), since⟩ →
    Call.accepts ⟨i, .register (.gating p g), since⟩ t.timer t.isCancelled t.now
      (.register (.gate a)) = true →
    (Gate.resume i g a t.now).1 = .closed (.ok pass) →
    (t.step (.answer n (.register (.gate a)))).stage? n = some (.register (.registering p))
  stopped : ∀ n i p g since a e, t.calls[n]? = some ⟨i, .register (.gating p g), since⟩ →
    Call.accepts ⟨i, .register (.gating p g), since⟩ t.timer t.isCancelled t.now
      (.register (.gate a)) = true →
    (Gate.resume i g a t.now).1 = .closed (.error e) →
    (t.step (.answer n (.register (.gate a)))).stage? n =
      some (.register (.done (.error (.gate i.key.text e))))
  /-- A gate does not refuse before it was told something. -/
  opened : ∀ (n : Nat) (i : Instance) (stage : RegisterStage) (since : Nat) (p : Policy),
    t.calls[n]? = some ⟨i, .register stage, since⟩ →
    (stage.policy? = some p ∨ ∃ r, p = t.controller.policyFor r) → p.delay.enabled = true →
    ∀ x, (Gate.arrive i p.delay t.now).1 ≠ .closed x
  retracted : ∀ n i isProbe since u, t.calls[n]? = some ⟨i, .deregister isProbe .retracting, since⟩ →
    (t.step (.answer n (.retracted (.ok u)))).stage? n =
      some (.deregister isProbe (.done (.ok .deregistered)))
  kept : ∀ n i isProbe since f, t.calls[n]? = some ⟨i, .deregister isProbe .retracting, since⟩ →
    (t.step (.answer n (.retracted (.error f)))).stage? n =
      some (.deregister isProbe (.done (.error (.deregistration i.key.text f))))
  /-- What a call holds, it can move on along every edge. -/
  movable : ∀ (n : Nat) (x : Call) (s b : RegistrationState), t.calls[n]? = some x →
    x.stage.held = some s → s.canMove b = true →
    t.controller.states.move x.inst.key s b = .ok (t.controller.states.insert x.inst.key b)
  /-- A change of state is refused only to calls that come too late to claim their instance. -/
  late : ∀ m n s e, (t.step m).stage? n = some s → s.refusal? = some e →
    t.stage? n = some s ∨ t.Late n e m

/-! ## Steps -/

/-- The call that goes on comes to the stage of its step. -/
theorem stage?_proceed {t : Traffic} {n : Nat} {x : Call} (hx : t.calls[n]? = some x) (a : Answer) :
    (t.proceed n x a).stage? n = some (x.resume t.controller a t.now).stage := by
  obtain ⟨hn, -⟩ := List.getElem?_eq_some_iff.mp hx
  unfold stage? proceed
  rw [List.getElem?_append_left (by simpa using hn), List.getElem?_set_self hn]
  rfl

/-- Another call stays where it is, and what is new is a timer. -/
theorem stage?_proceed_ne {t : Traffic} {m n : Nat} (h : n ≠ m) (x : Call) (a : Answer) {s : Stage}
    (hs : (t.proceed m x a).stage? n = some s) : t.stage? n = some s ∨ s.refusal? = none := by
  unfold stage? proceed at hs
  rw [List.getElem?_append] at hs
  split at hs
  · rw [List.getElem?_set_ne (Ne.symm h)] at hs
    exact .inl hs
  · refine .inr ?_
    obtain ⟨y, hy, rfl⟩ := Option.map_eq_some_iff.mp hs
    obtain ⟨fx, -, hfx⟩ := List.mem_filterMap.mp (List.mem_of_getElem? hy)
    cases fx <;> simp at hfx
    rw [← hfx]
    rfl

theorem stage?_answer {t : Traffic} {n : Nat} {x : Call} {a : Answer} (hx : t.calls[n]? = some x)
    (ha : x.accepts t.timer t.isCancelled t.now a = true) :
    (t.step (.answer n a)).stage? n = some (x.resume t.controller a t.now).stage := by
  rw [step_answer hx ha, stage?_proceed hx]

/-- A new call is the last one. -/
theorem stage?_launch {t : Traffic} {i : Instance} {s : Step Stage} {n : Nat} {stage : Stage}
    (hs : (t.launch i s).stage? n = some stage) :
    t.stage? n = some stage ∨ n = t.calls.length ∧ stage = s.stage := by
  unfold stage? launch at hs
  rw [List.getElem?_append] at hs
  split at hs
  · exact .inl hs
  · next hn =>
    refine .inr ?_
    obtain ⟨y, hy, rfl⟩ := Option.map_eq_some_iff.mp hs
    obtain ⟨hz, rfl⟩ := List.getElem?_eq_some_iff.mp hy
    simp only [List.length_singleton] at hz
    exact ⟨by omega, by simp⟩

/-- A call to retract an instance that was refused a change of state. -/
theorem Stage.deregister_of_refusal? {isProbe : Bool} {s : DeregisterStage} {e : TransitionError}
    (h : (deregister isProbe s).refusal? = some e) : s = Deregister.refuseMove e := by
  cases s with
  | retracting => cases h
  | done r =>
    cases r with
    | ok x => cases h
    | error x => cases x <;> cases h; rfl

/-- A call to register an instance that was refused a change of state. -/
theorem Stage.register_of_refusal? {s : RegisterStage} {e : TransitionError}
    (h : (register s).refusal? = some e) : s = Register.refuseMove e := by
  cases s with
  | done r =>
    cases r with
    | ok x => cases h
    | error x => cases x <;> cases h; rfl
  | _ => cases h

/-- A call that owns what it holds and is refused a change of state after an answer comes
too late. -/
theorem late_of_resume {t : Traffic} {n : Nat} {x : Call} {a : Answer} {e : TransitionError}
    (hx : t.calls[n]? = some x) (ha : x.stage.awaits a = true) (owns : x.Owns t.controller)
    (he : (x.resume t.controller a t.now).stage.refusal? = some e) : t.Late n e (.answer n a) := by
  obtain ⟨i, stage, since⟩ := x
  cases stage with
  | register s =>
    cases a with
    | register a =>
      have hs := Stage.register_of_refusal? he
      rcases Register.resume_late ha owns hs with ⟨rfl, hb⟩ | ⟨p, rfl, hm⟩
      · obtain ⟨r, rfl⟩ := RegisterStage.eq_rule_of_awaits ha
        exact .begin r hx hb
      · obtain ⟨r, rfl⟩ := RegisterStage.eq_bound_of_awaits ha
        exact .leave r hx hm
    | _ => simp [Stage.awaits] at ha
  | deregister isProbe s =>
    cases s with
    | retracting =>
      cases a with
      | retracted r =>
        -- The call holds its instance, so its last change of state is not refused.
        have hc : t.controller.state? i.key = some .deregistering := owns .deregistering rfl
        have hs := Stage.deregister_of_refusal? he
        rw [Deregister.stage_retracted hc] at hs
        cases r <;> simp [DeregisterStage.ofVerdict, Deregister.refuseMove, Deregister.refuse] at hs
      | _ => simp [Stage.awaits] at ha
    | done r => cases a <;> simp [Stage.awaits] at ha
  | warmup d =>
    cases a with
    | timer isInterrupted => cases he
    | _ => simp [Stage.awaits] at ha
  | warmed => simp [Stage.awaits] at ha

/-! ## Policies of calls -/

/-- The policy that a call goes on under. -/
@[simp]
def Stage.policy? : Stage → Option Policy
  | register s => s.policy?
  | _ => none

/-- Whether no call goes on under a policy with a gate that does not know what to wait for. -/
def Supported (t : Traffic) : Prop :=
  ∀ x ∈ t.calls, ∀ p, x.stage.policy? = some p → p.IsSupported

theorem Supported.launch {t : Traffic} (h : t.Supported) (i : Instance) {s : Step Stage}
    (hs : s.stage.policy? = none) : (t.launch i s).Supported := by
  intro x hx p hp
  rcases List.mem_append.mp hx with hx | hx
  · exact h x hx p hp
  · obtain rfl := List.mem_singleton.mp hx
    rw [hs] at hp
    cases hp

theorem isSupported_of_resume {x : Call} {c : Controller} {a : Answer} {now : Nat} {p : Policy}
    (hx : ∀ q, x.stage.policy? = some q → q.IsSupported)
    (hp : (x.resume c a now).stage.policy? = some p) : p.IsSupported := by
  obtain ⟨i, stage, since⟩ := x
  unfold Call.resume at hp
  split at hp
  · next s a hs =>
    obtain rfl : stage = .register s := hs
    rcases Register.policy?_resume hp with hp | ⟨r, -, rfl⟩
    · exact hx p hp
    · exact c.isSupported_policyFor r
  · cases hp
  · cases hp
  · exact hx p hp

theorem Supported.proceed {t : Traffic} (h : t.Supported) {n : Nat} {x : Call}
    (hx : t.calls[n]? = some x) (a : Answer) : (t.proceed n x a).Supported := by
  intro y hy p hp
  rcases List.mem_append.mp hy with hy | hy
  · rcases List.mem_or_eq_of_mem_set hy with hy | rfl
    · exact h y hy p hp
    · exact isSupported_of_resume (h x (List.mem_of_getElem? hx)) hp
  · obtain ⟨fx, -, hfx⟩ := List.mem_filterMap.mp hy
    cases fx <;> simp at hfx
    rw [← hfx] at hp
    cases hp

/-- No call goes on under a policy with a gate that does not know what to wait for. -/
theorem run_supported (τ : Timer) (settings : GracefulSettings) (server : ProbeServer)
    (ms : List Move) :
    ((start τ settings server).run ms).Supported := by
  have first : (start τ settings server).Supported := fun _ hx => by cases hx
  refine run_induction first (fun t m _ h => ?_) ms fun _ _ => trivial
  cases m with
  | pass millis => exact h
  | cancel => exact h
  | register i => exact h.launch i rfl
  | deregister i isProbe => exact h.launch i rfl
  | answer n a =>
    simp only [Traffic.step]
    split
    · next x hx =>
      split
      · exact h.proceed hx a
      · exact h
    · exact h

/-! ## Outcomes -/

section Sound

variable {t : Traffic} (h : t.Sound)
include h

/-- What a call holds, it can move on along every edge. -/
theorem Sound.movable {n : Nat} {x : Call} (hx : t.calls[n]? = some x) {s b : RegistrationState}
    (hs : x.stage.held = some s) (edge : s.canMove b = true) :
    t.controller.states.move x.inst.key s b = .ok (t.controller.states.insert x.inst.key b) :=
  RegistrationStates.move_eq_ok_iff.mpr ⟨h.owns hx s hs, edge, rfl⟩

/-- A call is refused a change of state only when it comes too late. -/
theorem Sound.late {m : Move} {n : Nat} {s : Stage} {e : TransitionError}
    (hs : (t.step m).stage? n = some s) (he : s.refusal? = some e) :
    t.stage? n = some s ∨ t.Late n e m := by
  cases m with
  | pass millis => exact .inl hs
  | cancel => exact .inl hs
  | register i =>
    rcases stage?_launch hs with hs | ⟨-, rfl⟩
    · exact .inl hs
    · cases he
  | deregister i isProbe =>
    rcases stage?_launch hs with hs | ⟨hn, rfl⟩
    · exact .inl hs
    · refine .inr (.retract isProbe hn (Deregister.start_refusal ?_))
      exact (Stage.deregister_of_refusal? he)
  | answer m a =>
    cases hx : t.calls[m]? with
    | none => exact .inl (by simpa [Traffic.step, hx] using hs)
    | some x =>
      by_cases ha : x.accepts t.timer t.isCancelled t.now a = true
      · rw [step_answer hx ha] at hs
        by_cases hnm : n = m
        · subst hnm
          obtain rfl := Option.some.inj (hs.symm.trans (stage?_proceed hx a))
          simp only [Call.accepts, Bool.and_eq_true] at ha
          exact .inr (late_of_resume hx ha.1.1 (h.owns hx) he)
        · rcases stage?_proceed_ne hnm x a hs with hs | hs
          · exact .inl hs
          · rw [hs] at he
            cases he
      · exact .inl (by simpa [Traffic.step, hx, ha] using hs)

theorem Sound.stage?_registered {n : Nat} {i : Instance} {p : Policy} {since : Nat}
    (hx : t.calls[n]? = some ⟨i, .register (.registering p), since⟩)
    (r : Except Failure Registration) :
    (t.step (.answer n (.register (.registered r)))).stage? n =
      some (.register (.ofVerdict i r)) := by
  have hc : t.controller.state? i.key = some .registering := h.owns hx .registering rfl
  rw [stage?_answer hx rfl, ← Register.stage_registered hc p r t.now]
  rfl

theorem Sound.stage?_gate {n : Nat} {i : Instance} {p : Policy} {g : GateStage} {since : Nat}
    {a : GateAnswer} (hx : t.calls[n]? = some ⟨i, .register (.gating p g), since⟩)
    (ha : Call.accepts ⟨i, .register (.gating p g), since⟩ t.timer t.isCancelled t.now
      (.register (.gate a)) = true) :
    (t.step (.answer n (.register (.gate a)))).stage? n =
      some (.register (Register.afterGate i p (Gate.resume i g a t.now).1)) := by
  have hc : t.controller.state? i.key = some .gating := h.owns hx .gating rfl
  rw [stage?_answer hx ha, ← Register.stage_gate hc p g a t.now]
  rfl

theorem Sound.stage?_retracted {n : Nat} {i : Instance} {isProbe : Bool} {since : Nat}
    (hx : t.calls[n]? = some ⟨i, .deregister isProbe .retracting, since⟩) (r : Except Failure Unit) :
    (t.step (.answer n (.retracted r))).stage? n =
      some (.deregister isProbe (.ofVerdict i r)) := by
  have hc : t.controller.state? i.key = some .deregistering := h.owns hx .deregistering rfl
  rw [stage?_answer hx rfl, ← Deregister.stage_retracted hc r]
  rfl

end Sound

/-- No answer of the gate or the registrar is lost to a change of state, however
calls interleave. -/
theorem outcomes_kept (τ : Timer) (settings : GracefulSettings) (server : ProbeServer)
    (ms : List Move) :
    ((start τ settings server).run ms).KeepsOutcomes := by
  have h := run_sound τ settings server ms
  have supported := run_supported τ settings server ms
  exact {
    accepted := fun n i p since r hx => h.stage?_registered hx (.ok r)
    rejected := fun n i p since f hx => h.stage?_registered hx (.error f)
    passed := fun n i p g since a pass hx ha hr => by
      rw [h.stage?_gate hx ha, hr]
      rfl
    stopped := fun n i p g since a e hx ha hr => by
      rw [h.stage?_gate hx ha, hr]
      rfl
    opened := fun n i stage since p hx hp on => by
      refine Gate.arrive_waits ?_ on i _
      rcases hp with hp | ⟨r, rfl⟩
      · exact supported _ (List.mem_of_getElem? hx) p hp
      · exact Controller.isSupported_policyFor _ r
    retracted := fun n i isProbe since u hx => h.stage?_retracted hx (.ok u)
    kept := fun n i isProbe since f hx => h.stage?_retracted hx (.error f)
    movable := fun n x s b hx hs edge => h.movable hx hs edge
    late := fun m n s e hs he => h.late hs he }

end Traffic

end InstanceLifecycle
