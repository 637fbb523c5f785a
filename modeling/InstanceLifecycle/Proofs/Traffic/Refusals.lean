import Mathlib.Data.List.Induction
import InstanceLifecycle.Proofs.Policy.Merging
import InstanceLifecycle.Proofs.Settings.Acceptance
import InstanceLifecycle.Proofs.Traffic.Reports

/-!
# Policies of accepted settings

A rule may say anything, but what it makes of accepted settings is a well-formed policy: a gate that
is switched on knows what to wait for, checks of the health have some time between them, numbers are
in their bounds and every path can be asked for. So neither the probe server nor the gate refuses
what a policy asks of them, and no registration ends for what its policy says.

Results:

* `wellFormed_resolve`: a rule makes well-formed policies of well-formed settings;
* `spared_resume`: a step of a registration under well-formed policies is not refused for its
  policy;
* `run_spared`: the same for all registrations of a run;
* `policies_wellFormed`: accepted settings have well-formed policies, and nothing is refused for
  them.
-/

namespace InstanceLifecycle

/-! ## Well-formed policies -/

/-- Whether a gate that is switched on lets time pass between checks of the health. -/
def DelayPolicy.IsPaced (d : DelayPolicy) : Prop :=
  d.enabled = true → ∀ h, d.strategy = .byHealthCheck h → 0 < h.interval.nanos

/-- The numbers of warm-up are in their bounds. -/
structure WarmupPolicy.WellFormed (w : WarmupPolicy) : Prop where
  curvature : 1 ≤ w.curvature
  threshold : w.overload.threshold ≤ 100

/-- The gate knows what to wait for and lets time pass, numbers are in their bounds, every path can
be asked for, and every section is switched off if the policy is. -/
structure Policy.WellFormed (p : Policy) : Prop where
  supported : p.IsSupported
  paced : p.delay.IsPaced
  warmup : p.warmup.WellFormed
  readinessPath : Http.isAbsolute p.readiness.path = true
  offlinePath : Http.isAbsolute p.offline.path = true
  healthPath : ∀ h, p.delay.strategy = .byHealthCheck h → Http.isAbsolute h.path = true
  disabled : p.enabled = false →
    p.delay.enabled = false ∧ p.readiness.enabled = false ∧ p.offline.enabled = false ∧
      p.warmup.enabled = false

theorem Duration.ofSeconds_pos {n : Nat} (h : 0 < n) : 0 < (ofSeconds n).nanos := by
  simp only [ofSeconds, nanos_ofNanos, Width.bound_64, nanosPerSecond]
  omega

/-- A gate that is switched off lets no time pass. -/
theorem DelayPolicy.isPaced_of_disabled {d : DelayPolicy} (h : d.enabled = false) : d.IsPaced := by
  intro on
  rw [h] at on
  cases on

theorem WarmupPolicy.wellFormed_disabled : WarmupPolicy.disabled.WellFormed :=
  ⟨by decide, by decide⟩

namespace GracefulSettings

variable (g : GracefulSettings)

theorem isPaced_every {interval : Duration} (h : 0 < interval.nanos) (on : Bool) :
    DelayPolicy.IsPaced ⟨on, .byHealthCheck (g.healthCheckEvery interval)⟩ := by
  intro _ check hcheck
  obtain rfl := DelayStrategy.byHealthCheck.inj hcheck
  exact h

theorem isPaced_localPolicy (hg : g.WellFormed) : g.localPolicy.delay.IsPaced := by
  unfold localPolicy
  split
  · cases on : g.delay.enabled with
    | false => exact DelayPolicy.isPaced_of_disabled rfl
    | true =>
      unfold localStrategy
      cases hk : g.delay.kind with
      | byTime => exact fun _ _ h => by cases h
      | byHealthCheck => exact g.isPaced_every (hg.byHealthCheck on hk).1 true
  · exact DelayPolicy.isPaced_of_disabled rfl

/-- A rule lets time pass between checks of the health, or switches the gate off. -/
theorem isPaced_remoteDelay (r : RuleDelay) : (g.remoteDelay r).IsPaced := by
  unfold remoteDelay
  split
  · split
    · exact fun _ _ h => by cases h
    · split
      · next n hn =>
        have pos : 0 < n := by simpa using (Option.filter_eq_some_iff.mp hn).2
        exact g.isPaced_every (Duration.ofSeconds_pos pos) true
      · exact DelayPolicy.isPaced_of_disabled rfl
    · exact DelayPolicy.isPaced_of_disabled rfl
  · exact DelayPolicy.isPaced_of_disabled rfl

theorem isPaced_resolve (hg : g.WellFormed) (remote : Option RemoteRule) :
    (g.resolve remote).delay.IsPaced := by
  have base := g.isPaced_localPolicy hg
  refine resolve_induction g (P := fun p => p.delay.IsPaced) base (fun _ r => ?_) remote
  simp only [merge]
  cases (r.online.getD {}).delay with
  | none => exact base
  | some x => exact g.isPaced_remoteDelay x

theorem wellFormed_warmup_localPolicy (hg : g.WellFormed) : g.localPolicy.warmup.WellFormed := by
  unfold localPolicy
  split
  · exact ⟨hg.warmup.curvature, hg.warmup.threshold⟩
  · exact WarmupPolicy.wellFormed_disabled

/-- A rule brings the numbers of warm-up into their bounds. -/
theorem wellFormed_remoteWarmup (r : RuleWarmup) : (remoteWarmup r).WellFormed := by
  unfold remoteWarmup
  split
  · refine ⟨?_, Nat.min_le_right ..⟩
    show 1 ≤ min ((r.curvature.filter (· ≠ 0)).getD defaultCurvature) (Width.bound 32 - 1)
    rw [curvature_eq, Width.bound_32, defaultCurvature]
    split <;> omega
  · exact WarmupPolicy.wellFormed_disabled

theorem wellFormed_warmup_resolve (hg : g.WellFormed) (remote : Option RemoteRule) :
    (g.resolve remote).warmup.WellFormed := by
  have base := g.wellFormed_warmup_localPolicy hg
  refine resolve_induction g (P := fun p => p.warmup.WellFormed) base (fun _ r => ?_) remote
  simp only [merge]
  cases (r.online.getD {}).warmup with
  | none => exact base
  | some x => exact wellFormed_remoteWarmup x

/-- Settings that are switched off switch every section off. -/
theorem sections_of_disabled (off : g.enabled = false) (remote : Option RemoteRule) :
    (g.resolve remote).delay.enabled = false ∧ (g.resolve remote).readiness.enabled = false ∧
      (g.resolve remote).offline.enabled = false ∧ (g.resolve remote).warmup.enabled = false := by
  simp [resolve, localPolicy, off, WarmupPolicy.disabled]

/-- A rule makes well-formed policies of well-formed settings. -/
theorem wellFormed_resolve (hg : g.WellFormed) (remote : Option RemoteRule) :
    (g.resolve remote).WellFormed where
  supported := g.isSupported_resolve remote
  paced := g.isPaced_resolve hg remote
  warmup := g.wellFormed_warmup_resolve hg remote
  readinessPath := by
    rw [g.readiness_path_resolve]
    exact hg.readinessPath.absolute
  offlinePath := by
    rw [g.offline_path_resolve]
    exact hg.offlinePath.absolute
  healthPath h hh := by
    obtain ⟨path, -⟩ := g.checksLocally_resolve remote h hh
    rw [path]
    exact hg.healthPath.absolute
  disabled off := by
    rw [g.enabled_resolve] at off
    exact g.sections_of_disabled off remote

end GracefulSettings

/-! ## Steps of registrations -/

/-- Whether an error says that a policy asked for something that cannot be done: a handler for a
path that nobody can ask for, or a gate that does not know what to wait for. -/
def LifecycleError.BlamesPolicy : LifecycleError → Prop
  | gate _ (.unsupportedStrategy _) => True
  | probe (.invalidPath _) => True
  | _ => False

/-- Whether a call to register an instance was not refused for its policy. -/
def RegisterStage.Spared (s : RegisterStage) : Prop :=
  ∀ e, s = .done (.error e) → ¬e.BlamesPolicy

/-- Whether the gate is not closed for want of something to wait for. -/
def GateStage.Knows (g : GateStage) : Prop :=
  ∀ name, g ≠ .closed (.error (.unsupportedStrategy name))

namespace Gate

theorem knows_arrive {p : Policy} (hp : p.IsSupported) (i : Instance) (now : Nat) :
    (arrive i p.delay now).1.Knows := by
  intro name
  cases on : p.delay.enabled with
  | true => exact arrive_waits hp on i now _
  | false => simp [arrive_of_disabled on]

theorem knows_afterFailure (i : Instance) (c : HealthCheckPolicy) (started attempt : Nat) :
    (afterFailure i c started attempt).1.Knows := by
  intro name
  unfold afterFailure
  split <;> simp

theorem knows_judge (i : Instance) (c : HealthCheckPolicy) (started attempt now : Nat)
    (r : Except String Http.Status) : (judge i c started attempt now r).1.Knows := by
  have failed := knows_afterFailure i c started attempt
  cases r with
  | ok s =>
    unfold judge
    dsimp only
    split
    · simp [GateStage.Knows]
    · exact failed
  | error reason => exact failed

/-- A gate that waited for something does not close for want of it. -/
theorem knows_resume {g : GateStage} {a : GateAnswer} (ha : g.awaits a = true) (i : Instance)
    (now : Nat) : (resume i g a now).1.Knows := by
  cases g with
  | closed r => cases ha
  | delaying d => cases a <;> simp [resume, GateStage.Knows]
  | pausing check started attempt => cases a <;> simp [resume, ask, GateStage.Knows]
  | checking check started attempt =>
    cases a with
    | answered r => exact knows_judge i check started attempt now r
    | _ => simp [resume, GateStage.Knows]

end Gate

namespace Register

variable {c : Controller} {i : Instance} {p : Policy}

theorem spared_moving {k : InstanceKey} {a b : RegistrationState}
    {next : Controller → Step RegisterStage} (hn : ∀ d, (next d).stage.Spared) :
    (c.moving k a b refuseMove next).stage.Spared := by
  unfold Controller.moving
  split
  · exact hn _
  · rintro e he
    cases he
    exact id

theorem spared_callRegistrar (origin : RegistrationState) :
    (callRegistrar c i p origin).stage.Spared :=
  spared_moving fun _ e he => by cases he

theorem spared_followGate {g : GateStage} (hg : g.Knows) : (followGate c i p g).stage.Spared := by
  unfold followGate
  split
  · exact spared_callRegistrar .gating
  · next x =>
    refine spared_moving fun d e he => ?_
    cases he
    cases x with
    | unsupportedStrategy name => exact absurd rfl (hg name)
    | _ => exact id
  · rintro e he
    cases he

theorem spared_announce (hp : p.WellFormed) (now : Nat) : (announce c i p now).stage.Spared := by
  unfold announce
  rw [Step.stage_after]
  split
  · exact spared_moving fun d => spared_followGate (Gate.knows_arrive hp.supported i now)
  · exact spared_callRegistrar .unregistered

theorem spared_followBinding (hp : p.WellFormed) (now : Nat) (binding : Except String String) :
    (followBinding c i p now binding).stage.Spared := by
  unfold followBinding
  rcases c.server.run binding with ⟨server, a | e⟩ <;> exact spared_announce hp now

theorem spared_startProbes (hp : p.WellFormed) (now : Nat) :
    (startProbes c i p now).stage.Spared := by
  unfold startProbes
  split
  · exact spared_followBinding hp now _
  · rintro e he
    cases he

/-- The probe server takes a handler for a proper path. -/
theorem spared_installing {e : EndpointPolicy} (he : Http.isAbsolute e.path = true) {h : Handler}
    {next : Controller → Step RegisterStage} (hn : ∀ d, (next d).stage.Spared) :
    (c.installing e h refuseProbe next).stage.Spared := by
  unfold Controller.installing
  split
  · simp only [ProbeServer.register, he, if_true]
    exact hn _
  · exact hn c

theorem spared_begin (hp : p.WellFormed) (now : Nat) : (begin c i p now).stage.Spared := by
  unfold begin
  split
  · rintro e he
    cases he
    exact id
  · rw [Step.stage_after]
    split
    · unfold installProbes
      split
      · exact spared_installing hp.readinessPath fun _ =>
          spared_installing hp.offlinePath fun _ => spared_startProbes hp now
      · exact spared_announce hp now
    · exact spared_callRegistrar .unregistered

/-- A step of a registration under well-formed policies is not refused for its policy. -/
theorem spared_resume {stage : RegisterStage} {a : RegisterAnswer} (ha : stage.awaits a = true)
    (hr : ∀ r, (c.policyFor r).WellFormed) (hp : ∀ q, stage.policy? = some q → q.WellFormed)
    (now : Nat) : (resume c i stage a now).stage.Spared := by
  cases stage with
  | lookup =>
    obtain ⟨r, rfl⟩ := RegisterStage.eq_rule_of_awaits ha
    exact spared_begin (hr r) now
  | binding p =>
    obtain ⟨b, rfl⟩ := RegisterStage.eq_bound_of_awaits ha
    exact spared_followBinding (hp p rfl) now b
  | gating p g =>
    obtain ⟨b, rfl⟩ := RegisterStage.eq_gate_of_awaits ha
    exact spared_followGate (Gate.knows_resume ha i now)
  | registering p =>
    obtain ⟨r, rfl⟩ := RegisterStage.eq_registered_of_awaits ha
    cases r with
    | ok r => exact spared_moving fun d e he => by cases he
    | error f =>
      refine spared_moving fun d e he => ?_
      cases he
      exact id
  | done r => cases ha

end Register

/-! ## Runs -/

namespace Traffic

/-- Whether no registration was refused for its policy. -/
def Spared (t : Traffic) : Prop :=
  ∀ n r, t.stage? n = some (.register r) → r.Spared

/-- A call that goes on and is spared leaves all spared. -/
theorem Goes.spared {t u : Traffic} {n : Nat} {i : Instance} {told : List Answer} {s : Step Stage}
    (g : Goes t n i told s u) (h : t.Spared) (hs : ∀ r, s.stage = .register r → r.Spared) :
    u.Spared := by
  intro m r hm
  obtain ⟨y, hy, hr⟩ := Option.map_eq_some_iff.mp hm
  rcases g.cases_call hy with ⟨-, rfl⟩ | ⟨-, old⟩ | ⟨-, d, timer⟩
  · exact hs r hr
  · exact h m r (by rw [stage?, old, Option.map_some, hr])
  · rw [timer] at hr
    cases hr

/-- A move under well-formed policies leaves all registrations spared. -/
theorem Spared.step {t : Traffic} (h : t.Spared)
    (hr : ∀ r, (t.controller.policyFor r).WellFormed)
    (hp : ∀ x ∈ t.calls, ∀ q, x.stage.policy? = some q → q.WellFormed) (m : Move) :
    (t.step m).Spared := by
  have move := t.stepped m
  generalize t.step m = u at move
  cases move with
  | idle => exact h
  | register i =>
    refine (goes_launch (Step.serves_of_quiet rfl rfl)).spared h fun r hs => ?_
    cases hs
    exact fun e he => by cases he
  | deregister i isProbe =>
    exact (goes_launch (serves_start ..)).spared h fun r hs => by cases hs
  | @answer n x a call awaits =>
    refine (goes_proceed call a).spared h fun s hs => ?_
    have own := hp x (List.mem_of_getElem? call)
    obtain ⟨i, stage, since⟩ := x
    rcases Stage.cases_of_awaits awaits with
      ⟨r, b, hr', rfl, awaits⟩ | ⟨isProbe, r, hd, rfl⟩ | ⟨d, isInterrupted, hw, rfl⟩
    · obtain rfl : stage = .register r := hr'
      obtain rfl := Stage.register.inj hs
      exact Register.spared_resume awaits hr own t.now
    · obtain rfl : stage = .deregister isProbe .retracting := hd
      cases hs
    · obtain rfl : stage = .warmup d := hw
      cases hs

/-- Under well-formed settings no registration of a run is refused for its policy. -/
theorem run_spared (τ : Timer) {settings : GracefulSettings} (hg : settings.WellFormed)
    (server : ProbeServer) (ms : List Move) : ((start τ settings server).run ms).Spared := by
  induction ms using List.reverseRecOn with
  | nil =>
    intro n r hn
    cases hn
  | append_singleton ms m ih =>
    rw [run_append]
    have wellFormed {c : Controller} (hc : c.settings = settings)
        (r : Except Failure (Option RemoteRule)) : (c.policyFor r).WellFormed := by
      subst hc
      obtain ⟨remote, hp⟩ := c.exists_policyFor r
      rw [hp]
      exact c.settings.wellFormed_resolve hg remote
    refine ih.step (wellFormed (run_settings τ settings server ms)) (fun x hx q hq => ?_) m
    obtain ⟨r, rfl⟩ := run_resolved τ settings server ms x hx q hq
    exact wellFormed rfl r

end Traffic

/-! ## Accepted settings -/

/-- A controller with proper settings is created on every server. -/
theorem Controller.create_eq_ok {s : Settings}
    (hm : ∀ path, s.admin.metricsPath = some path → Http.isAbsolute path = true)
    (server : ProbeServer) :
    ∃ server' fx,
      Controller.create s server = .ok ({ settings := s.graceful, server := server' }, fx) := by
  unfold create
  cases h : s.admin.metricsPath with
  | none => exact ⟨_, _, rfl⟩
  | some path =>
    simp only [ProbeServer.register, hm path h, if_true]
    exact ⟨_, _, rfl⟩

/-- Every rule, whether it can be used or not, makes a well-formed policy of accepted settings. A
controller with them is created on every server, and whatever its calls meet with, no registration
ends because of a path of a handler or a strategy of the gate. -/
theorem policies_wellFormed [DurationReader] (τ : Timer) {raw : RawSettings} {s : Settings}
    (h : Settings.ofRaw raw = .ok s) :
    (∀ remote, (s.graceful.resolve remote).WellFormed) ∧
      ∀ server, ∃ c fx, Controller.create s server = .ok (c, fx) ∧
        ∀ ms n e, (Traffic.run { timer := τ, controller := c } ms).stage? n =
            some (.register (.done (.error e))) →
          (∀ path, e ≠ .probe (.invalidPath path)) ∧
            ∀ i name, e ≠ .gate i (.unsupportedStrategy name) := by
  have hs := Settings.wellFormed_of_ofRaw h
  refine ⟨s.graceful.wellFormed_resolve hs.graceful, fun server => ?_⟩
  obtain ⟨server', fx, hc⟩ :=
    Controller.create_eq_ok (fun path hp => (hs.admin.metricsPath path hp).absolute) server
  refine ⟨_, fx, hc, fun ms n e hn => ?_⟩
  have spared : ¬e.BlamesPolicy :=
    Traffic.run_spared τ hs.graceful server' ms n _ hn e rfl
  constructor
  · rintro path rfl
    exact spared trivial
  · rintro i name rfl
    exact spared trivial

/-- Settings that wait for checks of the health and show the counters are accepted, and nothing is
refused for their policies. -/
theorem policies_wellFormed_checked :
    let raw : RawSettings :=
      { graceful :=
          { enable := some true
            delay := { enable := some true, strategy := some "DELAY_BY_HEALTH_CHECK" }
            healthCheck := { interval := some "2s", path := some " /live " }
            readiness := { enable := some true }
            warmup := { enable := some true, curvature := some 0 } }
        admin := { metricsPath := some "/metrics" } }
    let s := raw.resolve
    Settings.ofRaw raw = .ok s ∧
      s.graceful.localPolicy.delay =
        ⟨true, .byHealthCheck ⟨.ofSeconds 2, "/live", .plain, "GET", 10⟩⟩ ∧
      (∀ remote, (s.graceful.resolve remote).WellFormed) ∧
      ∀ server, ∃ c fx, Controller.create s server = .ok (c, fx) ∧
        ∀ ms n e, (Traffic.run { timer := .thirtyYears, controller := c } ms).stage? n =
            some (.register (.done (.error e))) →
          (∀ path, e ≠ .probe (.invalidPath path)) ∧
            ∀ i name, e ≠ .gate i (.unsupportedStrategy name) := by
  intro raw s
  have accepted : Settings.ofRaw raw = .ok s :=
    (Settings.ofRaw_eq_ok_iff raw s).mpr ⟨by decide +kernel, by decide +kernel, rfl⟩
  exact ⟨accepted, by decide +kernel, policies_wellFormed .thirtyYears accepted⟩

end InstanceLifecycle
