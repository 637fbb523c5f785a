import Mathlib.Data.List.Induction
import InstanceLifecycle.Proofs.Probe.Installation
import InstanceLifecycle.Proofs.Traffic.Reports

/-!
# How long handlers answer

An attempt to register an instance installs the probes that its policy wants, and nothing takes a
handler away: it answers for as long as the controller lives, or until a later attempt puts another
one in its place. So what answers at a path is decided by all attempts so far, and the policy of the
last one cannot switch a probe off that an earlier one has switched on.

Results:

* `routes_begin`: an attempt that begins installs what its policy wants and leaves every other path;
* `routes_run`: after every run the latest attempt that wants a path decides what answers there;
* `handlers_outlive_attempts`: the probes of an instance answer exactly if some attempt so far
  wanted them, and a request to the offline probe retracts the instance exactly then;
* `offline_after_disabled`: an instance that is registered under a rule that switches its offline
  probe off, and is retracted by a request to it.
-/

namespace InstanceLifecycle

/-! ## Steps that install nothing -/

/-- Whether a step leaves what answers at each path as it is. -/
def Step.KeepsRoutes {σ : Type} (c : Controller) (s : Step σ) : Prop :=
  s.controller.server.routes = c.server.routes

namespace Step.KeepsRoutes

variable {σ : Type} {c : Controller}

theorem moving {k : InstanceKey} {a b : RegistrationState} {refused : TransitionError → σ}
    {next : Controller → Step σ} (hn : ∀ d, (next d).KeepsRoutes d) :
    (c.moving k a b refused next).KeepsRoutes c := by
  unfold Controller.moving
  split
  · next states _ => exact hn { c with states }
  · rfl

end Step.KeepsRoutes

namespace Register

variable {c : Controller} {i : Instance} {p : Policy}

theorem keepsRoutes_callRegistrar (origin : RegistrationState) :
    (callRegistrar c i p origin).KeepsRoutes c := .moving fun _ => rfl

theorem keepsRoutes_followGate (g : GateStage) : (followGate c i p g).KeepsRoutes c := by
  unfold followGate
  split
  · exact keepsRoutes_callRegistrar _
  · exact .moving fun _ => rfl
  · rfl

theorem keepsRoutes_announce (now : Nat) : (announce c i p now).KeepsRoutes c := by
  unfold announce
  split
  · exact Step.KeepsRoutes.moving fun _ => keepsRoutes_followGate _
  · exact keepsRoutes_callRegistrar _

theorem keepsRoutes_followBinding (now : Nat) (binding : Except String String) :
    (followBinding c i p now binding).KeepsRoutes c := by
  have kept := c.server.routes_run binding
  unfold followBinding
  generalize c.server.run binding = bound at kept
  rcases bound with ⟨server, a | e⟩
  · exact (keepsRoutes_announce (c := { c with server }) now).trans kept
  · exact (keepsRoutes_announce (c := { c with server }) now).trans kept

theorem keepsRoutes_startProbes (now : Nat) : (startProbes c i p now).KeepsRoutes c := by
  unfold startProbes
  split
  · exact keepsRoutes_followBinding now _
  · rfl

/-- Only the answer to its lookup makes a registration install handlers. -/
theorem keepsRoutes_resume {stage : RegisterStage} (hs : stage ≠ .lookup) (a : RegisterAnswer)
    (now : Nat) : (resume c i stage a now).KeepsRoutes c := by
  unfold resume
  split
  · exact absurd rfl hs
  · exact keepsRoutes_followBinding now _
  · exact keepsRoutes_followGate _
  · exact Step.KeepsRoutes.moving fun _ => rfl
  · exact Step.KeepsRoutes.moving fun _ => rfl
  · rfl

end Register

namespace Deregister

variable {c : Controller} {i : Instance}

theorem keepsRoutes_start : (start c i).KeepsRoutes c := by
  unfold start
  split
  · rfl
  · rfl
  · exact .moving fun _ => rfl

theorem keepsRoutes_resume (stage : DeregisterStage) (a : Except Failure Unit) :
    (resume c i stage a).KeepsRoutes c := by
  unfold resume answered
  split
  · split <;> exact .moving fun _ => rfl
  · rfl

end Deregister

/-! ## What an attempt installs -/

/-- What a policy for an endpoint makes answer at a path, if it is this handler that it installs. -/
def EndpointPolicy.handler? (e : EndpointPolicy) (h : Handler) (path : String) : Option Handler :=
  if e.enabled = true ∧ path = e.path then some h else none

/-- What an attempt for an instance makes answer at a path; the offline probe comes last. -/
def Policy.handler? (p : Policy) (i : Instance) (path : String) : Option Handler :=
  (p.offline.handler? (.offline i) path).or (p.readiness.handler? (.readiness i.key) path)

/-- A policy that wants no probe installs none. -/
theorem Policy.handler?_of_disabled {p : Policy} (h : p.probesEnabled = false) (i : Instance)
    (path : String) : p.handler? i path = none := by
  simp only [probesEnabled, Bool.or_eq_false_iff] at h
  simp [handler?, EndpointPolicy.handler?, h]

namespace Register

variable {c : Controller} {i : Instance} {p : Policy}

/-- A handler for a proper path answers there if it is wanted, unless what follows installs another
one; every other path is left. -/
theorem routes_installing {e : EndpointPolicy} (he : Http.isAbsolute e.path = true) (h : Handler)
    (later : Option Handler) {next : Controller → Step RegisterStage} {path : String}
    (hn : ∀ server, (next { c with server }).controller.server.routes.get? path =
      later.or (server.routes.get? path)) :
    (c.installing e h refuseProbe next).controller.server.routes.get? path =
      later.or ((e.handler? h path).or (c.server.routes.get? path)) := by
  unfold Controller.installing EndpointPolicy.handler?
  by_cases on : e.enabled = true
  · simp only [on, if_true, ProbeServer.register, he, true_and]
    refine (hn _).trans ?_
    rw [Table.get?_insert]
    split <;> rfl
  · rw [if_neg on, if_neg fun h => on h.1]
    exact hn c.server

theorem routes_installProbes (hr : Http.isAbsolute p.readiness.path = true)
    (ho : Http.isAbsolute p.offline.path = true) (now : Nat) (path : String) :
    (installProbes c i p now).controller.server.routes.get? path =
      (p.handler? i path).or (c.server.routes.get? path) := by
  unfold installProbes
  by_cases hp : p.probesEnabled = true
  · rw [if_pos hp, Policy.handler?, Option.or_assoc]
    refine routes_installing hr _ (p.offline.handler? (.offline i) path) fun server => ?_
    refine routes_installing (c := { c with server }) ho _ none fun server => ?_
    exact congrArg (Table.get? · path)
      (keepsRoutes_startProbes (c := { c with server }) (i := i) (p := p) now)
  · rw [if_neg hp, Policy.handler?_of_disabled (by simpa using hp)]
    exact congrArg (Table.get? · path) (keepsRoutes_announce now)

/-- An attempt that begins installs what its policy wants and leaves every other path. -/
theorem routes_begin {states : RegistrationStates} (hs : c.states.begin i.key = .ok states)
    (hr : Http.isAbsolute p.readiness.path = true) (ho : Http.isAbsolute p.offline.path = true)
    (off : p.enabled = false → p.probesEnabled = false) (now : Nat) (path : String) :
    (begin c i p now).controller.server.routes.get? path =
      (p.handler? i path).or (c.server.routes.get? path) := by
  simp only [begin, hs, Step.controller_after]
  split
  · exact routes_installProbes
      (c := { c with states, summaries := c.summaries.insert i.key p.summary }) hr ho now path
  · next on =>
    rw [Policy.handler?_of_disabled (off (by simpa using on))]
    exact congrArg (Table.get? · path) (keepsRoutes_callRegistrar (c := { c with states }) _)

end Register

/-! ## Attempts -/

namespace Traffic

/-- The attempt that a move begins: a registration is answered its lookup, which decides the policy,
and its instance can begin an attempt. -/
def attempt? (t : Traffic) : Move → Option (Instance × Policy)
  | .answer n (.register (.rule r)) =>
    match t.calls[n]? with
    | some ⟨i, .register .lookup, _⟩ =>
      if (t.controller.states.begin i.key).isOk then some (i, t.controller.policyFor r) else none
    | _ => none
  | _ => none

/-- The attempts that some moves begin, in order. -/
def attempts : Traffic → List Move → List (Instance × Policy)
  | _, [] => []
  | t, m :: ms => (t.attempt? m).toList ++ attempts (t.step m) ms

/-- Whether every policy that a lookup can lead to has proper paths and wants no probes when it is
switched off. -/
structure Proper (c : Controller) : Prop where
  readiness : ∀ r, Http.isAbsolute (c.policyFor r).readiness.path = true
  offline : ∀ r, Http.isAbsolute (c.policyFor r).offline.path = true
  disabled : ∀ r, (c.policyFor r).enabled = false → (c.policyFor r).probesEnabled = false

theorem Proper.congr {c d : Controller} (h : Proper c) (same : d.settings = c.settings) :
    Proper d := by
  have policies := policyFor_congr same
  exact ⟨fun r => policies r ▸ h.readiness r, fun r => policies r ▸ h.offline r,
    fun r => policies r ▸ h.disabled r⟩

/-- An attempt is begun by the answer to the lookup of a registration. -/
theorem eq_of_attempt? {t : Traffic} {m : Move} {b : Instance × Policy} (h : t.attempt? m = some b) :
    ∃ n r since, m = .answer n (.register (.rule r)) ∧
      t.calls[n]? = some ⟨b.1, .register .lookup, since⟩ ∧ b.2 = t.controller.policyFor r := by
  unfold attempt? at h
  split at h
  · next n r =>
    split at h
    · next i since hx =>
      split at h
      · cases h
        exact ⟨n, r, since, rfl, hx, rfl⟩
      · cases h
    · cases h
  · cases h

/-- A call that does not wait for its lookup begins no attempt. -/
theorem attempt?_answer_of_ne {t : Traffic} {n : Nat} {a : Answer}
    (h : ∀ x, t.calls[n]? = some x → x.stage ≠ .register .lookup) :
    t.attempt? (.answer n a) = none := by
  cases hb : t.attempt? (.answer n a) with
  | none => rfl
  | some b =>
    obtain ⟨n', r, since, hm, hx, -⟩ := eq_of_attempt? hb
    cases hm
    exact absurd rfl (h _ hx)

/-- What answers at a path after a lookup was answered. -/
theorem routes_rule {t : Traffic} (proper : Proper t.controller) {n : Nat} {i : Instance}
    {since : Nat} (hx : t.calls[n]? = some ⟨i, .register .lookup, since⟩)
    (r : Except Failure (Option RemoteRule)) (path : String) :
    (Register.begin t.controller i (t.controller.policyFor r) t.now).controller.server.routes.get?
        path =
      ((t.attempt? (.answer n (.register (.rule r)))).bind fun b => b.2.handler? b.1 path).or
        (t.controller.server.routes.get? path) := by
  cases hb : t.controller.states.begin i.key with
  | ok states =>
    have begun : t.attempt? (.answer n (.register (.rule r))) =
        some (i, t.controller.policyFor r) := by simp [attempt?, hx, hb, Except.isOk, Except.toBool]
    rw [begun]
    exact Register.routes_begin hb (proper.readiness r) (proper.offline r) (proper.disabled r) ..
  | error e =>
    have refused : t.attempt? (.answer n (.register (.rule r))) = none := by
      simp [attempt?, hx, hb, Except.isOk, Except.toBool]
    rw [refused, Register.begin, hb]
    rfl

/-- What answers at a path after a call has gone on. -/
theorem routes_resume {t : Traffic} (proper : Proper t.controller) {n : Nat} {x : Call} {a : Answer}
    (hx : t.calls[n]? = some x) (ha : x.stage.awaits a = true) (path : String) :
    (x.resume t.controller a t.now).controller.server.routes.get? path =
      ((t.attempt? (.answer n a)).bind fun b => b.2.handler? b.1 path).or
        (t.controller.server.routes.get? path) := by
  obtain ⟨i, stage, since⟩ := x
  have other (hl : stage ≠ .register .lookup) : t.attempt? (.answer n a) = none := by
    refine attempt?_answer_of_ne fun y hy => ?_
    obtain rfl := Option.some.inj (hx.symm.trans hy)
    exact hl
  rcases Stage.cases_of_awaits ha with
    ⟨s, b, hs, rfl, awaits⟩ | ⟨isProbe, r, hs, rfl⟩ | ⟨d, isInterrupted, hs, rfl⟩
  · obtain rfl : stage = .register s := hs
    by_cases hl : s = .lookup
    · subst hl
      obtain ⟨r, rfl⟩ := RegisterStage.eq_rule_of_awaits awaits
      exact routes_rule proper hx r path
    · rw [other fun h => hl (Stage.register.inj h)]
      exact congrArg (Table.get? · path) (Register.keepsRoutes_resume hl b t.now)
  · obtain rfl : stage = .deregister isProbe .retracting := hs
    exact congrArg (Table.get? · path) (Deregister.keepsRoutes_resume .retracting r)
  · obtain rfl : stage = .warmup d := hs
    rfl

/-- A move that begins an attempt installs what its policy wants, and every other move leaves what
answers at each path. -/
theorem routes_step {t : Traffic} (proper : Proper t.controller) (m : Move) (path : String) :
    (t.step m).controller.server.routes.get? path =
      ((t.attempt? m).bind fun b => b.2.handler? b.1 path).or
        (t.controller.server.routes.get? path) := by
  cases m with
  | pass millis => rfl
  | register i => rfl
  | deregister i isProbe => exact congrArg (Table.get? · path) Deregister.keepsRoutes_start
  | cancel => rfl
  | answer n a =>
    cases hx : t.calls[n]? with
    | none =>
      rw [attempt?_answer_of_ne fun x h => by rw [hx] at h; cases h]
      simp [step, hx]
    | some x =>
      by_cases ha : x.accepts t.timer t.isCancelled t.now a = true
      · rw [step_answer hx ha]
        simp only [Call.accepts, Bool.and_eq_true] at ha
        exact routes_resume proper hx ha.1.1 path
      · have nothing : t.attempt? (.answer n a) = none := by
          cases hb : t.attempt? (.answer n a) with
          | none => rfl
          | some b =>
            -- The answer to a lookup always comes.
            obtain ⟨n', r, since, hm, hx', -⟩ := eq_of_attempt? hb
            cases hm
            obtain rfl := Option.some.inj (hx.symm.trans hx')
            exact absurd rfl ha
        rw [nothing]
        simp [step, hx, ha]

/-- After every run the latest attempt that wants a path decides what answers there. -/
theorem routes_run {t : Traffic} (proper : Proper t.controller) (ms : List Move) (path : String) :
    (t.run ms).controller.server.routes.get? path =
      ((attempts t ms).reverse.findSome? fun b => b.2.handler? b.1 path).or
        (t.controller.server.routes.get? path) := by
  induction ms generalizing t with
  | nil => rfl
  | cons m ms ih =>
    rw [run_cons, ih (proper.congr (t.settings_step m)), routes_step proper, attempts,
      ← Option.or_assoc, List.reverse_append, List.findSome?_append]
    congr 2
    cases t.attempt? m with
    | none => rfl
    | some b => simp

/-- An attempt goes on under the policy for the answer to its lookup. -/
theorem policy_of_mem_attempts {t : Traffic} {ms : List Move} {b : Instance × Policy}
    (h : b ∈ attempts t ms) : ∃ r, b.2 = t.controller.policyFor r := by
  induction ms generalizing t with
  | nil => cases h
  | cons m ms ih =>
    rcases List.mem_append.mp h with h | h
    · obtain ⟨n, r, since, -, -, hp⟩ := eq_of_attempt? (Option.mem_toList.mp h)
      exact ⟨r, hp⟩
    · obtain ⟨r, hp⟩ := ih h
      exact ⟨r, hp.trans (policyFor_congr (t.settings_step m) r)⟩

/-! ## Requests -/

/-- The traffic after a request has come to what answers it; the offline probe starts to retract its
instance. -/
def asked (t : Traffic) (target : String) : Traffic :=
  match t.controller.server.route? target with
  | some (.offline i) => t.step (.deregister i true)
  | _ => t

/-- A request starts to retract a registered instance exactly if the offline probe of that instance
answers it. -/
theorem retracts_asked_iff {t : Traffic} {k : InstanceKey}
    (registered : t.controller.state? k = some .registered) (target : String) :
    (t.asked target).controller.state? k = some .deregistering ↔
      ∃ i, i.key = k ∧ t.controller.server.route? target = some (.offline i) := by
  constructor
  · intro retracting
    unfold asked at retracting
    split at retracting
    · next i answers =>
      refine ⟨i, ?_, answers⟩
      by_contra hk
      have kept := (turn_start t.controller i true).state?_of_ne (Ne.symm hk)
      have retracting : (ofDeregister i true (Deregister.start t.controller i)).controller.state? k =
          some .deregistering := retracting
      rw [kept, registered] at retracting
      cases retracting
    · rw [registered] at retracting
      cases retracting
  · rintro ⟨i, rfl, answers⟩
    obtain ⟨b, hb, -, hs⟩ := Deregister.start_settles registered
    obtain rfl := List.mem_singleton.mp hb
    unfold asked
    rw [answers]
    exact (hs i.key).trans (if_pos rfl)

/-- What answers for an instance after some attempts for it. -/
structure Served (s : Settings) (k : InstanceKey) (bs : List (Instance × Policy)) (t : Traffic) :
    Prop where
  readiness : t.controller.server.routes.get? s.graceful.readiness.path = some (.readiness k) ↔
    ∃ b ∈ bs, b.2.readiness.enabled = true
  offline : (∃ i, i.key = k ∧
      t.controller.server.routes.get? s.graceful.offline.path = some (.offline i)) ↔
    ∃ b ∈ bs, b.2.offline.enabled = true
  /-- A request to the offline probe can retract the instance while it is registered. -/
  retracts : ∀ target, ProbeServer.pathOf target = s.graceful.offline.path →
    t.controller.state? k = some .registered →
    ((t.asked target).controller.state? k = some .deregistering ↔
      ∃ b ∈ bs, b.2.offline.enabled = true)

/-- If all that some values lead to has a property, and what is there without them has not, then
what is found has it exactly if one of the values leads to something. -/
theorem findSome?_or_iff {α β : Type} {f : α → Option β} {P : β → Prop} {l : List α}
    {base : Option β} (hf : ∀ a ∈ l, ∀ b, f a = some b → P b) (hbase : ∀ b, base = some b → ¬P b) :
    (∃ b, (l.findSome? f).or base = some b ∧ P b) ↔ ∃ a ∈ l, (f a).isSome = true := by
  cases hl : l.findSome? f with
  | none =>
    have nothing := List.findSome?_eq_none_iff.mp hl
    constructor
    · rintro ⟨b, hb, hp⟩
      exact absurd hp (hbase b hb)
    · rintro ⟨a, ha, hs⟩
      rw [nothing a ha] at hs
      cases hs
  | some b =>
    obtain ⟨a, ha, hb⟩ := List.exists_of_findSome?_eq_some hl
    exact ⟨fun _ => ⟨a, ha, by rw [hb]; rfl⟩, fun _ => ⟨b, rfl, hf a ha b hb⟩⟩

end Traffic

/-- Where a controller was just created, only the page of counters answers. -/
theorem Controller.routes_create {s : Settings} {listen : String} {c : Controller} {fx : List Effect}
    (h : create s { listen } = .ok (c, fx)) {path : String} {handler : Handler}
    (hp : c.server.routes.get? path = some handler) : handler = .counters := by
  unfold create at h
  split at h
  · cases h
    cases hp
  · split at h
    · next server hserver =>
      cases h
      rw [ProbeServer.get?_register hserver] at hp
      split at hp
      · exact (Option.some.inj hp).symm
      · cases hp
    · cases h

/-- Under different paths the readiness probe answers at its own path if it is wanted. -/
theorem Policy.handler?_readiness {p : Policy} (apart : p.readiness.path ≠ p.offline.path)
    (i : Instance) : p.handler? i p.readiness.path =
      if p.readiness.enabled = true then some (.readiness i.key) else none := by
  simp [handler?, EndpointPolicy.handler?, apart]

/-- Under different paths the offline probe answers at its own path if it is wanted. -/
theorem Policy.handler?_offline {p : Policy} (apart : p.readiness.path ≠ p.offline.path)
    (i : Instance) : p.handler? i p.offline.path =
      if p.offline.enabled = true then some (.offline i) else none := by
  simp [handler?, EndpointPolicy.handler?, Ne.symm apart]

namespace Traffic

/-- The policies of accepted settings are proper. -/
theorem proper_of_ofRaw [DurationReader] {raw : RawSettings} {s : Settings}
    (h : Settings.ofRaw raw = .ok s) {c : Controller} (hs : c.settings = s.graceful) : Proper c := by
  obtain ⟨hr, ho, -⟩ := isAbsolute_of_ofRaw h
  have policy (r : Except Failure (Option RemoteRule)) :
      ∃ remote, c.policyFor r = s.graceful.resolve remote := by
    rw [← hs]
    exact c.exists_policyFor r
  refine ⟨fun r => ?_, fun r => ?_, fun r off => ?_⟩ <;> obtain ⟨remote, hp⟩ := policy r
  · rw [hp, s.graceful.readiness_path_resolve, hr]
  · rw [hp, s.graceful.offline_path_resolve, ho]
  · rw [hp, s.graceful.enabled_resolve] at off
    obtain ⟨hre, hoe⟩ := s.graceful.probes_of_disabled off remote
    rw [hp, Policy.probesEnabled, hre, hoe]
    rfl

/-- What an attempt under accepted settings with different paths makes answer at the two paths. -/
theorem handlers_of_mem_attempts {s : Settings} {t : Traffic} {ms : List Move}
    (hs : t.controller.settings = s.graceful)
    (apart : s.graceful.readiness.path ≠ s.graceful.offline.path) {b : Instance × Policy}
    (hb : b ∈ attempts t ms) :
    b.2.handler? b.1 s.graceful.readiness.path =
        (if b.2.readiness.enabled = true then some (.readiness b.1.key) else none) ∧
      b.2.handler? b.1 s.graceful.offline.path =
        if b.2.offline.enabled = true then some (.offline b.1) else none := by
  obtain ⟨r, hr⟩ := policy_of_mem_attempts hb
  obtain ⟨remote, hp⟩ := t.controller.exists_policyFor r
  have policy : b.2 = s.graceful.resolve remote := hr.trans (hs ▸ hp)
  have readiness : b.2.readiness.path = s.graceful.readiness.path := by
    rw [policy, s.graceful.readiness_path_resolve]
  have offline : b.2.offline.path = s.graceful.offline.path := by
    rw [policy, s.graceful.offline_path_resolve]
  rw [← readiness, ← offline] at apart ⊢
  exact ⟨Policy.handler?_readiness apart b.1, Policy.handler?_offline apart b.1⟩

/-- If attempts for one instance make only handlers of some kind answer at a path, and there was
none before, then such a handler answers there exactly if some attempt wanted it. -/
theorem answers_iff {t : Traffic} (proper : Proper t.controller) {ms : List Move} {k : InstanceKey}
    (only : ∀ b ∈ attempts t ms, b.1.key = k) {path : String} (wanted : Policy → Bool)
    (handler : Instance → Handler) {P : Handler → Prop}
    (wants : ∀ b ∈ attempts t ms,
      b.2.handler? b.1 path = if wanted b.2 = true then some (handler b.1) else none)
    (kind : ∀ i, i.key = k → P (handler i))
    (fresh : ∀ x, t.controller.server.routes.get? path = some x → ¬P x) :
    (∃ x, (t.run ms).controller.server.routes.get? path = some x ∧ P x) ↔
      ∃ b ∈ attempts t ms, wanted b.2 = true := by
  have found : ∀ b ∈ (attempts t ms).reverse, ∀ x, b.2.handler? b.1 path = some x → P x := by
    intro b hb x hx
    have hb := List.mem_reverse.mp hb
    rw [wants b hb] at hx
    split at hx
    · cases hx
      exact kind b.1 (only b hb)
    · cases hx
  rw [routes_run proper, findSome?_or_iff found fresh]
  constructor
  · rintro ⟨b, hb, some⟩
    have hb := List.mem_reverse.mp hb
    rw [wants b hb] at some
    exact ⟨b, hb, by simpa using some⟩
  · rintro ⟨b, hb, on⟩
    exact ⟨b, List.mem_reverse.mpr hb, by simp [wants b hb, on]⟩

section Served

variable [DurationReader] {τ : Timer} {raw : RawSettings} {s : Settings} {listen : String}
  {c : Controller} {fx : List Effect} {k : InstanceKey} {ms : List Move}
  (h : Settings.ofRaw raw = .ok s)
  (apart : s.graceful.readiness.path ≠ s.graceful.offline.path)
  (hc : Controller.create s { listen } = .ok (c, fx)) (hs : c.settings = s.graceful)
  (only : ∀ b ∈ attempts { timer := τ, controller := c } ms, b.1.key = k)
include h apart hc hs only

theorem served_readiness :
    let t₀ : Traffic := { timer := τ, controller := c }
    (t₀.run ms).controller.server.routes.get? s.graceful.readiness.path = some (.readiness k) ↔
      ∃ b ∈ attempts t₀ ms, b.2.readiness.enabled = true := by
  have key := answers_iff (proper_of_ofRaw h hs) only (fun p => p.readiness.enabled)
    (fun i => .readiness i.key) (P := fun x => x = .readiness k)
    (fun b hb => (handlers_of_mem_attempts hs apart hb).1) (fun i hi => by rw [hi])
    fun x hx => by rw [Controller.routes_create hc hx]; simp
  rwa [exists_eq_right] at key

theorem served_offline :
    let t₀ : Traffic := { timer := τ, controller := c }
    (∃ i, i.key = k ∧ (t₀.run ms).controller.server.routes.get? s.graceful.offline.path =
        some (.offline i)) ↔
      ∃ b ∈ attempts t₀ ms, b.2.offline.enabled = true := by
  have key := answers_iff (proper_of_ofRaw h hs) only (fun p => p.offline.enabled) .offline
    (P := fun x => ∃ i, i.key = k ∧ x = .offline i)
    (fun b hb => (handlers_of_mem_attempts hs apart hb).2) (fun i hi => ⟨i, hi, rfl⟩)
    fun x hx => by rw [Controller.routes_create hc hx]; simp
  refine Iff.trans ?_ key
  constructor
  · rintro ⟨i, hi, hx⟩
    exact ⟨_, hx, i, hi, rfl⟩
  · rintro ⟨x, hx, i, hi, rfl⟩
    exact ⟨i, hi, hx⟩

/-- What attempts for one instance leave behind. -/
theorem served_of_attempts :
    let t₀ : Traffic := { timer := τ, controller := c }
    Served s k (attempts t₀ ms) (t₀.run ms) where
  readiness := served_readiness h apart hc hs only
  offline := served_offline h apart hc hs only
  retracts target htarget registered := by
    rw [retracts_asked_iff registered, ProbeServer.route?, htarget]
    exact served_offline h apart hc hs only

end Served

/-- Under accepted settings with different paths for the probes, a probe of an instance that alone
makes attempts answers exactly if some attempt so far wanted it, whatever the policy of the last one
says; and a request to the offline probe can retract the instance exactly then. -/
theorem handlers_outlive_attempts [DurationReader] (τ : Timer) {raw : RawSettings} {s : Settings}
    (h : Settings.ofRaw raw = .ok s)
    (apart : s.graceful.readiness.path ≠ s.graceful.offline.path) (listen : String) :
    ∃ c fx, Controller.create s { listen } = .ok (c, fx) ∧
      let t₀ : Traffic := { timer := τ, controller := c }
      ∀ (k : InstanceKey) (ms : List Move), (∀ b ∈ attempts t₀ ms, b.1.key = k) →
        Served s k (attempts t₀ ms) (t₀.run ms) := by
  obtain ⟨-, -, proper⟩ := isAbsolute_of_ofRaw h
  obtain ⟨c, fx, hc, hs, -⟩ := create_fresh proper listen
  exact ⟨c, fx, hc, fun k ms only => served_of_attempts h apart hc hs only⟩

/-! ## A rule that comes too late -/

/-- Settings that switch the offline probe on. -/
def offlineSettings : RawSettings :=
  { graceful := { enable := some true, offline := { enable := some true } } }

/-- A rule that switches the offline probe off, as a list of rules whose sections are given by
place. -/
def offlineOffRule : RemoteRule := ⟨.lossless, .array [.array [.null, .array [.bool false]]]⟩

/-- An instance is registered without a rule and retracted, and then it is registered under a rule
that switches the offline probe off. -/
def movesToOffline (i : Instance) : List Move :=
  [.register i, .answer 0 (.register (.rule (.ok none))),
    .answer 0 (.register (.bound (.ok "127.0.0.1:9000"))),
    .answer 0 (.register (.registered (.ok ⟨"ins-1", false⟩))), .deregister i false,
    .answer 1 (.retracted (.ok ())), .register i,
    .answer 2 (.register (.rule (.ok (some offlineOffRule)))),
    .answer 2 (.register (.registered (.ok ⟨"ins-2", false⟩)))]

/-- The offline probe still answers after the second attempt, for the sake of the first one. -/
theorem handlers_outlive_attempts_offline :
    let s := offlineSettings.resolve
    let i : Instance := ⟨"default", "echo", "127.0.0.1", 8080, none, none, none, none⟩
    Settings.ofRaw offlineSettings = .ok s ∧
      s.graceful.readiness.path ≠ s.graceful.offline.path ∧
      ∃ c fx, Controller.create s { listen := "127.0.0.1:0" } = .ok (c, fx) ∧
        let t₀ : Traffic := { timer := .thirtyYears, controller := c }
        let ms := movesToOffline i
        (∀ b ∈ attempts t₀ ms, b.1.key = i.key) ∧
          Served s i.key (attempts t₀ ms) (t₀.run ms) := by
  intro s i
  have accepted : Settings.ofRaw offlineSettings = .ok s :=
    (Settings.ofRaw_eq_ok_iff offlineSettings s).mpr ⟨by decide +kernel, by decide +kernel, rfl⟩
  have apart : s.graceful.readiness.path ≠ s.graceful.offline.path := by decide +kernel
  obtain ⟨c, fx, hc, served⟩ := handlers_outlive_attempts .thirtyYears accepted apart "127.0.0.1:0"
  refine ⟨accepted, apart, c, fx, hc, ?_⟩
  have unshown : s.admin.metricsPath = none := by decide +kernel
  simp only [Controller.create, unshown, Except.ok.injEq, Prod.mk.injEq] at hc
  obtain ⟨rfl, -⟩ := hc
  let t₀ : Traffic :=
    { timer := .thirtyYears
      controller := { settings := s.graceful, server := { listen := "127.0.0.1:0" } } }
  have only : ∀ b ∈ attempts t₀ (movesToOffline i), b.1.key = i.key := by decide +kernel
  exact ⟨only, served i.key (movesToOffline i) only⟩

/-- The second attempt of the instance does not want its offline probe. Yet a request to it retracts
the registered instance. -/
theorem offline_after_disabled :
    let s := offlineSettings.resolve
    let i : Instance := ⟨"default", "echo", "127.0.0.1", 8080, none, none, none, none⟩
    let offline := s.graceful.offline.path
    Settings.ofRaw offlineSettings = .ok s ∧ s.graceful.readiness.path ≠ offline ∧
      s.admin.metricsPath = none ∧
      ∃ c fx, Controller.create s { listen := "127.0.0.1:0" } = .ok (c, fx) ∧
        let t₀ : Traffic := { timer := .thirtyYears, controller := c }
        let t := t₀.run (movesToOffline i)
        (attempts t₀ (movesToOffline i)).map (fun b => (b.1, b.2.offline.enabled)) =
            [(i, true), (i, false)] ∧
          t.controller.server.route? offline = some (.offline i) ∧
          t.controller.state? i.key = some .registered ∧
          (t.asked offline).controller.state? i.key = some .deregistering := by
  intro s i offline
  have accepted : Settings.ofRaw offlineSettings = .ok s :=
    (Settings.ofRaw_eq_ok_iff offlineSettings s).mpr ⟨by decide +kernel, by decide +kernel, rfl⟩
  have unshown : s.admin.metricsPath = none := by decide +kernel
  let c : Controller := { settings := s.graceful, server := { listen := "127.0.0.1:0" } }
  refine ⟨accepted, by decide +kernel, unshown, c, [], by rw [Controller.create, unshown], ?_⟩
  refine ⟨?_, ?_, ?_, ?_⟩
  · decide +kernel
  · decide +kernel
  · decide +kernel
  · decide +kernel

end Traffic

end InstanceLifecycle
