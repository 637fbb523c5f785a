import InstanceLifecycle.Proofs.Policy.Paths
import InstanceLifecycle.Proofs.Traffic.Outline

/-!
# Installing probes

On a fresh probe server the controller installs the page of counters, and the first registration the
probes that its policy wants. One of these handlers takes the place of another one exactly if the
paths clash under the policy.

Results:

* `installs_resume_rule`: what the step after the answer to the lookup installs;
* `replaces_iff`: when one handler replaces another one;
* `paths_apart_iff`: when no rule makes paths clash, and what that means for the handlers.
-/

namespace InstanceLifecycle

/-! ## What is installed -/

/-- The handler that an effect says was installed: its path, and whether it replaced another one. -/
def Effect.installed? : Effect → Option (String × Bool)
  | installed path isReplaced => some (path, isReplaced)
  | _ => none

/-- The handlers that were installed. -/
def Effect.installs (fx : List Effect) : List (String × Bool) := fx.filterMap installed?

namespace Effect

theorem installs_append (fx gx : List Effect) : installs (fx ++ gx) = installs fx ++ installs gx :=
  List.filterMap_append

theorem installs_of_quiet {fx : List Effect} (h : fx.all isQuiet = true) : installs fx = [] := by
  refine filterMap_of_quiet (fun x hx => ?_) h
  cases x <;> first | rfl | simp at hx

theorem mem_installs {fx : List Effect} {path : String} {b : Bool} :
    (path, b) ∈ installs fx ↔ .installed path b ∈ fx := by
  rw [installs, List.mem_filterMap]
  constructor
  · rintro ⟨x, hx, he⟩
    cases x <;> simp [installed?] at he
    obtain ⟨rfl, rfl⟩ := he
    exact hx
  · exact fun h => ⟨_, h, rfl⟩

end Effect

/-- A step that does not go through the probes installs nothing. -/
theorem Step.installs_eq_nil {s : Step RegisterStage} (h : Phase.probes ∉ s.phases) :
    Effect.installs s.effects = [] := by
  rw [Effect.installs, List.filterMap_eq_nil_iff]
  intro x hx
  cases x with
  | installed path b =>
    refine absurd (List.mem_append_left _ (List.mem_filterMap.mpr ⟨_, hx, ?_⟩)) h
    rfl
  | _ => rfl

/-- A step from behind the probes installs nothing. -/
theorem Leg.installs_eq_nil {f : Phase} {kinds : List EventKind} {s : Step RegisterStage}
    (h : Leg f kinds s) (hf : Phase.probes.rank < f.rank) : Effect.installs s.effects = [] := by
  refine Step.installs_eq_nil fun hp => ?_
  exact absurd ((List.pairwise_cons.mp h.sorted).1 _ hp) (Nat.not_le.mpr hf)

theorem ProbeServer.has_insert (s : ProbeServer) (path other : String) (h : Handler) :
    has { s with routes := s.routes.insert path h } other =
      (decide (path = other) || s.has other) := by
  simp only [has, Table.contains, Table.get?_insert]
  by_cases hp : other = path
  · simp [hp]
  · simp [hp, Ne.symm hp]

namespace Register

variable {c : Controller} {i : Instance} {p : Policy}

theorem installs_startProbes (hc : c.state? i.key = some .unregistered) (now : Nat) :
    Effect.installs (startProbes c i p now).effects = [] := by
  unfold startProbes
  split
  · exact (followBinding_outline hc now _).2.installs_eq_nil (by decide)
  · rfl

/-- A handler for a proper path is installed if it is wanted. -/
theorem installs_installing {e : EndpointPolicy} (he : Http.isAbsolute e.path = true) (h : Handler)
    (next : Controller → Step RegisterStage) :
    Effect.installs (c.installing e h refuseProbe next).effects =
      if e.enabled then
        (e.path, c.server.has e.path) :: Effect.installs
          (next { c with server := { c.server with routes := c.server.routes.insert e.path h } }).effects
      else Effect.installs (next c).effects := by
  unfold Controller.installing
  split
  · simp [ProbeServer.register, he, Effect.installs, Effect.installed?]
  · rfl

/-- The handlers that a policy wants on a server. -/
def wanted (s : ProbeServer) (p : Policy) : List (String × Bool) :=
  (if p.readiness.enabled then [(p.readiness.path, s.has p.readiness.path)] else []) ++
    if p.offline.enabled then
      [(p.offline.path,
        (p.readiness.enabled && decide (p.readiness.path = p.offline.path)) || s.has p.offline.path)]
    else []

theorem installs_installProbes (hc : c.state? i.key = some .unregistered)
    (hr : Http.isAbsolute p.readiness.path = true) (ho : Http.isAbsolute p.offline.path = true)
    (now : Nat) : Effect.installs (installProbes c i p now).effects = wanted c.server p := by
  have rest (server : ProbeServer) :
      Effect.installs (startProbes { c with server } i p now).effects = [] :=
    installs_startProbes (c := { c with server }) hc now
  have announced := (announce_outline (p := p) hc now).2.installs_eq_nil (by decide)
  unfold installProbes Policy.probesEnabled wanted
  by_cases hre : p.readiness.enabled = true <;> by_cases hoe : p.offline.enabled = true <;>
    simp [hre, hoe, installs_installing hr, installs_installing ho, ProbeServer.has_insert, rest,
      announced]

/-- The step after the answer to the lookup installs what an enabled policy wants. -/
theorem installs_resume_rule (hc : RegisterStage.lookup.admits (c.state? i.key))
    (r : Except Failure (Option RemoteRule))
    (hr : Http.isAbsolute (c.policyFor r).readiness.path = true)
    (ho : Http.isAbsolute (c.policyFor r).offline.path = true) (now : Nat) :
    Effect.installs (resume c i .lookup (.rule r) now).effects =
      if (c.policyFor r).enabled then wanted c.server (c.policyFor r) else [] := by
  obtain ⟨states, hs, hj⟩ := begin_states hc
  have fresh : states.get? i.key = some .unregistered := by simp [hj]
  simp only [resume, begin, hs, Step.effects_after, Effect.installs_append,
    Effect.installs_of_quiet (policyEffects_quiet r), List.nil_append]
  have moved : Effect.installs (if c.state? i.key = some .deregistered then
      [.moved i.key .deregistered .unregistered] else []) = [] := by
    split <;> rfl
  rw [moved, List.nil_append]
  split
  · exact installs_installProbes
      (c := { c with states, summaries := c.summaries.insert i.key (c.policyFor r).summary })
      fresh hr ho now
  · obtain ⟨-, hp, -⟩ := callRegistrar_outline (c := { c with states }) (p := c.policyFor r) fresh rfl
    exact Step.installs_eq_nil (by rw [hp]; decide)

end Register

/-! ## What is replaced -/

/-- On a server that answers for the counters only, what a policy wants replaces a handler exactly
if the paths clash. -/
theorem wanted_replaces_iff {s : ProbeServer} {counters : Option String}
    (h : ∀ path, s.has path = decide (counters = some path)) (p : Policy) :
    (∃ path, (path, true) ∈ Register.wanted s p) ↔ p.Clashes counters := by
  unfold Register.wanted Policy.Clashes
  cases p.readiness.enabled <;> cases p.offline.enabled <;> simp [h]
  constructor
  · rintro ⟨path, ⟨rfl, hr⟩ | ⟨rfl, he | ho⟩⟩
    · exact .inr (.inl hr)
    · exact .inl he
    · exact .inr (.inr ho)
  · rintro (he | hr | ho)
    · exact ⟨_, .inr ⟨rfl, .inl he⟩⟩
    · exact ⟨_, .inl ⟨rfl, hr⟩⟩
    · exact ⟨_, .inr ⟨rfl, .inr ho⟩⟩

/-- Accepted settings have proper paths. -/
theorem isAbsolute_of_ofRaw [DurationReader] {raw : RawSettings} {s : Settings}
    (h : Settings.ofRaw raw = .ok s) :
    Http.isAbsolute s.graceful.readiness.path = true ∧
      Http.isAbsolute s.graceful.offline.path = true ∧
      ∀ path, s.admin.metricsPath = some path → Http.isAbsolute path = true := by
  have hs := Settings.wellFormed_of_ofRaw h
  exact ⟨hs.graceful.readinessPath.absolute, hs.graceful.offlinePath.absolute,
    fun path hp => (hs.admin.metricsPath path hp).absolute⟩

/-- A controller with proper settings is created on every fresh server, and its server then answers
for the counters only. -/
theorem create_fresh {s : Settings}
    (hm : ∀ path, s.admin.metricsPath = some path → Http.isAbsolute path = true) (listen : String) :
    ∃ c fx, Controller.create s { listen } = .ok (c, fx) ∧ c.settings = s.graceful ∧
      c.states = .empty ∧ (∀ path, c.server.has path = decide (s.admin.metricsPath = some path)) ∧
      ∀ path, (path, true) ∉ Effect.installs fx := by
  unfold Controller.create
  cases h : s.admin.metricsPath with
  | none => exact ⟨_, _, rfl, rfl, rfl, fun _ => rfl, fun path hp => by cases hp⟩
  | some path =>
    simp only [ProbeServer.register, hm path h]
    refine ⟨_, _, rfl, rfl, rfl, fun other => ?_, fun other hp => ?_⟩
    · refine (ProbeServer.has_insert { listen } path other .counters).trans ?_
      simp [ProbeServer.has, Table.contains]
    · simp [Effect.installs, Effect.installed?, ProbeServer.has, Table.contains] at hp

/-- Whether the first registration of an instance replaces a handler by another one, if its lookup
is answered in this way, or the page of counters has done so before. -/
def Replaces (c : Controller) (fx : List Effect) (i : Instance)
    (r : Except Failure (Option RemoteRule)) (now : Nat) : Prop :=
  ∃ path, .installed path true ∈ fx ++ (Register.resume c i .lookup (.rule r) now).effects

/-- On a fresh server the first registration replaces a handler by another one exactly if the paths
clash under its policy. -/
theorem replaces_iff {s : Settings} {c : Controller} {fx : List Effect}
    (hr : Http.isAbsolute s.graceful.readiness.path = true)
    (ho : Http.isAbsolute s.graceful.offline.path = true) (hsettings : c.settings = s.graceful)
    (hstates : c.states = .empty)
    (hserver : ∀ path, c.server.has path = decide (s.admin.metricsPath = some path))
    (hfx : ∀ path, (path, true) ∉ Effect.installs fx) (i : Instance)
    (r : Except Failure (Option RemoteRule)) (now : Nat) :
    Replaces c fx i r now ↔ (c.policyFor r).Clashes s.admin.metricsPath := by
  obtain ⟨remote, hp⟩ := c.exists_policyFor r
  rw [hsettings] at hp
  have fresh : RegisterStage.lookup.admits (c.state? i.key) := by
    left
    rw [Controller.state?, hstates]
    rfl
  have key := Register.installs_resume_rule fresh r (by rw [hp, s.graceful.readiness_path_resolve, hr])
    (by rw [hp, s.graceful.offline_path_resolve, ho]) now
  rw [← wanted_replaces_iff hserver (c.policyFor r)]
  unfold Replaces
  simp only [List.mem_append, ← Effect.mem_installs, hfx, false_or, key]
  by_cases on : (c.policyFor r).enabled = true
  · rw [if_pos on]
  · have off : s.graceful.enabled = false := by
      rw [hp, s.graceful.enabled_resolve] at on
      simpa using on
    obtain ⟨hre, hoe⟩ := s.graceful.probes_of_disabled off remote
    rw [if_neg on, Register.wanted, hp, hre, hoe]
    simp

/-- Accepted settings have policies without clashing paths where no rule can be used. Under every
rule they have them, and first registrations that replace no handler, exactly if they are switched
off or all paths are different, also those of probes that are switched off locally. -/
theorem paths_apart_iff [DurationReader] {raw : RawSettings} {s : Settings}
    (h : Settings.ofRaw raw = .ok s) :
    (∀ remote, GracefulSettings.usableRule? remote = none →
        ¬(s.graceful.resolve remote).Clashes s.admin.metricsPath) ∧
      ((∀ remote, ¬(s.graceful.resolve remote).Clashes s.admin.metricsPath) ↔ s.KeepsPathsApart) ∧
      ∀ listen, ∃ c fx, Controller.create s { listen } = .ok (c, fx) ∧
        (∀ i r now, Replaces c fx i r now ↔ (c.policyFor r).Clashes s.admin.metricsPath) ∧
        ((∀ i r now, ¬Replaces c fx i r now) ↔ s.KeepsPathsApart) := by
  refine ⟨fun remote unusable => ?_, not_clashes_iff s, fun listen => ?_⟩
  · rw [s.graceful.resolve_unusable unusable]
    exact not_clashes_localPolicy h
  obtain ⟨hr, ho, hm⟩ := isAbsolute_of_ofRaw h
  obtain ⟨c, fx, hc, hsettings, hstates, hserver, hfx⟩ := create_fresh hm listen
  have replaces := replaces_iff hr ho hsettings hstates hserver hfx
  refine ⟨c, fx, hc, replaces, ?_⟩
  rw [← not_clashes_iff]
  constructor
  · intro clear remote clash
    refine clear ⟨"", "", "", 0, none, none, none, none⟩ (.ok remote) 0 ?_
    rw [replaces, Controller.policyFor, hsettings]
    exact clash
  · intro clear i r now hreplaces
    rw [replaces] at hreplaces
    cases r with
    | ok remote => exact clear remote (by rwa [Controller.policyFor, hsettings] at hreplaces)
    | error f => exact clear none (by rwa [Controller.policyFor, hsettings] at hreplaces)

/-- The default paths keep apart. -/
theorem paths_apart_default :
    let raw : RawSettings :=
      { graceful :=
          { enable := some true
            readiness := { enable := some true }
            offline := { enable := some true } } }
    let s := raw.resolve
    Settings.ofRaw raw = .ok s ∧ s.KeepsPathsApart ∧
      (∀ remote, GracefulSettings.usableRule? remote = none →
        ¬(s.graceful.resolve remote).Clashes s.admin.metricsPath) ∧
      ((∀ remote, ¬(s.graceful.resolve remote).Clashes s.admin.metricsPath) ↔ s.KeepsPathsApart) ∧
      ∀ listen, ∃ c fx, Controller.create s { listen } = .ok (c, fx) ∧
        (∀ i r now, Replaces c fx i r now ↔ (c.policyFor r).Clashes s.admin.metricsPath) ∧
        ((∀ i r now, ¬Replaces c fx i r now) ↔ s.KeepsPathsApart) := by
  intro raw s
  have accepted : Settings.ofRaw raw = .ok s :=
    (Settings.ofRaw_eq_ok_iff raw s).mpr ⟨by decide +kernel, by decide +kernel, rfl⟩
  have apart : s.KeepsPathsApart := .inr ⟨by decide +kernel, by decide +kernel, by decide +kernel⟩
  exact ⟨accepted, apart, paths_apart_iff accepted⟩

/-- Settings with one path for both probes are accepted while the probes are switched off locally. A
rule then switches both on, and the handler of the offline probe replaces that of the readiness
probe. -/
theorem accepted_paths_clash :
    let raw : RawSettings :=
      { graceful :=
          { enable := some true
            readiness := { path := some "/probe" }
            offline := { path := some "/probe" } } }
    let s := raw.resolve
    let p := s.graceful.resolve (some enablingRule)
    Settings.ofRaw raw = .ok s ∧ p.readiness = ⟨true, "/probe"⟩ ∧ p.offline = ⟨true, "/probe"⟩ ∧
      ∃ c fx, Controller.create s { listen := "127.0.0.1:0" } = .ok (c, fx) ∧
        Replaces c fx ⟨"default", "echo", "127.0.0.1", 8080, none, none, none, none⟩
          (.ok (some enablingRule)) 0 := by
  intro raw s p
  have accepted : Settings.ofRaw raw = .ok s :=
    (Settings.ofRaw_eq_ok_iff raw s).mpr ⟨by decide +kernel, by decide +kernel, rfl⟩
  obtain ⟨hre, hoe⟩ := resolve_enablingRule (g := s.graceful) rfl
  have readiness : s.graceful.readiness.path = "/probe" := by decide +kernel
  have offline : s.graceful.offline.path = "/probe" := by decide +kernel
  rw [readiness] at hre
  rw [offline] at hoe
  refine ⟨accepted, hre, hoe, ?_⟩
  obtain ⟨hr, ho, hm⟩ := isAbsolute_of_ofRaw accepted
  obtain ⟨c, fx, hc, hsettings, hstates, hserver, hfx⟩ := create_fresh hm "127.0.0.1:0"
  refine ⟨c, fx, hc, ?_⟩
  rw [replaces_iff hr ho hsettings hstates hserver hfx, Controller.policyFor, hsettings]
  exact .inl ⟨by rw [hre], by rw [hoe], by rw [hre, hoe]⟩

end InstanceLifecycle
