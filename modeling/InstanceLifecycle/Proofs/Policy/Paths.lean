import InstanceLifecycle.Policy.Resolve
import InstanceLifecycle.Proofs.Settings.Acceptance

/-!
# The paths of a policy

The probe server answers for the readiness probe, the offline probe and the page of counters. A rule
changes none of their paths, but it switches each probe on or off by itself. So settings keep the
paths apart under every rule only if the paths of both probes differ from each other and from that
of the counters, even where a probe is switched off locally. Settings are accepted with less.

Results:

* `readiness_path_resolve`, `offline_path_resolve`: the paths of a policy are local;
* `resolve_enablingRule`: one rule switches both probes on;
* `not_clashes_iff`: when no rule makes paths clash;
* `not_clashes_localPolicy`: where settings are accepted, the local paths do not clash.
-/

namespace InstanceLifecycle

/-! ## Clashes -/

/-- Whether two of the probes and the page of counters are answered at one path under a policy. -/
def Policy.Clashes (p : Policy) (counters : Option String) : Prop :=
  (p.readiness.enabled = true ∧ p.offline.enabled = true ∧ p.readiness.path = p.offline.path) ∨
    (p.readiness.enabled = true ∧ counters = some p.readiness.path) ∨
    (p.offline.enabled = true ∧ counters = some p.offline.path)

instance (p : Policy) (counters : Option String) : Decidable (p.Clashes counters) :=
  inferInstanceAs (Decidable (_ ∨ _ ∨ _))

/-- Whether settings that are switched on have different paths for the probes and the counters. -/
def Settings.KeepsPathsApart (s : Settings) : Prop :=
  s.graceful.enabled = false ∨
    (s.graceful.readiness.path ≠ s.graceful.offline.path ∧
      s.admin.metricsPath ≠ some s.graceful.readiness.path ∧
      s.admin.metricsPath ≠ some s.graceful.offline.path)

/-! ## Paths under a rule -/

namespace GracefulSettings

variable (g : GracefulSettings)

/-- What a rule leaves as it is in both of its results, it leaves as it is. -/
theorem resolve_induction {P : Policy → Prop} (base : P g.localPolicy)
    (merged : g.enabled = true → ∀ r, P (g.merge r)) (remote : Option RemoteRule) :
    P (g.resolve remote) := by
  unfold resolve
  split
  · next on =>
    cases usableRule? remote with
    | none => exact base
    | some r => exact merged on r
  · exact base

theorem readiness_path_localPolicy : g.localPolicy.readiness.path = g.readiness.path := by
  unfold localPolicy
  split <;> rfl

theorem offline_path_localPolicy : g.localPolicy.offline.path = g.offline.path := by
  unfold localPolicy
  split <;> rfl

/-- The path of the readiness probe is local. -/
theorem readiness_path_resolve (remote : Option RemoteRule) :
    (g.resolve remote).readiness.path = g.readiness.path := by
  refine resolve_induction g (P := fun p => p.readiness.path = g.readiness.path)
    g.readiness_path_localPolicy (fun _ r => ?_) remote
  simp only [merge]
  cases (r.online.getD {}).readiness with
  | none => exact g.readiness_path_localPolicy
  | some b => rfl

/-- The path of the offline probe is local. -/
theorem offline_path_resolve (remote : Option RemoteRule) :
    (g.resolve remote).offline.path = g.offline.path := by
  refine resolve_induction g (P := fun p => p.offline.path = g.offline.path)
    g.offline_path_localPolicy (fun _ r => ?_) remote
  simp only [merge]
  cases r.offline with
  | none => exact g.offline_path_localPolicy
  | some b => rfl

/-- A policy is switched on exactly if the settings are. -/
theorem enabled_resolve (remote : Option RemoteRule) : (g.resolve remote).enabled = g.enabled := by
  refine resolve_induction g (P := fun p => p.enabled = g.enabled) ?_ (fun on r => ?_) remote
  · unfold localPolicy
    split <;> simp_all
  · simp [merge, on]

/-- Settings that are switched off have no probes. -/
theorem probes_of_disabled (off : g.enabled = false) (remote : Option RemoteRule) :
    (g.resolve remote).readiness.enabled = false ∧ (g.resolve remote).offline.enabled = false := by
  simp [resolve, localPolicy, off]

end GracefulSettings

/-! ## A rule that switches both probes on -/

/-- A rule that switches both probes on. -/
def enablingRule : RemoteRule :=
  ⟨.lossless, .object
    [("losslessOnline", .object [("readiness", .object [("enable", .bool true)])]),
      ("losslessOffline", .object [("enable", .bool true)])]⟩

theorem online_enablingRule :
    RuleDocument.online (.object [("readiness", .object [("enable", .bool true)])]) =
      .ok { readiness := some true } := by
  simp [RuleDocument.online, RuleDocument.fieldOr, RuleDocument.field?, Json.Value.member?,
    RuleDocument.nullable, RuleDocument.toggle_enable, RuleDocument.inOrder_object,
    RuleDocument.outcome, Except.map, bind, Except.bind]

theorem usableRule?_enablingRule :
    GracefulSettings.usableRule? (some enablingRule) =
      some { online := some { readiness := some true }, offline := some true } := by
  simp [GracefulSettings.usableRule?, enablingRule, Rule.ofDocument, RuleDocument.rule,
    RuleDocument.fieldOr, RuleDocument.field?, Json.Value.member?, RuleDocument.nullable,
    RuleDocument.toggle_enable, online_enablingRule, RuleDocument.inOrder_object,
    RuleDocument.outcome, Except.map, bind, Except.bind, Except.toOption]

/-- Settings that are switched on have both probes under one rule. -/
theorem resolve_enablingRule {g : GracefulSettings} (on : g.enabled = true) :
    (g.resolve (some enablingRule)).readiness = ⟨true, g.readiness.path⟩ ∧
      (g.resolve (some enablingRule)).offline = ⟨true, g.offline.path⟩ := by
  rw [GracefulSettings.resolve, if_pos on, usableRule?_enablingRule]
  exact ⟨rfl, rfl⟩

/-! ## When paths clash -/

/-- No rule makes paths clash exactly if the settings keep all of them apart, whether or not the
probes are switched on locally. -/
theorem not_clashes_iff (s : Settings) :
    (∀ remote, ¬(s.graceful.resolve remote).Clashes s.admin.metricsPath) ↔ s.KeepsPathsApart := by
  constructor
  · intro h
    by_cases on : s.graceful.enabled = true
    · have clear := h (some enablingRule)
      obtain ⟨hr, ho⟩ := resolve_enablingRule on
      rw [Policy.Clashes, hr, ho] at clear
      refine .inr ⟨fun he => clear (.inl ⟨rfl, rfl, he⟩), fun he => ?_, fun he => ?_⟩
      · exact clear (.inr (.inl ⟨rfl, he⟩))
      · exact clear (.inr (.inr ⟨rfl, he⟩))
    · exact .inl (by simpa using on)
  · rintro (off | ⟨hro, hr, ho⟩) remote clash
    · obtain ⟨hr, ho⟩ := s.graceful.probes_of_disabled off remote
      simp [Policy.Clashes, hr, ho] at clash
    · rw [Policy.Clashes, s.graceful.readiness_path_resolve, s.graceful.offline_path_resolve] at clash
      rcases clash with ⟨-, -, he⟩ | ⟨-, he⟩ | ⟨-, he⟩
      · exact hro he
      · exact hr he
      · exact ho he

/-- Where settings are accepted, the local paths do not clash. -/
theorem not_clashes_localPolicy [DurationReader] {raw : RawSettings} {s : Settings}
    (h : Settings.ofRaw raw = .ok s) :
    ¬s.graceful.localPolicy.Clashes s.admin.metricsPath := by
  have hs := Settings.wellFormed_of_ofRaw h
  unfold GracefulSettings.localPolicy
  split
  · rintro (⟨hr, ho, he⟩ | ⟨hr, he⟩ | ⟨ho, he⟩)
    · exact hs.probesApart hr ho he
    · exact hs.metricsApart _ (by simp) hr he
    · exact hs.metricsApart _ (by simp) ho he
  · simp [Policy.Clashes]

/-- A rule that cannot be used leaves everything local. -/
theorem GracefulSettings.resolve_unusable (g : GracefulSettings) {remote : Option RemoteRule}
    (h : usableRule? remote = none) : g.resolve remote = g.localPolicy := by
  rw [resolve, h]
  split <;> rfl

end InstanceLifecycle
