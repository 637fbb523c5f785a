import InstanceLifecycle.Proofs.Settings.Rules

/-!
# Settings that are given again

Accepted settings can be given again: each value in its own words, a duration in any words for it,
and what is not set left out. They are accepted then, and every value but one is resolved to itself.
The path of the report is first trimmed and then stripped of the slashes before it, so that blanks
behind these slashes are kept; given again, the path loses them.

Results:

* `Settings.resolve_presented`: what well-formed settings are resolved to when they are given again;
* `Settings.violations_presented`: well-formed settings that are given again break no rule;
* `Settings.spelledBy_given`: the durations of accepted settings can be put into words;
* `reportPath_presented_iff`: which paths of a report are resolved to themselves;
* `Settings.presented_iff`: which accepted settings are resolved to themselves.
-/

namespace InstanceLifecycle

open Text

/-! ## Giving settings -/

/-- Whether the words stand for the durations of the settings. -/
def Settings.SpelledBy (s : Settings) (words : DurationField → String) : Prop :=
  ∀ f, Duration.read (trim (words f)) = .ok (f.value s)

/-- Delays as they are given again. -/
def DelaySettings.presented (d : DelaySettings) (interval : String) : RawDelay :=
  ⟨some d.enabled, some d.kind.name, some interval⟩

/-- Health checks as they are given again. -/
def HealthCheckSettings.presented (h : HealthCheckSettings) (interval : String) : RawHealthCheck :=
  ⟨some interval, some h.scheme.name, some h.method, some h.path, some h.maxRetry⟩

/-- A probe as it is given again. -/
def EndpointSettings.presented (e : EndpointSettings) : RawEndpoint := ⟨some e.enabled, some e.path⟩

/-- Warm-up as it is given again. -/
def WarmupSettings.presented (w : WarmupSettings) (interval : String) : RawWarmup :=
  ⟨some w.enabled, some interval, some w.curvature,
    ⟨some w.overload.enabled, some w.overload.threshold⟩⟩

/-- Graceful starts and stops as they are given again. -/
def GracefulSettings.presented (g : GracefulSettings) (words : DurationField → String) :
    RawGraceful where
  enable := some g.enabled
  delay := g.delay.presented (words .delay)
  healthCheck := g.healthCheck.presented (words .healthCheck)
  readiness := g.readiness.presented
  offline := g.offline.presented
  warmup := g.warmup.presented (words .warmup)

/-- The probe server as it is given again. -/
def AdminSettings.presented (a : AdminSettings) : RawAdmin :=
  ⟨some a.host, some a.port, a.metricsPath⟩

/-- The reporter as it is given again. -/
def ReporterSettings.presented (r : ReporterSettings) (backoff : String) : RawReporter where
  queueSize := some r.queueSize
  address := r.address
  reportPath := some r.reportPath
  discovery := r.discovery.map fun k => ⟨some k.namespaceName, k.service⟩
  retryBackoff := some backoff

/-- Settings as they are given again. -/
def Settings.presented (s : Settings) (words : DurationField → String) : RawSettings where
  graceful := s.graceful.presented words
  admin := s.admin.presented
  reporter := s.reporter.presented (words .backoff)
  adjustWeights := some s.adjustWeights
  client := ⟨some s.client.id, some s.client.ip⟩

/-! ## Texts that stay -/

theorem trimmed?_of_isTrimmed {s : String} (h : IsTrimmed s) : trimmed? (some s) = some s := by
  simp [trimmed?, h.trimmed, h.nonempty]

/-- A path that starts at the root is not empty. -/
theorem IsProperPath.isTrimmed {path : String} (h : IsProperPath path) : IsTrimmed path := by
  refine ⟨h.trimmed, ?_⟩
  rintro rfl
  exact absurd h.absolute (by decide)

theorem IsProperPath.pathOr_eq {path : String} (h : IsProperPath path) (default : String) :
    pathOr default (some path) = path := by
  rw [pathOr, trimmed?_of_isTrimmed h.isTrimmed, Option.getD_some]

theorem IsProperPath.pathViolations_eq {path : String} (h : IsProperPath path) (field : String) :
    pathViolations field path = [] :=
  if_pos h.absolute

/-- The characters of a method are printed ones. -/
theorem toNat_of_isTokenChar {c : Char} (h : Http.isTokenChar c = true) :
    33 ≤ c.toNat ∧ c.toNat ≤ 126 := by
  rcases Bool.or_eq_true_iff.mp h with word | mark
  · have shown : ((decide (c.val ≥ 65 ∧ c.val ≤ 90) || (c.val ≥ 97 && c.val ≤ 122)) ||
        (c.val ≥ 48 && c.val ≤ 57)) = true := word
    simp only [Bool.or_eq_true, Bool.and_eq_true, decide_eq_true_eq, ge_iff_le,
      UInt32.le_iff_toNat_le] at shown
    change (65 ≤ c.toNat ∧ c.toNat ≤ 90 ∨ 97 ≤ c.toNat ∧ c.toNat ≤ 122) ∨
      48 ≤ c.toNat ∧ c.toNat ≤ 57 at shown
    omega
  · have all : "!#$%&'*+-.^_`|~".toList.all (fun d => 33 ≤ d.toNat && d.toNat ≤ 126) = true := by
      decide +kernel
    simpa using List.all_eq_true.mp all c (List.contains_iff_mem.mp mark)

theorem isBlank_of_isTokenChar {c : Char} (h : Http.isTokenChar c = true) : isBlank c = false := by
  obtain ⟨low, high⟩ := toNat_of_isTokenChar h
  unfold isBlank
  simp only [Bool.or_eq_false_iff, Bool.and_eq_false_iff, decide_eq_false_iff_not,
    beq_eq_false_iff_ne]
  omega

/-- A method is not trimmed, as no character of it is a blank. -/
theorem isTrimmed_of_isMethod {m : String} (h : Http.isMethod m = true) : IsTrimmed m := by
  simp only [Http.isMethod, Bool.and_eq_true, Bool.not_eq_true', List.all_eq_true] at h
  obtain ⟨filled, tokens⟩ := h
  have shown : ∀ c ∈ m.toList, isBlank c = false := fun c hc => isBlank_of_isTokenChar (tokens c hc)
  refine ⟨?_, by simpa using filled⟩
  rw [trim, trimChars_eq_self (fun c hc => shown c (List.mem_of_mem_head? hc))
    (fun c hc => shown c (List.mem_of_mem_getLast? hc)), String.ofList_toList]

/-! ## Durations that stay -/

section

variable {text : String} {d : Duration}

/-- Words for a duration break no rule. -/
theorem durationViolations_of_read (h : Duration.read (trim text) = .ok d) (field : String) :
    durationViolations field (some text) = [] := by
  have filled : isBlankText text = false := isBlankText_of_read (by simp [h])
  simp [durationViolations, filled, h]

/-- A positive duration breaks no rule. -/
theorem zeroViolations_of_positive {needed : Bool} (h : needed = true → 0 < d.nanos)
    (field : String) : zeroViolations field needed d = [] := by
  refine if_neg fun zero => ?_
  simp only [Bool.and_eq_true, Duration.isZero, beq_iff_eq] at zero
  have := h zero.1
  omega

end

/-! ## Sections that stay -/

section

variable {text : String}

theorem DelaySettings.resolve_presented {d : DelaySettings}
    (h : Duration.read (trim text) = .ok d.interval) : (d.presented text).resolve = d := by
  simp [presented, RawDelay.resolve, RawDelay.kind, DelayKind.ofText?_name, durationOr_of_read h]

theorem DelaySettings.violations_presented {d : DelaySettings}
    (h : Duration.read (trim text) = .ok d.interval)
    (positive : d.enabled = true → d.kind = .byTime → 0 < d.interval.nanos) :
    (d.presented text).violations = [] := by
  have needed : (d.enabled && d.kind == .byTime) = true → 0 < d.interval.nanos := by
    simpa using positive
  rw [RawDelay.violations, resolve_presented h, zeroViolations_of_positive needed]
  simp [presented, RawDelay.strategyViolations, DelayKind.ofText?_name,
    durationViolations_of_read h]

/-- The name of a scheme is not trimmed. -/
theorem isTrimmed_name (s : Http.Scheme) : IsTrimmed s.name := by
  cases s with
  | plain => exact ⟨by decide +kernel, by decide⟩
  | secure => exact ⟨by decide +kernel, by decide⟩

section

variable {h : HealthCheckSettings} (read : Duration.read (trim text) = .ok h.interval)
  (isMethod : Http.isMethod h.method = true) (isUpper : upper h.method = h.method)
  (path : IsProperPath h.path)

include read isMethod isUpper path

theorem HealthCheckSettings.resolve_presented : (h.presented text).resolve = h := by
  simp [presented, RawHealthCheck.resolve, durationOr_of_read read,
    trimmed?_of_isTrimmed (isTrimmed_name h.scheme), Http.Scheme.ofText?_name,
    trimmed?_of_isTrimmed (isTrimmed_of_isMethod isMethod), Option.filter_some, isMethod, isUpper,
    path.pathOr_eq]

theorem HealthCheckSettings.violations_presented {needed : Bool}
    (checks : needed = true → 0 < h.interval.nanos ∧ 1 ≤ h.maxRetry) :
    (h.presented text).violations needed = [] := by
  have zero := zeroViolations_of_positive (fun on => (checks on).1)
    "lossless.health_check.interval"
  have retries : ¬(needed = true ∧ h.maxRetry = 0) := fun ⟨on, zero⟩ => by
    have := (checks on).2
    omega
  rw [RawHealthCheck.violations, resolve_presented read isMethod isUpper path, zero,
    path.pathViolations_eq]
  simp [presented, RawHealthCheck.protocolViolations, RawHealthCheck.methodViolations,
    durationViolations_of_read read, trimmed?_of_isTrimmed (isTrimmed_name h.scheme),
    Http.Scheme.ofText?_name, trimmed?_of_isTrimmed (isTrimmed_of_isMethod isMethod), isMethod,
    isUpper, retries]

end

theorem EndpointSettings.resolve_presented {e : EndpointSettings} (path : IsProperPath e.path)
    (default : String) : e.presented.resolve default = e := by
  simp [presented, RawEndpoint.resolve, path.pathOr_eq]

theorem WarmupSettings.resolve_presented {w : WarmupSettings}
    (h : Duration.read (trim text) = .ok w.interval) (curvature : 1 ≤ w.curvature) :
    (w.presented text).resolve = w := by
  have kept : w.curvature ≠ 0 := by omega
  simp [presented, RawWarmup.resolve, durationOr_of_read h, Option.filter_some, kept]

theorem WarmupSettings.violations_presented {w : WarmupSettings}
    (h : Duration.read (trim text) = .ok w.interval) (wf : w.WellFormed) :
    (w.presented text).violations = [] := by
  have zero := zeroViolations_of_positive wf.interval "lossless.warmup.interval"
  have threshold := Nat.not_lt.mpr wf.threshold
  rw [RawWarmup.violations, resolve_presented h wf.curvature, zero]
  simp [presented, durationViolations_of_read h, threshold]

theorem AdminSettings.resolve_presented {a : AdminSettings} (wf : a.WellFormed) :
    a.presented.resolve = a := by
  have metrics : trimmed? a.metricsPath = a.metricsPath := by
    cases h : a.metricsPath with
    | none => rfl
    | some path => exact trimmed?_of_isTrimmed (wf.metricsPath path h).isTrimmed
  simp [presented, RawAdmin.resolve, trimmed?_of_isTrimmed wf.host, metrics]

theorem AdminSettings.violations_presented {a : AdminSettings} (wf : a.WellFormed) :
    a.presented.violations = [] := by
  rw [RawAdmin.violations, resolve_presented wf, List.flatMap_eq_nil_iff]
  intro path hp
  exact (wf.metricsPath path (Option.mem_toList.mp hp)).pathViolations_eq _

end

/-! ## The path of the report -/

/-- What every path of a report is: it is not empty, and it neither starts with a slash nor ends
with a blank. -/
structure IsReportPath (path : String) : Prop where
  nonempty : path ≠ ""
  relative : path.toList.head? ≠ some '/'
  ending : ∀ c ∈ path.toList.getLast?, isBlank c = false

theorem isReportPath_resolve (raw : RawReporter) : IsReportPath raw.resolve.reportPath := by
  show IsReportPath (raw.reportPath?.getD "lossless/events")
  cases h : raw.reportPath? with
  | none =>
    refine ⟨by decide, by decide +kernel, fun c hc => ?_⟩
    have last : "lossless/events".toList.getLast? = some 's' := by decide +kernel
    obtain rfl : 's' = c := Option.some.inj (last.symm.trans hc)
    rfl
  | some path =>
    obtain ⟨nonempty, relative⟩ := RawReporter.relative_of_reportPath? h
    refine ⟨nonempty, relative, fun c hc => ?_⟩
    obtain ⟨given, -⟩ := Option.filter_eq_some_iff.mp h
    obtain ⟨r, -, rfl⟩ := Option.map_eq_some_iff.mp given
    rw [Option.getD_some, String.toList_ofList] at hc
    have filled : (trimChars r.toList).dropWhile (· == '/') ≠ [] := fun empty => by
      rw [empty] at hc
      cases hc
    rw [getLast?_dropWhile filled] at hc
    exact getLast?_trimChars r.toList c hc

/-- A blank in front is trimmed away. -/
theorem length_trimChars_lt {c : Char} (h : isBlank c = true) (r : List Char) :
    (trimChars (c :: r)).length < (c :: r).length := by
  have shorter : ((r.dropWhile isBlank).reverse.dropWhile isBlank).length ≤ r.length :=
    calc ((r.dropWhile isBlank).reverse.dropWhile isBlank).length
        ≤ (r.dropWhile isBlank).reverse.length := (List.dropWhile_sublist _).length_le
      _ = (r.dropWhile isBlank).length := List.length_reverse
      _ ≤ r.length := (List.dropWhile_sublist _).length_le
  simp only [trimChars, List.dropWhile_cons, h, if_true, List.length_reverse, List.length_cons]
  omega

/-- A path of a report is resolved to itself exactly if it does not start with a blank. -/
theorem reportPath_presented_iff {path : String} (h : IsReportPath path) (raw : RawReporter) :
    { raw with reportPath := some path }.resolve.reportPath = path ↔
      ∀ c ∈ path.toList.head?, isBlank c = false := by
  simp only [RawReporter.resolve, RawReporter.reportPath?, Option.map_some, Option.filter_some]
  constructor
  · intro same c hc
    cases blank : isBlank c with
    | false => rfl
    | true =>
      obtain ⟨r, hr⟩ := List.head?_eq_some_iff.mp hc
      have shorter := length_trimChars_lt blank r
      rw [← hr] at shorter
      split at same
      · -- What is left is too short to be the path.
        have whole := congrArg String.toList same
        rw [Option.getD_some, String.toList_ofList] at whole
        have := (List.dropWhile_sublist (· == '/') (l := trimChars path.toList)).length_le
        rw [whole] at this
        omega
      · -- Nothing is left, and the default path does not start with a blank.
        rw [Option.getD_none] at same
        have first : "lossless/events".toList.head? = some 'l' := by decide +kernel
        rw [same, hc] at first
        obtain rfl := Option.some.inj first
        cases blank
  · intro shown
    have kept : (trimChars path.toList).dropWhile (· == '/') = path.toList := by
      rw [trimChars_eq_self shown h.ending]
      refine dropWhile_eq_self fun c hc => beq_eq_false_iff_ne.mpr ?_
      rintro rfl
      exact h.relative hc
    rw [kept, String.ofList_toList, if_pos (by simpa using h.nonempty), Option.getD_some]

/-! ## The reporter -/

namespace ReporterSettings

variable {r : ReporterSettings} {text : String}

/-- What the reporter is resolved to when it is given again. -/
theorem resolve_presented (wf : r.WellFormed) (h : Duration.read (trim text) = .ok r.retryBackoff) :
    (r.presented text).resolve =
      { r with reportPath := (r.presented text).resolve.reportPath } := by
  have address : trimmed? r.address = r.address := by
    cases ha : r.address with
    | none => rfl
    | some a => exact trimmed?_of_isTrimmed (wf.address a ha).1
  have discovery : (r.presented text).discovery.bind RawDiscovery.resolve = r.discovery := by
    cases hd : r.discovery with
    | none => simp [presented, hd]
    | some k =>
      obtain ⟨service, named⟩ := wf.discovery k hd
      have filled : isBlankText k.service = false := by
        cases blank : isBlankText k.service with
        | false => rfl
        | true =>
          exact absurd (service.trimmed.symm.trans (trim_eq_empty_iff.mpr blank)) service.nonempty
      simp [presented, hd, RawDiscovery.resolve, filled, named, Option.filter_some,
        service.trimmed]
  simp only [RawReporter.resolve, discovery]
  simp [presented, address, durationOr_of_read h]

theorem violations_presented (wf : r.WellFormed)
    (h : Duration.read (trim text) = .ok r.retryBackoff) : (r.presented text).violations = [] := by
  have resolved := resolve_presented wf h
  have queue : r.queueSize ≠ 0 := by
    have := wf.queueSize
    omega
  have address : (r.presented text).addressViolations = [] := by
    rw [RawReporter.addressViolations, resolved]
    cases ha : r.address with
    | none => simp
    | some a => simp [(wf.address a ha).2]
  rw [RawReporter.violations, address, resolved]
  cases hd : r.discovery <;> simp [presented, hd, queue, durationViolations_of_read h]

end ReporterSettings

/-! ## Graceful starts and stops -/

namespace GracefulSettings

variable {g : GracefulSettings} {t : DurationField → String} (wf : g.WellFormed)
  (delay : Duration.read (trim (t .delay)) = .ok g.delay.interval)
  (health : Duration.read (trim (t .healthCheck)) = .ok g.healthCheck.interval)
  (warmup : Duration.read (trim (t .warmup)) = .ok g.warmup.interval)

include wf delay health warmup

theorem resolve_presented : (g.presented t).resolve = g := by
  simp only [RawGraceful.resolve, presented, Option.getD_some]
  rw [DelaySettings.resolve_presented delay,
    HealthCheckSettings.resolve_presented health wf.isMethod wf.isUpper wf.healthPath,
    EndpointSettings.resolve_presented wf.readinessPath,
    EndpointSettings.resolve_presented wf.offlinePath,
    WarmupSettings.resolve_presented warmup wf.warmup.curvature]

theorem violations_presented : (g.presented t).violations = [] := by
  have checks : (g.presented t).needsHealthCheck = true →
      0 < g.healthCheck.interval.nanos ∧ 1 ≤ g.healthCheck.maxRetry := by
    simp only [RawGraceful.needsHealthCheck, presented, DelaySettings.resolve_presented delay,
      Bool.and_eq_true, beq_iff_eq]
    exact fun needed => wf.byHealthCheck needed.1 needed.2
  have healthCheck :=
    HealthCheckSettings.violations_presented health wf.isMethod wf.isUpper wf.healthPath checks
  simp only [RawGraceful.violations, resolve_presented wf delay health warmup,
    wf.readinessPath.pathViolations_eq, wf.offlinePath.pathViolations_eq]
  simp only [presented, DelaySettings.violations_presented delay wf.byTime,
    WarmupSettings.violations_presented warmup wf.warmup]
  simpa [presented] using healthCheck

end GracefulSettings

/-! ## All settings -/

namespace Settings

variable {s : Settings} {t : DurationField → String}

/-- What is switched on keeps to paths of its own, so no paths conflict. -/
theorem WellFormed.pathConflicts_eq (wf : s.WellFormed) : s.pathConflicts = [] := by
  have shared : ¬(s.graceful.offline.enabled = true ∧ s.graceful.readiness.enabled = true ∧
      s.graceful.offline.path = s.graceful.readiness.path) :=
    fun ⟨offline, readiness, same⟩ => wf.probesApart readiness offline same.symm
  have metrics (e : EndpointSettings) (he : e ∈ [s.graceful.readiness, s.graceful.offline]) (m : String)
      (hm : s.admin.metricsPath = some m) : ¬(e.enabled = true ∧ e.path = m) :=
    fun ⟨on, same⟩ => wf.metricsApart e he on (by rw [hm, same])
  have readiness := metrics s.graceful.readiness (by simp)
  have offline := metrics s.graceful.offline (by simp)
  rw [pathConflicts]
  cases hm : s.admin.metricsPath with
  | none => simpa using shared
  | some m =>
    simp only [hm, Option.some.injEq, forall_eq'] at readiness offline
    simpa [readiness, offline] using shared

/-- What well-formed settings are resolved to when they are given again: all but the path of the
report is as it was. -/
theorem resolve_presented (wf : s.WellFormed) (words : s.SpelledBy t) :
    (s.presented t).resolve =
      { s with reporter := { s.reporter with
          reportPath := (s.reporter.presented (t .backoff)).resolve.reportPath } } := by
  simp only [RawSettings.resolve, presented, Option.getD_some]
  rw [GracefulSettings.resolve_presented wf.graceful (words .delay) (words .healthCheck)
      (words .warmup),
    AdminSettings.resolve_presented wf.admin]
  congr 1
  exact ReporterSettings.resolve_presented wf.reporter (words .backoff)

/-- Well-formed settings that are given again break no rule. -/
theorem violations_presented (wf : s.WellFormed) (words : s.SpelledBy t) :
    (s.presented t).violations = [] := by
  have conflicts : (s.presented t).resolve.pathConflicts = [] := by
    have apart := wf.pathConflicts_eq
    rw [pathConflicts] at apart
    rw [resolve_presented wf words, pathConflicts]
    exact apart
  rw [RawSettings.violations, conflicts]
  simp only [presented, AdminSettings.violations_presented wf.admin,
    GracefulSettings.violations_presented wf.graceful (words .delay) (words .healthCheck)
      (words .warmup),
    ReporterSettings.violations_presented wf.reporter (words .backoff), List.append_nil]

/-- Words for durations denote durations. -/
theorem beyondRange_presented (words : s.SpelledBy t) : (s.presented t).beyondRange = false := by
  refine DurationField.within_iff.mpr fun f text given => ?_
  obtain rfl : t f = text := by cases f <;> exact Option.some.inj given
  simp [words f]

/-- The durations of accepted settings can be put into words: those that were given, and those of
the fallbacks where none were. -/
theorem spelledBy_given {raw : RawSettings} (h : ofRaw raw = .ok s) :
    s.SpelledBy fun f => (f.given raw).getD f.fallback := by
  obtain ⟨within, none, rfl⟩ := (ofRaw_eq_ok_iff raw s).mp h
  have kept (r : SettingsRule) : r.isBroken raw = false := by
    refine Bool.eq_false_iff.mpr fun broken => ?_
    have reported := SettingsRule.violation_mem within broken
    rw [none] at reported
    cases reported
  exact fun f => DurationField.read_given (Bool.or_eq_false_iff.mpr ⟨kept _, kept _⟩)

/-- Accepted settings can be given again, and in all words for their durations they are accepted
again. At most the path of the report changes, and it stays exactly if it does not start with a
blank. -/
theorem presented_iff {raw : RawSettings} (h : ofRaw raw = .ok s) :
    (∃ t, s.SpelledBy t) ∧
      ∀ t, s.SpelledBy t →
        (∃ path, ofRaw (s.presented t) =
          .ok { s with reporter := { s.reporter with reportPath := path } }) ∧
        (ofRaw (s.presented t) = .ok s ↔
          ∀ c ∈ s.reporter.reportPath.toList.head?, isBlank c = false) := by
  have wf := wellFormed_of_ofRaw h
  have isPath : IsReportPath s.reporter.reportPath := by
    obtain ⟨-, -, rfl⟩ := (ofRaw_eq_ok_iff raw s).mp h
    exact isReportPath_resolve raw.reporter
  refine ⟨⟨_, spelledBy_given h⟩, fun t words => ?_⟩
  obtain ⟨path, resolved⟩ :
      ∃ path, (s.reporter.presented (t .backoff)).resolve.reportPath = path := ⟨_, rfl⟩
  have again : ofRaw (s.presented t) =
      .ok { s with reporter := { s.reporter with reportPath := path } } := by
    refine (ofRaw_eq_ok_iff _ _).mpr
      ⟨beyondRange_presented words, violations_presented wf words, ?_⟩
    rw [resolve_presented wf words, resolved]
  have stays : path = s.reporter.reportPath ↔
      ∀ c ∈ s.reporter.reportPath.toList.head?, isBlank c = false := by
    rw [← resolved]
    exact reportPath_presented_iff isPath (s.reporter.presented (t .backoff))
  refine ⟨⟨path, again⟩, ?_⟩
  rw [← stays, again, Except.ok.injEq]
  exact ⟨fun same => congrArg (·.reporter.reportPath) same, fun same => by rw [same]⟩

/-- Values in other cases and with blanks and slashes around them are given again as they were
resolved. -/
theorem presented_iff_trimmed :
    let raw : RawSettings :=
      { graceful := { healthCheck := { method := some " head ", protocol := some "https" } }
        reporter := { reportPath := some " //lossless/new events " } }
    let s : Settings :=
      { graceful := { healthCheck := { method := "HEAD", scheme := .secure } }
        reporter := { reportPath := "lossless/new events" } }
    ofRaw raw = .ok s ∧ (∃ t, s.SpelledBy t) ∧
      ∀ t, s.SpelledBy t → ofRaw (s.presented t) = .ok s := by
  intro raw s
  have accepted : ofRaw raw = .ok s := eq_ok_of_toOption (by decide +kernel)
  obtain ⟨spelled, again⟩ := presented_iff accepted
  have first : s.reporter.reportPath.toList.head? = some 'l' := by decide +kernel
  refine ⟨accepted, spelled, fun t words => (again t words).2.mpr fun c hc => ?_⟩
  obtain rfl : 'l' = c := Option.some.inj (first.symm.trans hc)
  rfl

/-- A blank behind the slashes of a path is kept at first, and lost when the path is given again. -/
theorem blank_behind_slash_lost :
    let raw : RawSettings := { reporter := { reportPath := some "/ events" } }
    let s : Settings := { reporter := { reportPath := " events" } }
    let t := DurationField.fallback
    ofRaw raw = .ok s ∧ s.SpelledBy t ∧
      ofRaw (s.presented t) = .ok { reporter := { reportPath := "events" } } ∧
      ofRaw (s.presented t) ≠ .ok s := by
  intro raw s t
  have again : ofRaw (s.presented t) = .ok { reporter := { reportPath := "events" } } :=
    eq_ok_of_toOption (by decide +kernel)
  have words : s.SpelledBy t := fun f => f.read_fallback.trans (by cases f <;> rfl)
  refine ⟨eq_ok_of_toOption (by decide +kernel), words, again, fun same => ?_⟩
  exact absurd (Except.ok.inj (again.symm.trans same)) (by decide)

end Settings

end InstanceLifecycle
