import InstanceLifecycle.Settings.Layered

/-!
# Accepted settings

Settings come from the bytes of a document, from a file that may be missing, or from the layers of a
file and of variables. In every case a missing, blank or malformed value is replaced by its default,
and the rules are checked on what results. What is accepted is therefore well-formed as a whole,
whichever of its values were given.

Results:

* `exists_raw`: every loader accepts through the rules;
* `wellFormed_of_ofRaw`: no broken rule, well-formed settings;
* `wellFormed_of_loaded`: what a loader accepts is well-formed.
-/

namespace InstanceLifecycle

open Text

/-! ## Well-formed settings -/

/-- A text that has no blank at its ends and is not empty. -/
structure IsTrimmed (s : String) : Prop where
  trimmed : trim s = s
  nonempty : s ≠ ""

/-- A path that has no blank at its ends and starts at the root. -/
structure IsProperPath (path : String) : Prop where
  trimmed : trim path = path
  absolute : Http.isAbsolute path = true

/-- Time passes where it is waited for, and the numbers are in their bounds. -/
structure WarmupSettings.WellFormed (w : WarmupSettings) : Prop where
  interval : w.enabled = true → 0 < w.interval.nanos
  curvature : 1 ≤ w.curvature
  threshold : w.overload.threshold ≤ 100

/-- Registrations are held back for some time or until some check of the health, every path can be
asked for, and the method is one in upper case. -/
structure GracefulSettings.WellFormed (g : GracefulSettings) : Prop where
  byTime : g.delay.enabled = true → g.delay.kind = .byTime → 0 < g.delay.interval.nanos
  byHealthCheck : g.delay.enabled = true → g.delay.kind = .byHealthCheck →
    0 < g.healthCheck.interval.nanos ∧ 1 ≤ g.healthCheck.maxRetry
  isMethod : Http.isMethod g.healthCheck.method = true
  isUpper : upper g.healthCheck.method = g.healthCheck.method
  healthPath : IsProperPath g.healthCheck.path
  readinessPath : IsProperPath g.readiness.path
  offlinePath : IsProperPath g.offline.path
  warmup : g.warmup.WellFormed

/-- There is a host to listen on, and the page of counters, if any, can be asked for. -/
structure AdminSettings.WellFormed (a : AdminSettings) : Prop where
  host : IsTrimmed a.host
  metricsPath : ∀ path, a.metricsPath = some path → IsProperPath path

/-- An event can be queued, and the collector is found by a bare address, a relative path and a
named service. -/
structure ReporterSettings.WellFormed (r : ReporterSettings) : Prop where
  queueSize : 1 ≤ r.queueSize
  address : ∀ a, r.address = some a → IsTrimmed a ∧ contains "://" a = false
  reportPath : r.reportPath ≠ "" ∧ r.reportPath.toList.head? ≠ some '/'
  discovery : ∀ k, r.discovery = some k → IsTrimmed k.service ∧ isBlankText k.namespaceName = false

/-- Every section is well-formed, and what is switched on locally keeps to paths of its own. -/
structure Settings.WellFormed (s : Settings) : Prop where
  graceful : s.graceful.WellFormed
  admin : s.admin.WellFormed
  reporter : s.reporter.WellFormed
  probesApart : s.graceful.readiness.enabled = true → s.graceful.offline.enabled = true →
    s.graceful.readiness.path ≠ s.graceful.offline.path
  metricsApart : ∀ e ∈ [s.graceful.readiness, s.graceful.offline], e.enabled = true →
    s.admin.metricsPath ≠ some e.path

/-! ## Values -/

/-- What succeeds is decided on values, where errors need not be. -/
theorem eq_ok_of_toOption {ε α : Type} {r : Except ε α} {a : α} (h : r.toOption = some a) :
    r = .ok a := by
  cases r with
  | error e => cases h
  | ok b => rw [Option.some.inj h]

/-- What is given with more than blanks is trimmed. -/
theorem isTrimmed_of_trimmed? {raw : Option String} {s : String} (h : trimmed? raw = some s) :
    IsTrimmed s := by
  obtain ⟨hs, hne⟩ := Option.filter_eq_some_iff.mp h
  obtain ⟨r, -, rfl⟩ := Option.map_eq_some_iff.mp hs
  exact ⟨trim_trim r, by simpa using hne⟩

theorem durationOr_of_read [DurationReader] {text : String} {d : Duration}
    (h : DurationReader.read (trim text) = .ok d) (default : Duration) :
    durationOr default (some text) = d := by
  simp [durationOr, h]

/-- A blank text is malformed as a duration. -/
theorem isBlankText_of_read {text : String} (h : Duration.read (trim text) ≠ .error .malformed) :
    isBlankText text = false := by
  cases blank : isBlankText text with
  | false => rfl
  | true =>
    rw [trim_eq_empty_iff.mpr blank] at h
    exact absurd rfl h

/-- A path is trimmed, as the default one is. -/
theorem trim_pathOr {default : String} (hd : trim default = default) (raw : Option String) :
    trim (pathOr default raw) = pathOr default raw := by
  unfold pathOr
  cases h : trimmed? raw with
  | none => exact hd
  | some p => exact (isTrimmed_of_trimmed? h).trimmed

theorem isAbsolute_of_pathViolations {field path : String} (h : pathViolations field path = []) :
    Http.isAbsolute path = true := by
  unfold pathViolations at h
  split at h
  · assumption
  · cases h

/-- A path that breaks no rule is a proper one. -/
theorem isProperPath_pathOr {field default : String} {raw : Option String}
    (hd : trim default = default) (h : pathViolations field (pathOr default raw) = []) :
    IsProperPath (pathOr default raw) :=
  ⟨trim_pathOr hd raw, isAbsolute_of_pathViolations h⟩

/-- A duration that breaks no rule is positive where time has to pass. -/
theorem positive_of_zeroViolations {field : String} {needed : Bool} {d : Duration}
    (h : zeroViolations field needed d = []) (hn : needed = true) : 0 < d.nanos := by
  unfold zeroViolations at h
  split at h
  · cases h
  · simp_all [Duration.isZero]
    omega

/-! ## Sections -/

-- Whatever texts are read as durations, the rules are checked on what results.

/-- Delays that break no rule wait for some time. -/
theorem RawDelay.positive_interval [DurationReader] {raw : RawDelay} (h : raw.violations = [])
    (on : raw.resolve.enabled = true) (hk : raw.resolve.kind = .byTime) :
    0 < raw.resolve.interval.nanos := by
  have hz := (List.append_eq_nil_iff.mp h).2
  exact positive_of_zeroViolations hz (by simp [on, hk])

namespace RawHealthCheck

variable [DurationReader] {raw : RawHealthCheck}

/-- The method is one in upper case, also if a malformed one was given. -/
theorem resolve_method (raw : RawHealthCheck) :
    Http.isMethod raw.resolve.method = true ∧ upper raw.resolve.method = raw.resolve.method := by
  show Http.isMethod (Option.getD _ _) = true ∧ upper (Option.getD _ _) = Option.getD _ _
  cases h : ((trimmed? raw.method).map upper).filter fun m => Http.isMethod m with
  | none => exact ⟨by decide +kernel, by decide +kernel⟩
  | some m =>
    obtain ⟨hm, hmethod⟩ := Option.filter_eq_some_iff.mp h
    obtain ⟨t, -, rfl⟩ := Option.map_eq_some_iff.mp hm
    exact ⟨hmethod, upper_upper t⟩

/-- Health checks that break no rule are made, with some time between them, where registrations wait
for them. -/
theorem checks_of_violations {needed : Bool} (h : raw.violations needed = []) (hn : needed = true) :
    0 < raw.resolve.interval.nanos ∧ 1 ≤ raw.resolve.maxRetry := by
  obtain ⟨hrest, hz⟩ := List.append_eq_nil_iff.mp h
  have hretry := (List.append_eq_nil_iff.mp hrest).2
  refine ⟨positive_of_zeroViolations hz hn, Nat.one_le_iff_ne_zero.mpr fun hzero => ?_⟩
  simp [hn, hzero] at hretry

/-- Health checks that break no rule ask for a proper path. -/
theorem isProperPath_of_violations {needed : Bool} (h : raw.violations needed = []) :
    IsProperPath raw.resolve.path := by
  have hrest := (List.append_eq_nil_iff.mp (List.append_eq_nil_iff.mp h).1).1
  exact isProperPath_pathOr (by decide +kernel) (List.append_eq_nil_iff.mp hrest).2

end RawHealthCheck

/-- Warm-up that breaks no rule is well-formed. -/
theorem RawWarmup.wellFormed_resolve [DurationReader] {raw : RawWarmup} (h : raw.violations = []) :
    raw.resolve.WellFormed := by
  obtain ⟨hrest, ht⟩ := List.append_eq_nil_iff.mp h
  refine ⟨positive_of_zeroViolations (List.append_eq_nil_iff.mp hrest).2, ?_, ?_⟩
  · show 1 ≤ (raw.curvature.filter (· ≠ 0)).getD defaultCurvature
    cases hc : raw.curvature.filter (· ≠ 0) with
    | none => decide
    | some n =>
      have hne : n ≠ 0 := by simpa using (Option.filter_eq_some_iff.mp hc).2
      exact Nat.one_le_iff_ne_zero.mpr hne
  · refine Nat.not_lt.mp fun hgt => ?_
    simp [hgt] at ht

/-- Graceful starts and stops that break no rule are well-formed. -/
theorem RawGraceful.wellFormed_resolve [DurationReader] {raw : RawGraceful}
    (h : raw.violations = []) : raw.resolve.WellFormed := by
  simp only [RawGraceful.violations, List.append_eq_nil_iff] at h
  obtain ⟨⟨⟨⟨hdelay, hhealth⟩, hreadiness⟩, hoffline⟩, hwarmup⟩ := h
  obtain ⟨hmethod, hupper⟩ := raw.healthCheck.resolve_method
  exact
    { byTime := RawDelay.positive_interval hdelay
      byHealthCheck := fun on hk =>
        RawHealthCheck.checks_of_violations hhealth (by simp_all [needsHealthCheck, resolve])
      isMethod := hmethod
      isUpper := hupper
      healthPath := RawHealthCheck.isProperPath_of_violations hhealth
      readinessPath := isProperPath_pathOr (by decide +kernel) hreadiness
      offlinePath := isProperPath_pathOr (by decide +kernel) hoffline
      warmup := RawWarmup.wellFormed_resolve hwarmup }

/-- A probe server whose settings break no rule has a host, and a proper page of counters
or none. -/
theorem RawAdmin.wellFormed_resolve {raw : RawAdmin} (h : raw.violations = []) :
    raw.resolve.WellFormed := by
  constructor
  · show IsTrimmed ((trimmed? raw.host).getD "0.0.0.0")
    cases hh : trimmed? raw.host with
    | none => exact ⟨by decide +kernel, by decide⟩
    | some s => exact isTrimmed_of_trimmed? hh
  · intro path hp
    have hv := List.flatMap_eq_nil_iff.mp h path (Option.mem_toList.mpr hp)
    exact ⟨(isTrimmed_of_trimmed? hp).trimmed, isAbsolute_of_pathViolations hv⟩

/-- A service to discover collectors by has a name and is in a named namespace. -/
theorem RawDiscovery.named_of_resolve {raw : RawDiscovery} {k : ServiceKey}
    (h : raw.resolve = some k) : IsTrimmed k.service ∧ isBlankText k.namespaceName = false := by
  unfold resolve at h
  split at h
  · cases h
  · next hblank =>
    obtain rfl := Option.some.inj h
    refine ⟨⟨trim_trim raw.service, fun hempty => hblank ?_⟩, ?_⟩
    · exact isBlankText_of_trim_eq_empty hempty
    · show isBlankText ((raw.namespaceName.filter fun s => !isBlankText s).getD "Polaris") = false
      cases hn : raw.namespaceName.filter fun s => !isBlankText s with
      | none => decide +kernel
      | some n => simpa using (Option.filter_eq_some_iff.mp hn).2

namespace RawReporter

variable {raw : RawReporter}

/-- A path of the report is not empty and does not start with a slash. -/
theorem relative_of_reportPath? {path : String} (h : raw.reportPath? = some path) :
    path ≠ "" ∧ path.toList.head? ≠ some '/' := by
  obtain ⟨hs, hne⟩ := Option.filter_eq_some_iff.mp h
  obtain ⟨r, -, rfl⟩ := Option.map_eq_some_iff.mp hs
  refine ⟨by simpa using hne, fun hslash => ?_⟩
  rw [String.toList_ofList] at hslash
  simpa using head?_dropWhile '/' hslash

/-- A reporter whose settings break no rule is well-formed. -/
theorem wellFormed_resolve [DurationReader] (h : raw.violations = []) :
    raw.resolve.WellFormed := by
  simp only [RawReporter.violations, List.append_eq_nil_iff] at h
  obtain ⟨⟨⟨hqueue, haddress⟩, -⟩, -⟩ := h
  constructor
  · refine Nat.one_le_iff_ne_zero.mpr fun hzero => ?_
    simp [hzero] at hqueue
  · intro a ha
    refine ⟨isTrimmed_of_trimmed? ha, ?_⟩
    simpa [addressViolations, ha] using haddress
  · show raw.reportPath?.getD "lossless/events" ≠ "" ∧
      (raw.reportPath?.getD "lossless/events").toList.head? ≠ some '/'
    cases hp : raw.reportPath? with
    | none => exact ⟨by decide, by decide +kernel⟩
    | some p => exact relative_of_reportPath? hp
  · intro k hk
    obtain ⟨d, -, hd⟩ := Option.bind_eq_some_iff.mp hk
    exact RawDiscovery.named_of_resolve hd

end RawReporter

/-! ## All settings -/

/-- Settings without conflicts keep what is switched on to paths of its own. -/
theorem Settings.apart_of_pathConflicts {s : Settings} (h : s.pathConflicts = []) :
    (s.graceful.readiness.enabled = true → s.graceful.offline.enabled = true →
      s.graceful.readiness.path ≠ s.graceful.offline.path) ∧
      ∀ e ∈ [s.graceful.readiness, s.graceful.offline], e.enabled = true →
        s.admin.metricsPath ≠ some e.path := by
  obtain ⟨hshared, hmetrics⟩ := List.append_eq_nil_iff.mp h
  constructor
  · intro hr ho he
    simp [hr, ho, he] at hshared
  · intro e he on hpath
    simp only [hpath] at hmetrics
    simp only [List.mem_cons, List.not_mem_nil, or_false] at he
    rcases he with rfl | rfl
    · simp [on] at hmetrics
    · simp [on] at hmetrics

/-- Settings that break no rule are well-formed. -/
theorem Settings.wellFormed_of_ofRaw [DurationReader] {raw : RawSettings} {s : Settings}
    (h : Settings.ofRaw raw = .ok s) : s.WellFormed := by
  obtain ⟨-, hv, rfl⟩ := (Settings.ofRaw_eq_ok_iff raw s).mp h
  simp only [RawSettings.violations, List.append_eq_nil_iff] at hv
  obtain ⟨⟨⟨hgraceful, hadmin⟩, hreporter⟩, hpaths⟩ := hv
  obtain ⟨hprobes, hmetrics⟩ := Settings.apart_of_pathConflicts hpaths
  exact
    { graceful := RawGraceful.wellFormed_resolve hgraceful
      admin := RawAdmin.wellFormed_resolve hadmin
      reporter := RawReporter.wellFormed_resolve hreporter
      probesApart := hprobes
      metricsApart := hmetrics }

/-! ## Loaders -/

/-- The settings that a loader accepts. -/
inductive Settings.Loaded [DurationReader] : Settings → Prop
  /-- From the bytes of a document. -/
  | bytes {b : ByteArray} {s : Settings} (h : Settings.readBytes b = .ok s) : Loaded s
  /-- From a file that may be missing. -/
  | file {b? : Option ByteArray} {s : Settings} (h : Settings.readIfPresent b? = .ok s) : Loaded s
  /-- From the layers of a file, if there is one, and of variables. -/
  | layers {file : Option String} {named : List (String × String)} {s : Settings}
    (h : Settings.readLayers file named = .ok s) : Loaded s

namespace Settings

/-- What is read from bytes was accepted by the rules. -/
theorem exists_raw_of_readBytes [DurationReader] {b : ByteArray} {s : Settings}
    (h : readBytes b = .ok s) : ∃ raw, ofRaw raw = .ok s := by
  unfold readBytes at h
  split at h
  · next text _ =>
    unfold read at h
    cases hp : parse text with
    | error e => simp [hp, bind, Except.bind] at h
    | ok raw => exact ⟨raw, by simpa [hp, bind, Except.bind] using h⟩
  · cases h

/-- Every loader accepts through the rules. -/
theorem Loaded.exists_raw [DurationReader] {s : Settings} (h : Loaded s) :
    ∃ raw, ofRaw raw = .ok s := by
  cases h with
  | bytes h => exact exists_raw_of_readBytes h
  | @file b? _ h =>
    cases b? with
    | none => cases h
    | some b => exact exists_raw_of_readBytes h
  | layers h =>
    unfold readLayers at h
    split at h
    · cases h
    · dsimp only at h
      split at h
      · cases h
      · next raw _ => exact ⟨raw, h⟩

/-- What a loader accepts is well-formed, whichever texts are read as durations. -/
theorem wellFormed_of_loaded [DurationReader] {s : Settings} (h : Loaded s) : s.WellFormed := by
  obtain ⟨raw, hraw⟩ := h.exists_raw
  exact wellFormed_of_ofRaw hraw

/-- A blank host, blanks around a path and a curvature of zero are accepted, and well-formed
settings result from them. -/
theorem wellFormed_of_blanks :
    let text := "lossless:\n warmup:\n  curvature: 0\nadmin:\n host: ' '\n metrics_path: ' /m '\n"
    let s : Settings := { admin := { host := "0.0.0.0", metricsPath := some "/m" } }
    Settings.readBytes text.toUTF8 = .ok s ∧ s.graceful.warmup.curvature = 2 ∧ s.WellFormed := by
  intro text s
  have accepted : (Settings.readBytes text.toUTF8).toOption = some s := by decide +kernel
  have read : Settings.readBytes text.toUTF8 = .ok s := eq_ok_of_toOption accepted
  exact ⟨read, rfl, wellFormed_of_loaded (.bytes read)⟩

end Settings

end InstanceLifecycle
