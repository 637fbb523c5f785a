import InstanceLifecycle.Proofs.Policy.Paths
import InstanceLifecycle.Proofs.Rule.Section

/-!
# Merging section by section

A policy has four parts, one for each section of a rule. A rule that cannot be used leaves all of
them local. Under one that can be used each part is a function of the local settings and of what the
document has at the place of its own section; nothing leaks from one section into another.

A section that is switched on does not set everything as it stands in the document: a delay whose
strategy or interval is unusable is off, a missing or zero curvature is the usual one, and large
numbers are cut to the largest that make sense.

Results:

* `part_resolve`: a part is read off its own section;
* `merges_sections`: what the local settings and a rule make of each part;
* `unknown_strategy_off`: a section that is switched on and a part that is off.
-/

namespace InstanceLifecycle

open Json (Value)

/-! ## Parts -/

/-- A part of a policy. -/
inductive Policy.Part
  | delay (p : DelayPolicy)
  | endpoint (p : EndpointPolicy)
  | warmup (p : WarmupPolicy)
  deriving DecidableEq, Repr

/-- The part of a policy that a section sets. -/
def Section.part : Section → Policy → Policy.Part
  | delay, p => .delay p.delay
  | readiness, p => .endpoint p.readiness
  | offline, p => .endpoint p.offline
  | warmup, p => .warmup p.warmup

/-- Whether a document is a rule. -/
def RuleDocument.Accepted (d : Value) : Prop := ∃ r, Rule.ofDocument d = .ok r

/-- The strategy that a section on delayed registration names. -/
def Section.strategy (v : Value) : String :=
  (Section.delay.read? RuleDocument.text v "strategy").getD ""

/-- A number of a section, or zero. -/
def Section.number (σ : Section) (v : Value) (name : String) : Nat :=
  (σ.read? RuleDocument.integer v name).getD 0

/-- The seconds between health checks that a section on delayed registration sets: a positive
number, given as a number or as a text. -/
def Section.healthInterval? (v : Value) : Option Nat :=
  (Text.readUnsigned? (Width.bound 64) (Text.trim
    ((Section.delay.read? RuleDocument.integerText v "healthCheckIntervalSecond").getD ""))).filter
      (0 < ·)

namespace GracefulSettings

variable (g : GracefulSettings)

/-- A part that is switched off. -/
def switchedOff : Section → Policy.Part
  | .delay => .delay ⟨false, g.localStrategy⟩
  | .readiness => .endpoint ⟨false, g.readiness.path⟩
  | .offline => .endpoint ⟨false, g.offline.path⟩
  | .warmup => .warmup .disabled

/-- Delayed registration as a section sets it that is switched on. -/
def delayOf (v : Value) : DelayPolicy :=
  match DelayKind.ofText? (Section.strategy v) with
  | some .byTime => ⟨true, .byTime (.ofSeconds (Section.delay.number v "intervalSecond"))⟩
  | some .byHealthCheck =>
    match Section.healthInterval? v with
    | some n => ⟨true, .byHealthCheck (g.healthCheckEvery (.ofSeconds n))⟩
    | none => ⟨false, .unsupported DelayKind.byHealthCheck.name⟩
  | none => ⟨false, .unsupported (Section.strategy v)⟩

/-- Warm-up as a section sets it that is switched on. -/
def warmupOf (v : Value) : WarmupPolicy :=
  { enabled := true
    interval := .ofSeconds (Section.warmup.number v "intervalSecond")
    curvature :=
      if Section.warmup.number v "curvature" = 0 then defaultCurvature
      else min (Section.warmup.number v "curvature") (Width.bound 32 - 1)
    overload :=
      ⟨Section.warmup.flag v "enableOverloadProtection",
        min (Section.warmup.number v "overloadProtectionThreshold") 100⟩ }

/-- A part as its section sets it that is switched on. -/
def switchedOn : Section → Value → Policy.Part
  | .delay, v => .delay (g.delayOf v)
  | .readiness, _ => .endpoint ⟨true, g.readiness.path⟩
  | .offline, _ => .endpoint ⟨true, g.offline.path⟩
  | .warmup, v => .warmup (warmupOf v)

/-- A part by what a document has for its section. -/
def partOf (σ : Section) : Option Value → Policy.Part
  | none => σ.part g.localPolicy
  | some v => if σ.enables v then g.switchedOn σ v else g.switchedOff σ

/-! ## Each part by its own section -/

theorem remoteDelay_eq {v : Value} {x : RuleDelay} (h : RuleDocument.delay v = .ok x) :
    g.remoteDelay x =
      if Section.delay.enables v then g.delayOf v else ⟨false, g.localStrategy⟩ := by
  have enable : x.enable = Section.delay.enables v := by rw [Section.delay_fields h]
  have strategy : x.strategy.getD "" = Section.strategy v := by rw [Section.delay_fields h]; rfl
  have seconds : x.intervalSecond.getD 0 = Section.delay.number v "intervalSecond" := by
    rw [Section.delay_fields h]; rfl
  have interval : remoteHealthInterval? x = Section.healthInterval? v := by
    rw [Section.delay_fields h]; rfl
  unfold remoteDelay delayOf
  cases on : Section.delay.enables v with
  | false => simp [enable, on]
  | true =>
    cases kind : DelayKind.ofText? (Section.strategy v) with
    | none => simp [enable, on, strategy, kind]
    | some k =>
      cases k with
      | byTime => simp [enable, on, strategy, kind, seconds]
      | byHealthCheck =>
        cases period : Section.healthInterval? v <;>
          simp [enable, on, strategy, kind, interval, period]

/-- The usual curvature stands for a missing one and for zero. -/
theorem curvature_eq (c : Option Nat) :
    min ((c.filter (· ≠ 0)).getD defaultCurvature) (Width.bound 32 - 1) =
      if c.getD 0 = 0 then defaultCurvature else min (c.getD 0) (Width.bound 32 - 1) := by
  have small : min defaultCurvature (Width.bound 32 - 1) = defaultCurvature := by decide
  cases c with
  | none => simpa using small
  | some n =>
    by_cases hn : n = 0
    · simp [Option.filter, hn, small]
    · simp [Option.filter, hn]

theorem remoteWarmup_eq {v : Value} {x : RuleWarmup} (h : RuleDocument.warmup v = .ok x) :
    remoteWarmup x = if Section.warmup.enables v then warmupOf v else .disabled := by
  obtain rfl := Section.warmup_fields h
  unfold remoteWarmup
  split
  · rw [curvature_eq]
    rfl
  · rfl

/-- What a section sets replaces the local part, a missing one leaves it. -/
theorem part_of_reads {read : Value → Except RuleError α} {v : Option Value} {x : Option α}
    (h : RuleDocument.Reads read v x) {f : α → β} {base : β} {P : β → Policy.Part} {σ : Section}
    (missing : P base = g.partOf σ none)
    (read : ∀ v y, read v = .ok y → P (f y) = g.partOf σ (some v)) :
    P ((x.map f).getD base) = g.partOf σ v := by
  cases v with
  | none =>
    obtain rfl : x = none := h
    exact missing
  | some v =>
    obtain ⟨y, hy, rfl⟩ := h
    exact read v y hy

theorem part_merge {d : Value} {r : Rule} (h : Rule.ofDocument d = .ok r) (σ : Section) :
    σ.part (g.merge r) = g.partOf σ (σ.value? d) := by
  obtain ⟨hdelay, hreadiness, hoffline, hwarmup⟩ := RuleDocument.reads_ofDocument h
  cases σ with
  | delay =>
    refine g.part_of_reads hdelay (P := .delay) rfl fun v y hy => ?_
    rw [g.remoteDelay_eq hy]
    simp only [partOf]
    split <;> rfl
  | readiness =>
    refine g.part_of_reads hreadiness (P := .endpoint) rfl fun v y hy => ?_
    rw [(Section.toggle_fields hy).1]
    simp only [partOf]
    split <;> simp_all [switchedOn, switchedOff]
  | offline =>
    refine g.part_of_reads hoffline (P := .endpoint) rfl fun v y hy => ?_
    rw [(Section.toggle_fields hy).2]
    simp only [partOf]
    split <;> simp_all [switchedOn, switchedOff]
  | warmup =>
    refine g.part_of_reads hwarmup (P := .warmup) rfl fun v y hy => ?_
    rw [remoteWarmup_eq hy]
    simp only [partOf]
    split <;> rfl

/-- The policy under a document of the right kind. -/
def resolveDocument (d : Value) : Policy := g.resolve (some ⟨.lossless, d⟩)

/-- A part is read off its own section. -/
theorem part_resolve (on : g.enabled = true) {d : Value} (h : RuleDocument.Accepted d)
    (σ : Section) : σ.part (g.resolveDocument d) = g.partOf σ (σ.value? d) := by
  obtain ⟨r, hr⟩ := h
  rw [← g.part_merge hr σ]
  simp [resolveDocument, resolve, on, usableRule?, hr, Except.toOption]

theorem part_localPolicy_of_disabled (off : g.enabled = false) (σ : Section) :
    σ.part g.localPolicy = g.switchedOff σ := by
  cases σ <;> simp [Section.part, localPolicy, off, switchedOff]

/-! ## Health checks -/

/-- Whether a strategy that checks health does it in the way that is set locally. -/
def ChecksLocally (s : DelayStrategy) : Prop :=
  ∀ c, s = .byHealthCheck c →
    c.path = g.healthCheck.path ∧ c.scheme = g.healthCheck.scheme ∧
      c.method = g.healthCheck.method ∧ c.maxRetry = g.healthCheck.maxRetry

theorem checksLocally_every (n : Duration) :
    g.ChecksLocally (.byHealthCheck (g.healthCheckEvery n)) := by
  rintro c hc
  obtain rfl := DelayStrategy.byHealthCheck.inj hc
  exact ⟨rfl, rfl, rfl, rfl⟩

theorem checksLocally_localStrategy : g.ChecksLocally g.localStrategy := by
  unfold localStrategy
  split
  · rintro c hc
    cases hc
  · exact g.checksLocally_every _

theorem checksLocally_localPolicy : g.ChecksLocally g.localPolicy.delay.strategy := by
  unfold localPolicy
  split <;> exact g.checksLocally_localStrategy

theorem checksLocally_remoteDelay (x : RuleDelay) : g.ChecksLocally (g.remoteDelay x).strategy := by
  unfold remoteDelay
  split
  · split
    · rintro c hc
      cases hc
    · split
      · exact g.checksLocally_every _
      · rintro c hc
        cases hc
    · rintro c hc
      cases hc
  · exact g.checksLocally_localStrategy

/-- Health is checked in the way that is set locally. -/
theorem checksLocally_resolve (remote : Option RemoteRule) :
    g.ChecksLocally (g.resolve remote).delay.strategy := by
  refine resolve_induction g (P := fun p => g.ChecksLocally p.delay.strategy)
    g.checksLocally_localPolicy (fun _ r => ?_) remote
  simp only [merge]
  cases (r.online.getD {}).delay with
  | none => exact g.checksLocally_localPolicy
  | some x => exact g.checksLocally_remoteDelay x

/-! ## All of it -/

/-- What the local settings and a rule make of each part of a policy. -/
structure MergesSections : Prop where
  /-- Settings that are switched off are not changed by any rule. -/
  off : g.enabled = false → ∀ remote, g.resolve remote = g.localPolicy
  missing : g.resolve none = g.localPolicy
  otherKind : ∀ r, r.kind ≠ .lossless → g.resolve (some r) = g.localPolicy
  /-- A document is rejected as a whole. -/
  rejected : ∀ d, ¬RuleDocument.Accepted d → g.resolveDocument d = g.localPolicy
  empty : g.resolveDocument (.object []) = g.localPolicy
  enabled : ∀ remote, (g.resolve remote).enabled = g.enabled
  /-- Documents that agree on a section agree on its part. -/
  apart : ∀ σ d d', RuleDocument.Accepted d → RuleDocument.Accepted d' →
    Section.value? d σ = Section.value? d' σ →
      σ.part (g.resolveDocument d) = σ.part (g.resolveDocument d')
  absent : ∀ σ d, RuleDocument.Accepted d → Section.value? d σ = none →
    σ.part (g.resolveDocument d) = σ.part g.localPolicy
  disabled : ∀ σ d v, RuleDocument.Accepted d → Section.value? d σ = some v →
    σ.enables v = false → σ.part (g.resolveDocument d) = g.switchedOff σ
  readiness : ∀ d v, g.enabled = true → RuleDocument.Accepted d →
    Section.readiness.value? d = some v → Section.readiness.enables v = true →
      (g.resolveDocument d).readiness = ⟨true, g.readiness.path⟩
  offline : ∀ d v, g.enabled = true → RuleDocument.Accepted d →
    Section.offline.value? d = some v → Section.offline.enables v = true →
      (g.resolveDocument d).offline = ⟨true, g.offline.path⟩
  byTime : ∀ d v, g.enabled = true → RuleDocument.Accepted d →
    Section.delay.value? d = some v → Section.delay.enables v = true →
      DelayKind.ofText? (Section.strategy v) = some .byTime →
        (g.resolveDocument d).delay =
          ⟨true, .byTime (.ofSeconds (Section.delay.number v "intervalSecond"))⟩
  byHealthCheck : ∀ d v n, g.enabled = true → RuleDocument.Accepted d →
    Section.delay.value? d = some v → Section.delay.enables v = true →
      DelayKind.ofText? (Section.strategy v) = some .byHealthCheck →
        Section.healthInterval? v = some n →
          (g.resolveDocument d).delay =
            ⟨true, .byHealthCheck (g.healthCheckEvery (.ofSeconds n))⟩
  /-- Without a usable interval nothing is held back, and the strategy keeps its name. -/
  unusable : ∀ d v, g.enabled = true → RuleDocument.Accepted d →
    Section.delay.value? d = some v → Section.delay.enables v = true →
      DelayKind.ofText? (Section.strategy v) = some .byHealthCheck →
        Section.healthInterval? v = none →
          (g.resolveDocument d).delay = ⟨false, .unsupported DelayKind.byHealthCheck.name⟩
  /-- Under an unknown strategy nothing is held back, and the strategy keeps its name. -/
  unknown : ∀ d v, g.enabled = true → RuleDocument.Accepted d →
    Section.delay.value? d = some v → Section.delay.enables v = true →
      DelayKind.ofText? (Section.strategy v) = none →
        (g.resolveDocument d).delay = ⟨false, .unsupported (Section.strategy v)⟩
  warmup : ∀ d v, g.enabled = true → RuleDocument.Accepted d →
    Section.warmup.value? d = some v → Section.warmup.enables v = true →
      (g.resolveDocument d).warmup = warmupOf v
  paths : ∀ remote, (g.resolve remote).readiness.path = g.readiness.path ∧
    (g.resolve remote).offline.path = g.offline.path
  checks : ∀ remote, g.ChecksLocally (g.resolve remote).delay.strategy

theorem resolve_otherKind {r : RemoteRule} (h : r.kind ≠ .lossless) :
    g.resolve (some r) = g.localPolicy :=
  g.resolve_unusable (by simp [usableRule?, h])

theorem resolve_rejected {d : Value} (h : ¬RuleDocument.Accepted d) :
    g.resolveDocument d = g.localPolicy := by
  refine g.resolve_unusable ?_
  cases hd : Rule.ofDocument d with
  | error e => simp [usableRule?, hd, Except.toOption]
  | ok r => exact absurd ⟨r, hd⟩ h

/-- A part under settings that are switched on, where its section is there and switched on. -/
theorem part_switchedOn (on : g.enabled = true) {d v : Value} (h : RuleDocument.Accepted d)
    {σ : Section} (hv : σ.value? d = some v) (he : σ.enables v = true) :
    σ.part (g.resolveDocument d) = g.switchedOn σ v := by
  rw [g.part_resolve on h, hv, partOf, if_pos he]

theorem delay_switchedOn (on : g.enabled = true) {d v : Value} (h : RuleDocument.Accepted d)
    (hv : Section.delay.value? d = some v) (he : Section.delay.enables v = true) :
    (g.resolveDocument d).delay = g.delayOf v :=
  Policy.Part.delay.inj (g.part_switchedOn on h hv he)

/-- What the local settings and a rule make of each part of a policy. -/
theorem merges_sections : g.MergesSections where
  off := g.resolve_of_disabled
  missing := g.resolve_none
  otherKind _ h := g.resolve_otherKind h
  rejected _ h := g.resolve_rejected h
  empty := g.resolve_empty
  enabled := g.enabled_resolve
  apart σ d d' h h' same := by
    by_cases on : g.enabled = true
    · rw [g.part_resolve on h, g.part_resolve on h', same]
    · have off : g.enabled = false := by simpa using on
      rw [resolveDocument, resolveDocument, g.resolve_of_disabled off, g.resolve_of_disabled off]
  absent σ d h hv := by
    by_cases on : g.enabled = true
    · rw [g.part_resolve on h, hv, partOf]
    · rw [resolveDocument, g.resolve_of_disabled (by simpa using on)]
  disabled σ d v h hv he := by
    by_cases on : g.enabled = true
    · rw [g.part_resolve on h, hv, partOf, he, if_neg Bool.false_ne_true]
    · have off : g.enabled = false := by simpa using on
      rw [resolveDocument, g.resolve_of_disabled off, g.part_localPolicy_of_disabled off]
  readiness d v on h hv he := Policy.Part.endpoint.inj (g.part_switchedOn on h hv he)
  offline d v on h hv he := Policy.Part.endpoint.inj (g.part_switchedOn on h hv he)
  byTime d v on h hv he hs := by rw [g.delay_switchedOn on h hv he, delayOf, hs]
  byHealthCheck d v n on h hv he hs hn := by rw [g.delay_switchedOn on h hv he, delayOf, hs, hn]
  unusable d v on h hv he hs hn := by rw [g.delay_switchedOn on h hv he, delayOf, hs, hn]
  unknown d v on h hv he hs := by rw [g.delay_switchedOn on h hv he, delayOf, hs]
  warmup d v on h hv he := Policy.Part.warmup.inj (g.part_switchedOn on h hv he)
  paths remote := ⟨g.readiness_path_resolve remote, g.offline_path_resolve remote⟩
  checks := g.checksLocally_resolve

/-! ## A section that is switched on and a part that is not as it says -/

/-- A section that asks for an unknown way to delay. -/
def magicDelay : Value :=
  .object [("enable", .bool true), ("strategy", .string "DELAY_BY_MAGIC")]

/-- A section without curvature and with a share above all instances. -/
def boldWarmup : Value :=
  .object [("enable", .bool true), ("intervalSecond", .nat 60), ("curvature", .nat 0),
    ("enableOverloadProtection", .bool true), ("overloadProtectionThreshold", .nat 150)]

/-- A document with both sections. -/
def boldDocument : Value :=
  .object [("losslessOnline", .object [("delayRegister", magicDelay), ("warmup", boldWarmup)])]

theorem delay_magicDelay :
    RuleDocument.delay magicDelay =
      .ok { enable := true, strategy := some "DELAY_BY_MAGIC" } := by
  simp [magicDelay, RuleDocument.delay, RuleDocument.fieldOr, RuleDocument.field?,
    Value.member?, RuleDocument.flag, RuleDocument.text, RuleDocument.inOrder_object,
    RuleDocument.outcome, Except.map, bind, Except.bind]

theorem warmup_boldWarmup :
    RuleDocument.warmup boldWarmup = .ok ⟨true, some 60, some 0, true, some 150⟩ := by
  simp [boldWarmup, RuleDocument.warmup, RuleDocument.fieldOr, RuleDocument.field?,
    Value.member?, RuleDocument.flag, RuleDocument.integer_natural, RuleDocument.inOrder_object,
    RuleDocument.outcome, Except.map, bind, Except.bind]

theorem accepted_boldDocument : RuleDocument.Accepted boldDocument := by
  refine ⟨⟨some ⟨some ⟨true, some "DELAY_BY_MAGIC", none, none⟩, none,
    some ⟨true, some 60, some 0, true, some 150⟩⟩, none⟩, ?_⟩
  have hd : RuleDocument.nullable RuleDocument.delay magicDelay =
      (RuleDocument.delay magicDelay).map some := rfl
  have hw : RuleDocument.nullable RuleDocument.warmup boldWarmup =
      (RuleDocument.warmup boldWarmup).map some := rfl
  have ho (ms : List (String × Value)) : RuleDocument.nullable RuleDocument.online (.object ms) =
      (RuleDocument.online (.object ms)).map some := rfl
  simp [boldDocument, Rule.ofDocument, RuleDocument.rule, RuleDocument.online,
    RuleDocument.fieldOr, RuleDocument.field?, Value.member?, hd, hw, ho, delay_magicDelay,
    warmup_boldWarmup, RuleDocument.inOrder_object, RuleDocument.outcome, Except.map, bind,
    Except.bind]

/-- A section that is switched on may leave its part off, and numbers need not stay as they are. -/
theorem unknown_strategy_off :
    RuleDocument.Accepted boldDocument ∧
      Section.delay.value? boldDocument = some magicDelay ∧
      Section.delay.enables magicDelay = true ∧
      (resolveDocument { enabled := true } boldDocument).delay =
        ⟨false, .unsupported "DELAY_BY_MAGIC"⟩ ∧
      Section.warmup.value? boldDocument = some boldWarmup ∧
      Section.warmup.enables boldWarmup = true ∧
      (resolveDocument { enabled := true } boldDocument).warmup =
        ⟨true, .ofSeconds 60, 2, ⟨true, 100⟩⟩ := by
  refine ⟨accepted_boldDocument, rfl, rfl, ?_, rfl, rfl, ?_⟩
  · rw [delay_switchedOn _ rfl accepted_boldDocument (v := magicDelay) rfl rfl]
    decide +kernel
  · have h := part_switchedOn { enabled := true } rfl accepted_boldDocument (σ := .warmup)
      (v := boldWarmup) rfl rfl
    rw [Policy.Part.warmup.inj h]
    decide +kernel

end GracefulSettings

end InstanceLifecycle
