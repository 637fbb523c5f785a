import InstanceLifecycle.Proofs.Policy.Merging
import InstanceLifecycle.Proofs.Rule.Acceptance
import InstanceLifecycle.Proofs.Text.Digits

/-!
# Intervals that cannot be used

A rule that wants health checks names the seconds between two of them. The interval is kept as a
text, so that one that is no positive number only turns the delay off. But a value that is neither
an integer of 64 bits nor a text cannot be kept so: it is refused with the whole document, and all
sections are local then. What happens is compared with a document that is the same but for the
interval.

Results:

* `accepted_iff`: whether the document is accepted depends on the interval only;
* `healthInterval?_eq`: the interval is what the value is or denotes;
* `unusable_interval_iff`: an unusable interval turns the delay off and nothing else, exactly if it
  can be read;
* `negative_interval_local`: a rule that is dropped for its interval.
-/

namespace InstanceLifecycle

open Json (Value)

namespace RuleDocument

/-! ## Documents that differ in the interval -/

/-- Two sections with the same fields but for one. -/
structure AgreeBut (names : List String) (name : String) (v w : Value) : Prop where
  isSection : isSection names v = isSection names w
  fields : ∀ n ∈ names, n ≠ name → field? names v n = field? names w n

/-- Two documents that are the same but for the interval between health checks. Their sections on
delayed registration are `v` and `w`. -/
structure AgreeButInterval (d e v w : Value) : Prop where
  document : isDocument d = isDocument e
  rule : AgreeBut ["losslessOnline", "losslessOffline"] "losslessOnline" (root d) (root e)
  online : ∃ a b, online? d = some a ∧ online? e = some b ∧
    AgreeBut ["delayRegister", "readiness", "warmup"] "delayRegister" a b ∧
      onlineField? a "delayRegister" = some v ∧ onlineField? b "delayRegister" = some w
  delay : AgreeBut Section.delay.names "healthCheckIntervalSecond" v w

/-- What a section has for the interval between health checks. -/
def interval? (v : Value) : Option Value :=
  field? Section.delay.names v "healthCheckIntervalSecond"

/-- Whether an interval is missing, null, an integer from zero up or a text. -/
def isReadable : Option Value → Bool
  | none => true
  | some .null => true
  | some (.number (.natural _)) => true
  | some (.string _) => true
  | _ => false

/-- The positive number of 64 bits that a value is or denotes. -/
def positive? : Option Value → Option Nat
  | some (.number (.natural n)) => if 0 < n ∧ n < Width.bound 64 then some n else none
  | some (.string s) => (Text.readUnsigned? (Width.bound 64) (Text.trim s)).filter (0 < ·)
  | _ => none

theorem accepts_integerText_iff {x : Option Value} :
    Accepts integerText x ↔ isReadable x = true := by
  unfold Accepts
  cases x with
  | none => simp [isReadable]
  | some w =>
    cases w with
    | number n => cases n <;> simp [isReadable, integerText]
    | _ => simp [isReadable, integerText]

section Agree

variable {d e v w : Value} (same : AgreeButInterval d e v w)
include same

/-- Sections of other kinds are the same. -/
theorem value?_eq {σ : Section} (other : σ ≠ .delay) : σ.value? d = σ.value? e := by
  obtain ⟨a, b, ha, hb, within, -, -⟩ := same.online
  cases σ with
  | delay => exact absurd rfl other
  | readiness =>
    simp only [Section.value?, ha, hb, Option.bind_some, onlineField?]
    rw [within.fields "readiness" (by simp) (by simp)]
  | offline =>
    simp only [Section.value?]
    rw [same.rule.fields "losslessOffline" (by simp) (by simp)]
  | warmup =>
    simp only [Section.value?, ha, hb, Option.bind_some, onlineField?]
    rw [within.fields "warmup" (by simp) (by simp)]

/-- If the section with the other interval is accepted, this one is exactly if its interval can be
read. -/
theorem delay_accepted_iff (accepted : ∃ x, RuleDocument.delay w = .ok x) :
    (∃ x, RuleDocument.delay v = .ok x) ↔ isReadable (interval? v) = true := by
  obtain ⟨form, enable, strategy, seconds, -⟩ := delay_accepts_iff.mp accepted
  have field (n : String) (mem : n ∈ Section.delay.names) (other : n ≠ "healthCheckIntervalSecond") :=
    same.delay.fields n mem other
  rw [delay_accepts_iff, same.delay.isSection, field "enable" (by simp [Section.names]) (by simp),
    field "strategy" (by simp [Section.names]) (by simp),
    field "intervalSecond" (by simp [Section.names]) (by simp), ← accepts_integerText_iff]
  exact ⟨fun h => h.2.2.2.2, fun h => ⟨form, enable, strategy, seconds, h⟩⟩

/-- If the document with the other interval is accepted, this one is exactly if its interval can be
read. -/
theorem accepted_iff (accepted : Accepted e) :
    Accepted d ↔ isReadable (interval? v) = true := by
  obtain ⟨a, b, ha, hb, within, hv, hw⟩ := same.online
  obtain ⟨document, form, online, offline⟩ := ofDocument_accepts_iff.mp accepted
  obtain ⟨part, delay, readiness, warmup⟩ := online_accepts_iff.mp (online b hb)
  have others : Section.offline.value? d = Section.offline.value? e := value?_eq same (by simp)
  have ready : onlineField? a "readiness" = onlineField? b "readiness" := by
    rw [onlineField?, onlineField?, within.fields "readiness" (by simp) (by simp)]
  have warm : onlineField? a "warmup" = onlineField? b "warmup" := by
    rw [onlineField?, onlineField?, within.fields "warmup" (by simp) (by simp)]
  have section_iff := delay_accepted_iff same (delay w hw)
  have online_iff : Accepts RuleDocument.online (online? d) ↔ isReadable (interval? v) = true := by
    rw [← section_iff, ha]
    constructor
    · intro h
      exact (online_accepts_iff.mp (h a rfl)).2.1 v hv
    · rintro h a' ⟨⟩
      refine online_accepts_iff.mpr ⟨within.isSection.trans part, ?_, ready ▸ readiness,
        warm ▸ warmup⟩
      intro v' hv'
      obtain rfl := Option.some.inj (hv.symm.trans hv')
      exact h
  rw [Accepted, ofDocument_accepts_iff, same.document, same.rule.isSection, others, online_iff]
  exact ⟨fun h => h.2.2.1, fun h => ⟨document, form, h, offline⟩⟩

end Agree

/-- The interval is the positive number that the value is or denotes. -/
theorem healthInterval?_eq (v : Value) : Section.healthInterval? v = positive? (interval? v) := by
  have nothing : (Text.readUnsigned? (Width.bound 64) (Text.trim "")).filter (0 < ·) = none := by
    decide +kernel
  unfold Section.healthInterval? Section.read? fieldOr interval?
  cases field? Section.delay.names v "healthCheckIntervalSecond" with
  | none => exact nothing
  | some x =>
    cases x with
    | number n =>
      cases n with
      | natural n =>
        show (Text.readUnsigned? (Width.bound 64)
          (Text.trim (String.ofList (Json.natChars n)))).filter (0 < ·) = _
        rw [Text.readUnsigned?_natChars, positive?]
        by_cases small : n < Width.bound 64
        · by_cases pos : 0 < n
          · simp [small, pos]
          · simp [Nat.eq_zero_of_not_pos pos]
        · simp [small]
      | negative n => exact nothing
      | decimal s m e => exact nothing
    | string s => rfl
    | null => exact nothing
    | bool b => exact nothing
    | array items => exact nothing
    | object ms => exact nothing

end RuleDocument

namespace GracefulSettings

open RuleDocument

variable (g : GracefulSettings)

/-- An interval that is no positive number turns the delay off and leaves all other sections as they
are, exactly if it can be read; else the whole rule is dropped. -/
theorem unusable_interval_iff (on : g.enabled = true) {d e v w : Value}
    (same : AgreeButInterval d e v w) (accepted : Accepted e)
    (enables : Section.delay.enables v = true)
    (kind : DelayKind.ofText? (Section.strategy v) = some .byHealthCheck)
    (unusable : positive? (interval? v) = none) :
    ((g.resolveDocument d).delay = ⟨false, .unsupported DelayKind.byHealthCheck.name⟩ ∧
        (∀ σ : Section, σ ≠ .delay → σ.part (g.resolveDocument d) = σ.part (g.resolveDocument e)) ↔
      isReadable (interval? v) = true) ∧
    (isReadable (interval? v) = false → g.resolveDocument d = g.localPolicy) := by
  have dropped (unreadable : isReadable (interval? v) = false) :
      g.resolveDocument d = g.localPolicy := by
    refine g.resolve_rejected fun h => ?_
    rw [accepted_iff same accepted, unreadable] at h
    cases h
  refine ⟨⟨fun h => ?_, fun readable => ?_⟩, dropped⟩
  · cases unreadable : isReadable (interval? v) with
    | true => rfl
    | false =>
      have off := h.1
      rw [dropped unreadable, localPolicy, if_pos on] at off
      exact absurd (congrArg DelayPolicy.strategy off) (g.localStrategy_ne_unsupported _)
  · have accepts : Accepted d := (accepted_iff same accepted).mpr readable
    obtain ⟨a, -, ha, -, -, hv, -⟩ := same.online
    have value : Section.delay.value? d = some v := by
      rw [Section.value?, ha]
      exact hv
    refine ⟨?_, fun σ other => ?_⟩
    · rw [g.delay_switchedOn on accepts value enables, delayOf, kind, healthInterval?_eq, unusable]
    · rw [g.part_resolve on accepts, g.part_resolve on accepted, value?_eq same other]

/-! ## A rule that is dropped for its interval -/

/-- A section that asks for health checks in the given interval. -/
def checkedDelay (interval : Value) : Value :=
  .object [("enable", .bool true), ("strategy", .string "DELAY_BY_HEALTH_CHECK"),
    ("healthCheckIntervalSecond", interval)]

/-- A document with that section that switches on readiness and the way offline, too. -/
def checkedDocument (interval : Value) : Value :=
  .object [("losslessOnline", .object [("delayRegister", checkedDelay interval),
      ("readiness", .object [("enable", .bool true)])]),
    ("losslessOffline", .object [("enable", .bool true)])]

theorem agreeButInterval_checkedDocument (x y : Value) :
    AgreeButInterval (checkedDocument x) (checkedDocument y) (checkedDelay x) (checkedDelay y) where
  document := rfl
  rule := ⟨rfl, by simp [root, checkedDocument, field?, Value.member?]⟩
  online := ⟨_, _, rfl, rfl, ⟨rfl, by simp [field?, Value.member?]⟩, rfl, rfl⟩
  delay := ⟨rfl, by simp [checkedDelay, field?, Value.member?, Section.names]⟩

theorem accepted_checkedDocument : Accepted (checkedDocument (.string "5")) := by
  refine ofDocument_accepts_iff.mpr ⟨rfl, rfl, ?_, ?_⟩
  · rintro a ⟨⟩
    refine online_accepts_iff.mpr ⟨rfl, ?_, ?_, ?_⟩
    · rintro v ⟨⟩
      refine delay_accepts_iff.mpr ⟨rfl, ?_, ?_, ?_, ?_⟩
      · rintro b ⟨⟩
        exact ⟨true, rfl⟩
      · rintro b ⟨⟩
        exact ⟨some _, rfl⟩
      · rintro b ⟨⟩
      · rintro b ⟨⟩
        exact ⟨some _, rfl⟩
    · rintro v ⟨⟩
      exact ⟨true, toggle_enable true⟩
    · rintro v ⟨⟩
  · rintro v ⟨⟩
    exact ⟨true, toggle_enable true⟩

/-- A text that denotes no number turns the delay off, and a truth value drops the rule. -/
theorem unusable_intervals_checked :
    ((resolveDocument { enabled := true } (checkedDocument (.string "soon"))).delay =
        ⟨false, .unsupported "DELAY_BY_HEALTH_CHECK"⟩ ∧
      ∀ σ : Section, σ ≠ .delay →
        σ.part (resolveDocument { enabled := true } (checkedDocument (.string "soon"))) =
          σ.part (resolveDocument { enabled := true } (checkedDocument (.string "5")))) ∧
    resolveDocument { enabled := true } (checkedDocument (.bool true)) =
      localPolicy { enabled := true } :=
  ⟨(unusable_interval_iff { enabled := true } rfl
      (agreeButInterval_checkedDocument (.string "soon") (.string "5")) accepted_checkedDocument rfl
      rfl (by decide +kernel)).1.mpr rfl,
    (unusable_interval_iff { enabled := true } rfl
      (agreeButInterval_checkedDocument (.bool true) (.string "5")) accepted_checkedDocument rfl rfl
      rfl).2 rfl⟩

/-- With a negative interval the instance is delayed as the settings say, and it shows no readiness
although the document asks for it. -/
theorem negative_interval_local :
    positive? (some (.number (.negative 5))) = none ∧
      (resolveDocument { enabled := true, delay := { enabled := true } }
        (checkedDocument (.number (.negative 5)))).delay = ⟨true, .byTime (.ofSeconds 30)⟩ ∧
      (resolveDocument { enabled := true, delay := { enabled := true } }
        (checkedDocument (.number (.negative 5)))).readiness = ⟨false, "/readiness"⟩ ∧
      (resolveDocument { enabled := true, delay := { enabled := true } }
        (checkedDocument (.string "5"))).readiness = ⟨true, "/readiness"⟩ := by
  have rejected : ¬Accepted (checkedDocument (.number (.negative 5))) := by
    rw [accepted_iff (agreeButInterval_checkedDocument _ (.string "5")) accepted_checkedDocument]
    exact Bool.false_ne_true
  refine ⟨rfl, ?_, ?_, ?_⟩
  · rw [resolve_rejected _ rejected]
    rfl
  · rw [resolve_rejected _ rejected]
    rfl
  · have h := part_switchedOn { enabled := true, delay := { enabled := true } } rfl
      accepted_checkedDocument (σ := .readiness) (v := .object [("enable", .bool true)]) rfl rfl
    rw [Policy.Part.endpoint.inj h]
    rfl

end GracefulSettings

end InstanceLifecycle
