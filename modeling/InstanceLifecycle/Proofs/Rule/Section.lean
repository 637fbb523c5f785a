import InstanceLifecycle.Rule.Document

/-!
# Sections of a rule document

A rule document has four sections: on delayed registration, on the readiness probe, on the offline
probe and on warm-up. Each stands at a place of its own, in an object or in an array; null is the
same as nothing. A document is accepted or rejected as a whole, but what an accepted one says about
a section can be read off that section alone.

Results:

* `reads_ofDocument`: each section of an accepted rule is what the document has at its place;
* `Section.delay_fields`, `Section.warmup_fields`, `Section.toggle_fields`: a section by its fields.
-/

namespace InstanceLifecycle

open Json (Value)

/-- The sections of a rule. -/
inductive Section
  | delay
  | readiness
  | offline
  | warmup
  deriving DecidableEq, Repr

namespace RuleDocument

/-! ## Places -/

/-- A value that is there and not null. -/
def present : Option Value → Option Value
  | some .null => none
  | v => v

theorem present_eq_some_iff {x : Option Value} {v : Value} :
    present x = some v ↔ x = some v ∧ v ≠ .null := by
  unfold present
  split
  · grind
  · next other => exact ⟨fun h => ⟨h, fun null => other (null ▸ h)⟩, And.left⟩

/-- The rule of a document: itself, or the first item of a list. -/
def root : Value → Value
  | .array (v :: _) => v
  | v => v

/-- The part of a document on bringing instances up. -/
def online? (d : Value) : Option Value :=
  present (field? ["losslessOnline", "losslessOffline"] (root d) "losslessOnline")

/-- What a part on bringing instances up has at a name. -/
def onlineField? (v : Value) (name : String) : Option Value :=
  present (field? ["delayRegister", "readiness", "warmup"] v name)

end RuleDocument

namespace Section

open RuleDocument

/-- What a document has for a section, if it is not null. -/
def value? (d : Value) : Section → Option Value
  | delay => (online? d).bind (onlineField? · "delayRegister")
  | readiness => (online? d).bind (onlineField? · "readiness")
  | offline => present (field? ["losslessOnline", "losslessOffline"] (root d) "losslessOffline")
  | warmup => (online? d).bind (onlineField? · "warmup")

/-- The names of the fields of a section, in their order in an array. -/
def names : Section → List String
  | delay => ["enable", "strategy", "intervalSecond", "healthCheckIntervalSecond"]
  | readiness => ["enable"]
  | offline => ["enable"]
  | warmup =>
    ["enable", "intervalSecond", "curvature", "enableOverloadProtection",
      "overloadProtectionThreshold"]

/-- What a section has at the name of a flag; a missing flag is down. -/
def flag (σ : Section) (v : Value) (name : String) : Bool :=
  match field? σ.names v name with
  | some (.bool b) => b
  | _ => false

/-- Whether a section is switched on. -/
def enables (σ : Section) (v : Value) : Bool := σ.flag v "enable"

/-- What a reader finds in a section at a name, if there is something. -/
def read? (σ : Section) (read : Value → Except RuleError (Option α)) (v : Value) (name : String) :
    Option α :=
  (fieldOr σ.names v none read name).toOption.join

end Section

namespace RuleDocument

/-! ## Reading -/

/-- What is read from a value that may be missing: nothing, or what the reader makes of it. -/
def Reads (read : Value → Except RuleError α) : Option Value → Option α → Prop
  | none, x => x = none
  | some v, x => ∃ y, read v = .ok y ∧ x = some y

theorem bind_ok {x : Except RuleError α} {f : α → Except RuleError β} {b : β}
    (h : (x >>= f) = .ok b) : ∃ a, x = .ok a ∧ f a = .ok b := by
  cases x with
  | error e => cases h
  | ok a => exact ⟨a, rfl, h⟩

theorem reads_fieldOr {names : List String} {v : Value} {read : Value → Except RuleError α}
    {name : String} {x : Option α} (h : fieldOr names v none (nullable read) name = .ok x) :
    Reads read (present (field? names v name)) x := by
  unfold fieldOr at h
  cases hf : field? names v name with
  | none =>
    rw [hf] at h
    exact (Except.ok.inj h).symm
  | some w =>
    rw [hf] at h
    cases w with
    | null => exact (Except.ok.inj h).symm
    | _ =>
      simp only [nullable, Except.map] at h
      split at h
      · cases h
      · next y hy => exact ⟨y, hy, (Except.ok.inj h).symm⟩

/-- A flag that may be left out. -/
theorem flag_fieldOr {σ : Section} {v : Value} {name : String} {b : Bool}
    (h : fieldOr σ.names v false flag name = .ok b) : b = σ.flag v name := by
  unfold fieldOr at h
  unfold Section.flag
  cases hf : field? σ.names v name with
  | none =>
    rw [hf] at h
    exact (Except.ok.inj h).symm
  | some w =>
    rw [hf] at h
    cases w with
    | bool c => exact (Except.ok.inj h).symm
    | _ => cases h

theorem read?_fieldOr {σ : Section} {v : Value} {name : String}
    {read : Value → Except RuleError (Option α)} {x : Option α}
    (h : fieldOr σ.names v none read name = .ok x) : x = σ.read? read v name := by
  rw [Section.read?, h]
  rfl

theorem reads_online {v : Value} {o : RuleOnline} (h : online v = .ok o) :
    Reads delay (onlineField? v "delayRegister") o.delay ∧
      Reads toggle (onlineField? v "readiness") o.readiness ∧
      Reads warmup (onlineField? v "warmup") o.warmup := by
  obtain ⟨-, -, h⟩ := bind_ok h
  obtain ⟨x, hx, h⟩ := bind_ok h
  obtain ⟨y, hy, h⟩ := bind_ok h
  obtain ⟨z, hz, h⟩ := bind_ok h
  obtain rfl := Except.ok.inj h
  exact ⟨reads_fieldOr hx, reads_fieldOr hy, reads_fieldOr hz⟩

theorem reads_rule {v : Value} {r : Rule} (h : rule v = .ok r) :
    Reads online (present (field? ["losslessOnline", "losslessOffline"] v "losslessOnline"))
        r.online ∧
      Reads toggle (present (field? ["losslessOnline", "losslessOffline"] v "losslessOffline"))
        r.offline := by
  obtain ⟨-, -, h⟩ := bind_ok h
  obtain ⟨x, hx, h⟩ := bind_ok h
  obtain ⟨y, hy, h⟩ := bind_ok h
  obtain rfl := Except.ok.inj h
  exact ⟨reads_fieldOr hx, reads_fieldOr hy⟩

theorem rule_root {d : Value} {r : Rule} (h : Rule.ofDocument d = .ok r) :
    rule (root d) = .ok r := by
  unfold Rule.ofDocument at h
  split at h
  · exact h
  · cases h
  · exact h
  · cases h

/-- A section of the part on bringing instances up is read from its place, or missing with
the part. -/
theorem reads_within {d : Value} {r : Rule} {read : Value → Except RuleError α} {name : String}
    {p : RuleOnline → Option α} (none : p {} = none)
    (h : Reads online (online? d) r.online)
    (hp : ∀ v o, online v = .ok o → Reads read (onlineField? v name) (p o)) :
    Reads read ((online? d).bind (onlineField? · name)) (p (r.online.getD {})) := by
  cases hv : online? d with
  | none =>
    rw [hv] at h
    rw [show r.online = .none from h]
    exact none
  | some v =>
    rw [hv] at h
    obtain ⟨o, ho, hr⟩ := h
    rw [hr]
    exact hp v o ho

/-- Each section of an accepted rule is what the document has at its place. -/
theorem reads_ofDocument {d : Value} {r : Rule} (h : Rule.ofDocument d = .ok r) :
    Reads delay (Section.delay.value? d) (r.online.getD {}).delay ∧
      Reads toggle (Section.readiness.value? d) (r.online.getD {}).readiness ∧
      Reads toggle (Section.offline.value? d) r.offline ∧
      Reads warmup (Section.warmup.value? d) (r.online.getD {}).warmup := by
  obtain ⟨hon, hoff⟩ := reads_rule (rule_root h)
  refine ⟨?_, ?_, hoff, ?_⟩
  · exact reads_within (p := (·.delay)) rfl hon fun v o ho => (reads_online ho).1
  · exact reads_within (p := (·.readiness)) rfl hon fun v o ho => (reads_online ho).2.1
  · exact reads_within (p := (·.warmup)) rfl hon fun v o ho => (reads_online ho).2.2

end RuleDocument

/-! ## Fields -/

namespace Section

open RuleDocument

/-- The section on delayed registration by its fields. -/
theorem delay_fields {v : Value} {x : RuleDelay} (h : RuleDocument.delay v = .ok x) :
    x = ⟨delay.enables v, delay.read? text v "strategy", delay.read? integer v "intervalSecond",
      delay.read? integerText v "healthCheckIntervalSecond"⟩ := by
  obtain ⟨-, -, h⟩ := bind_ok h
  obtain ⟨enable, he, h⟩ := bind_ok h
  obtain ⟨strategy, hs, h⟩ := bind_ok h
  obtain ⟨interval, hi, h⟩ := bind_ok h
  obtain ⟨healthInterval, hh, h⟩ := bind_ok h
  rw [← Except.ok.inj h, flag_fieldOr (σ := delay) he, read?_fieldOr (σ := delay) hs,
    read?_fieldOr (σ := delay) hi, read?_fieldOr (σ := delay) hh]
  rfl

/-- The section on warm-up by its fields. -/
theorem warmup_fields {v : Value} {x : RuleWarmup} (h : RuleDocument.warmup v = .ok x) :
    x = ⟨warmup.enables v, warmup.read? integer v "intervalSecond",
      warmup.read? integer v "curvature", warmup.flag v "enableOverloadProtection",
      warmup.read? integer v "overloadProtectionThreshold"⟩ := by
  obtain ⟨-, -, h⟩ := bind_ok h
  obtain ⟨enable, he, h⟩ := bind_ok h
  obtain ⟨interval, hi, h⟩ := bind_ok h
  obtain ⟨curvature, hc, h⟩ := bind_ok h
  obtain ⟨protection, hp, h⟩ := bind_ok h
  obtain ⟨threshold, ht, h⟩ := bind_ok h
  rw [← Except.ok.inj h, flag_fieldOr (σ := warmup) he, read?_fieldOr (σ := warmup) hi,
    read?_fieldOr (σ := warmup) hc, flag_fieldOr (σ := warmup) hp, read?_fieldOr (σ := warmup) ht]
  rfl

/-- The sections on the probes have nothing but a flag. -/
theorem toggle_fields {v : Value} {b : Bool} (h : toggle v = .ok b) :
    b = readiness.enables v ∧ b = offline.enables v := by
  obtain ⟨-, -, h⟩ := bind_ok h
  exact ⟨flag_fieldOr (σ := readiness) h, flag_fieldOr (σ := offline) h⟩

end Section

end InstanceLifecycle
