import InstanceLifecycle.Json.Reader
import InstanceLifecycle.Proofs.Policy.HealthInterval
import InstanceLifecycle.Proofs.Rule.Alike

/-!
# Integers in a rule

A rule has five integers. Each may be given as a number or as a text that denotes it, and which of
the two it is makes no difference to any policy. Four of them are read with the document: null and a
blank text are as good as nothing there, and any other value makes the whole document unreadable.
The fifth, the interval between health checks, is kept as a text until a policy is resolved.

Results:

* `integer_eq_ok_iff`: the values that are read as integers, and as which;
* `fitsWord_of_readNumber?`: no document that was read has a number too large for that;
* `IntegerField.value?_replace`: a document with another value for an integer;
* `IntegerField.ofDocument_edit`, `IntegerField.accepted_edit`: a document in which the section of
  an integer has changed;
* `GracefulSettings.resolve_agreeing`: two documents with the same interval between health checks;
* `reads_integers`: all of it.
-/

namespace InstanceLifecycle

open Json (Value)

namespace RuleDocument

/-! ## What values mean -/

/-- What a value means as an integer that may be missing. -/
inductive Means : Value → Option Nat → Prop
  | null : Means .null none
  | number {n : Nat} (fits : n < Width.bound 64) : Means (.nat n) (some n)
  | text {s : String} {n : Nat} (denotes : Text.Denotes s n) (fits : n < Width.bound 64) :
    Means (.string s) (some n)
  | blank {s : String} (blank : Text.trim s = "") : Means (.string s) none

/-- Whether a value fits a word if it is a natural number. -/
def FitsWord (v : Value) : Prop := ∀ n, v = .nat n → n < Width.bound 64

/-- The numbers that a reader makes fit a word. -/
theorem fitsWord_of_readNumber? {cs rest : List Char} {x : Json.Number}
    (h : Json.readNumber? cs = some (x, rest)) : FitsWord (.number x) := by
  rintro n ⟨⟩
  simp only [Json.readNumber?, Option.bind_eq_bind, Option.bind_eq_some_iff] at h
  obtain ⟨whole, -, places, -, exponent, -, m, -, made⟩ := h
  grind

theorem Means.integer_eq {v : Value} {x : Option Nat} (h : Means v x) : integer v = .ok x := by
  cases h with
  | null => rfl
  | number => rfl
  | text denotes fits =>
    refine integer_text (Bool.eq_false_iff.mpr fun blank => ?_)
      (Text.readUnsigned?_eq_some_iff.mpr ⟨denotes, fits⟩)
    exact denotes.not_blank (Text.trim_eq_empty_iff.mpr blank)
  | blank blank => rw [integer, if_pos (Text.trim_eq_empty_iff.mp blank)]

/-- A value is read as an integer exactly if it means one. -/
theorem integer_eq_ok_iff {v : Value} (word : FitsWord v) {x : Option Nat} :
    integer v = .ok x ↔ Means v x := by
  refine ⟨fun h => ?_, Means.integer_eq⟩
  cases v with
  | null =>
    obtain rfl := Except.ok.inj h
    exact .null
  | number n =>
    cases n with
    | natural n =>
      obtain rfl := Except.ok.inj h
      exact .number (word n rfl)
    | _ => cases h
  | string s =>
    simp only [integer] at h
    split at h
    · next blank =>
      obtain rfl := Except.ok.inj h
      exact .blank (Text.trim_eq_empty_iff.mpr blank)
    · split at h
      · next n read =>
        obtain rfl := Except.ok.inj h
        obtain ⟨denotes, fits⟩ := Text.readUnsigned?_eq_some_iff.mp read
        exact .text denotes fits
      · cases h
  | _ => cases h

/-! ## The integers of a rule -/

/-- The integers of a rule. -/
inductive IntegerField
  | interval | healthInterval
  | warmupInterval | curvature | threshold
  deriving DecidableEq, Repr

/-- Changes the rule of a document. -/
def onRoot (f : Value → Value) : Value → Value
  | .array (v :: vs) => .array (f v :: vs)
  | v => f v

namespace IntegerField

/-- The section of an integer, by its name in the part on bringing instances up, and its kind. -/
def holder : IntegerField → String × Kind
  | interval | healthInterval => ("delayRegister", .delay)
  | warmupInterval | curvature | threshold => ("warmup", .warmup)

/-- The names of the fields of that section. -/
def names (F : IntegerField) : List String := F.holder.2.names

/-- The name of an integer in its section. -/
def name : IntegerField → String
  | interval | warmupInterval => "intervalSecond"
  | healthInterval => "healthCheckIntervalSecond"
  | curvature => "curvature"
  | threshold => "overloadProtectionThreshold"

/-- What an integer is read as; one of them is kept as a text. -/
def kind : IntegerField → Kind
  | healthInterval => .integerText
  | interval | warmupInterval | curvature | threshold => .integer

/-- What a document has for the section of an integer, if it is not null. -/
def section? (F : IntegerField) (d : Value) : Option Value :=
  (online? d).bind (onlineField? · F.holder.1)

/-- What a document has for an integer. -/
def value? (F : IntegerField) (d : Value) : Option Value :=
  (F.section? d).bind (field? F.names · F.name)

/-- What a rule says for an integer. -/
def number? : IntegerField → Rule → Option Nat
  | interval, r => (r.online.getD {}).delay.bind (·.intervalSecond)
  | healthInterval, r => (r.online.getD {}).delay.bind GracefulSettings.remoteHealthInterval?
  | warmupInterval, r => (r.online.getD {}).warmup.bind (·.intervalSecond)
  | curvature, r => (r.online.getD {}).warmup.bind (·.curvature)
  | threshold, r => (r.online.getD {}).warmup.bind (·.overloadProtectionThreshold)

/-- Changes the section of an integer in a document. -/
def edit (F : IntegerField) (f : Value → Value) (d : Value) : Value :=
  onRoot (update Kind.rule.names "losslessOnline" (update Kind.online.names F.holder.1 f)) d

/-- The document with another value for an integer, if it has one for it. -/
def replace (F : IntegerField) (x d : Value) : Value :=
  F.edit (update F.names F.name fun _ => x) d

/-- The document without the member for an integer. -/
def remove (F : IntegerField) (d : Value) : Value := F.edit (erase F.name) d

theorem holder_mem (F : IntegerField) : F.holder ∈ Kind.online.fields := by
  cases F <;> simp [holder, Kind.fields]

theorem field_mem (F : IntegerField) : (F.name, F.kind) ∈ F.holder.2.fields := by
  cases F <;> simp [holder, name, kind, Kind.fields, Section.names]

/-! ## A section that changes -/

/-- Where a section stands. -/
theorem place {F : IntegerField} {d v : Value} (h : F.section? d = some v) :
    ∃ a, online? d = some a ∧ field? Kind.rule.names (root d) "losslessOnline" = some a ∧
      field? Kind.online.names a F.holder.1 = some v ∧ a ≠ .null ∧ v ≠ .null := by
  obtain ⟨a, online, inner⟩ := Option.bind_eq_some_iff.mp h
  obtain ⟨part, apart⟩ := present_eq_some_iff.mp online
  obtain ⟨field, shown⟩ := present_eq_some_iff.mp inner
  exact ⟨a, online, part, field, apart, shown⟩

theorem ofDocument_eq_rule {names : List String} {d v : Value} {name : String}
    (has : field? names (root d) name = some v) : Rule.ofDocument d = rule (root d) := by
  cases d with
  | object ms => rfl
  | array items =>
    cases items with
    | nil => simp [root, field?] at has
    | cons item items => rfl
  | _ => cases has

theorem root_onRoot (names : List String) (name : String) (f : Value → Value) (d : Value) :
    root (onRoot (update names name f) d) = update names name f (root d) := by
  cases d with
  | array items =>
    cases items with
    | nil => simp [onRoot, root, update]
    | cons item items => rfl
  | _ => rfl

/-- The part on bringing instances up when a section of it has changed. -/
theorem field?_edit (F : IntegerField) (f : Value → Value) (d : Value) :
    field? Kind.rule.names (root (F.edit f d)) "losslessOnline" =
      (field? Kind.rule.names (root d) "losslessOnline").map
        (update Kind.online.names F.holder.1 f) := by
  rw [edit, root_onRoot, field?_update (by decide), if_pos rfl]

section Edit

variable {F : IntegerField} {f : Value → Value} {d v : Value} (h : F.section? d = some v)
include h

/-- Where the section stands before it has changed and then. -/
theorem place_edit (shown : f v ≠ .null) :
    ∃ a, online? d = some a ∧ onlineField? a F.holder.1 = some v ∧
      online? (F.edit f d) = some (update Kind.online.names F.holder.1 f a) ∧
      onlineField? (update Kind.online.names F.holder.1 f a) F.holder.1 = some (f v) := by
  obtain ⟨a, online, part, field, apart, there⟩ := place h
  have changed : field? Kind.rule.names (root (F.edit f d)) "losslessOnline" =
      some (update Kind.online.names F.holder.1 f a) := by rw [field?_edit, part, Option.map_some]
  exact ⟨a, online, present_eq_some_iff.mpr ⟨field, there⟩,
    present_eq_some_iff.mpr ⟨changed, update_ne_null _ _ _ apart⟩,
    present_eq_some_iff.mpr ⟨Kind.field?_update_self F.holder_mem field, shown⟩⟩

theorem ofDocument_eq :
    Rule.ofDocument d = rule (root d) ∧
      Rule.ofDocument (F.edit f d) = rule (update Kind.rule.names "losslessOnline"
        (update Kind.online.names F.holder.1 f) (root d)) := by
  obtain ⟨a, -, part, -⟩ := place h
  have changed := F.field?_edit f d
  rw [part] at changed
  exact ⟨ofDocument_eq_rule part, (ofDocument_eq_rule changed).trans (by rw [edit, root_onRoot])⟩

/-- A document holds the same rule if the section that changes is read alike. -/
theorem ofDocument_edit (same : F.holder.2.read (f v) = F.holder.2.read v) :
    Rule.ofDocument (F.edit f d) = Rule.ofDocument d := by
  obtain ⟨a, -, part, field, -⟩ := place h
  have online := Kind.read_update F.holder_mem field same
  obtain ⟨whole, changed⟩ := ofDocument_eq (f := f) h
  rw [whole, changed]
  exact Kind.read_update (k := .rule) (j := .online) (by simp [Kind.fields]) part online

/-- If a section is accepted for two reasons, one of which is that it is accepted when it has
changed, so is the document. -/
theorem accepted_edit {P : Prop}
    (reasons : (∃ y, F.holder.2.read v = .ok y) ↔ P ∧ ∃ y, F.holder.2.read (f v) = .ok y) :
    Accepted d ↔ P ∧ Accepted (F.edit f d) := by
  obtain ⟨a, -, part, field, -⟩ := place h
  have online := Kind.accepts_update F.holder_mem field reasons
  obtain ⟨whole, changed⟩ := ofDocument_eq (f := f) h
  rw [Accepted, Accepted, whole, changed]
  exact Kind.accepts_update (k := .rule) (j := .online) (by simp [Kind.fields]) part online

end Edit

/-! ## An integer that changes -/

section Replace

variable {F : IntegerField} {d x : Value} (h : F.value? d = some x)
include h

/-- The integer has the value that it was given. -/
theorem value?_replace (y : Value) : F.value? (F.replace y d) = some y := by
  obtain ⟨v, inside, has⟩ := Option.bind_eq_some_iff.mp h
  obtain ⟨-, -, -, -, -, shown⟩ := place inside
  obtain ⟨a, -, -, online, field⟩ := place_edit (f := update F.names F.name fun _ => y) inside
    (update_ne_null _ _ _ shown)
  rw [value?, section?, replace, online, Option.bind_some, field]
  exact Kind.field?_update_self F.field_mem has

/-- A document holds the same rule if an integer of it is read alike. -/
theorem ofDocument_replace {y : Value} (same : F.kind.read y = F.kind.read x) :
    Rule.ofDocument (F.replace y d) = Rule.ofDocument d := by
  obtain ⟨v, inside, has⟩ := Option.bind_eq_some_iff.mp h
  exact ofDocument_edit inside (Kind.read_update F.field_mem has same)

/-- A document holds the same rule without an integer that is read as if it were missing. -/
theorem ofDocument_remove (nothing : F.kind.read x = .ok F.kind.missing) :
    Rule.ofDocument (F.remove d) = Rule.ofDocument d := by
  obtain ⟨v, inside, has⟩ := Option.bind_eq_some_iff.mp h
  exact ofDocument_edit inside (Kind.read_erase F.field_mem has nothing)

/-- A document is accepted if the integer can be read and the document is accepted with null in its
place. -/
theorem accepted_iff_replace :
    Accepted d ↔ (∃ n, F.kind.read x = .ok n) ∧ Accepted (F.replace .null d) := by
  obtain ⟨v, inside, has⟩ := Option.bind_eq_some_iff.mp h
  have null : ∃ n, F.kind.read .null = .ok n := ⟨F.kind.missing, by cases F <;> rfl⟩
  exact accepted_edit inside
    (Kind.accepts_update F.field_mem has (iff_self_and.mpr fun _ => null))

end Replace

end IntegerField

/-! ## What is read -/

theorem Reads.bind_eq {read : Value → Except RuleError α} {v : Option Value} {x : Option α}
    (h : Reads read v x) {p : α → Option β} {q : Value → Option β}
    (field : ∀ v y, read v = .ok y → p y = q v) : x.bind p = v.bind q := by
  cases v with
  | none =>
    obtain rfl : x = none := h
    rfl
  | some v =>
    obtain ⟨y, hy, rfl⟩ := h
    exact field v y hy

namespace IntegerField

section Word

variable {F : IntegerField} (word : F.kind = .integer) {d : Value} {r : Rule}
variable (h : Rule.ofDocument d = .ok r)
include word h

/-- What a rule says for an integer stands in the section that has it. -/
theorem number?_eq :
    F.number? r =
      (F.section? d).bind fun v => (fieldOr F.names v none integer F.name).toOption.join := by
  obtain ⟨delay, -, -, warmup⟩ := reads_ofDocument h
  cases F with
  | interval => exact delay.bind_eq fun v y hy => by rw [Section.delay_fields hy]; rfl
  | healthInterval => cases word
  | warmupInterval => exact warmup.bind_eq fun v y hy => by rw [Section.warmup_fields hy]; rfl
  | curvature => exact warmup.bind_eq fun v y hy => by rw [Section.warmup_fields hy]; rfl
  | threshold => exact warmup.bind_eq fun v y hy => by rw [Section.warmup_fields hy]; rfl

/-- A missing integer is missing in the rule. -/
theorem number?_of_missing (missing : F.value? d = none) : F.number? r = none := by
  rw [number?_eq word h, Option.bind_eq_none_iff]
  intro v inside
  have absent : field? F.names v F.name = none := by
    rw [value?, inside] at missing
    exact missing
  rw [fieldOr, absent]
  rfl

/-- What a rule says for an integer is what its value means. -/
theorem means_number? {x : Value} (has : F.value? d = some x) (fits : FitsWord x) :
    Means x (F.number? r) := by
  have read := ((accepted_iff_replace has).mp ⟨r, h⟩).1
  rw [word] at read
  obtain ⟨n, read⟩ : ∃ n, integer x = .ok n := read
  obtain ⟨v, inside, field⟩ := Option.bind_eq_some_iff.mp has
  have number : F.number? r = n := by
    rw [number?_eq word h, inside, Option.bind_some, fieldOr, field]
    exact congrArg (fun e => e.toOption.join) read
  exact number ▸ (integer_eq_ok_iff fits).mp read

end Word

end IntegerField

/-! ## The interval between health checks -/

theorem agreeBut_update (names : List String) (name : String) (f : Value → Value) (v : Value) :
    AgreeBut names name v (update names name f v) where
  isSection := (isSection_congr (sameForm_update names name f v) names).symm
  fields other mem apart := by rw [field?_update mem, if_neg apart]

theorem isDocument_onRoot (names : List String) (name : String) (f : Value → Value) (d : Value) :
    isDocument (onRoot (update names name f) d) = isDocument d := by
  cases d with
  | array items =>
    cases items with
    | nil => simp [onRoot, update, isDocument]
    | cons item items => rfl
  | _ => rfl

theorem AgreeBut.symm {names : List String} {name : String} {v w : Value}
    (same : AgreeBut names name v w) : AgreeBut names name w v where
  isSection := same.isSection.symm
  fields n mem other := (same.fields n mem other).symm

theorem AgreeButInterval.symm {d e v w : Value} (same : AgreeButInterval d e v w) :
    AgreeButInterval e d w v where
  document := same.document.symm
  rule := same.rule.symm
  online := by
    obtain ⟨a, b, ha, hb, within, hv, hw⟩ := same.online
    exact ⟨b, a, hb, ha, within.symm, hw, hv⟩
  delay := same.delay.symm

theorem AgreeButInterval.value? {d e v w : Value} (same : AgreeButInterval d e v w) :
    Section.delay.value? d = some v := by
  obtain ⟨a, b, ha, hb, within, hv, hw⟩ := same.online
  rw [Section.value?, ha]
  exact hv

/-- Another value for the interval leaves all else as it is. -/
theorem agreeButInterval_replace {d x : Value} (h : IntegerField.healthInterval.value? d = some x)
    (y : Value) :
    ∃ v w, AgreeButInterval d (IntegerField.healthInterval.replace y d) v w ∧
      interval? v = some x ∧ interval? w = some y := by
  obtain ⟨v, inside, has⟩ := Option.bind_eq_some_iff.mp h
  obtain ⟨-, -, -, -, -, shown⟩ := IntegerField.place inside
  obtain ⟨a, online, field, online', field'⟩ := IntegerField.place_edit
    (f := update Section.delay.names "healthCheckIntervalSecond" fun _ => y) inside
    (update_ne_null _ _ _ shown)
  refine ⟨v, _, ⟨(isDocument_onRoot ..).symm, ?_, ⟨a, _, online, online', agreeBut_update .., field,
    field'⟩, agreeBut_update ..⟩, has, Kind.field?_update_self IntegerField.healthInterval.field_mem
    has⟩
  rw [IntegerField.replace, IntegerField.edit, IntegerField.root_onRoot]
  exact agreeBut_update ..

end RuleDocument

/-- A policy is given by its parts. -/
theorem Policy.eq_of_parts {p q : Policy} (enabled : p.enabled = q.enabled)
    (parts : ∀ σ : Section, σ.part p = σ.part q) : p = q := by
  obtain ⟨delay, readiness, offline, warmup⟩ : _ ∧ _ ∧ _ ∧ _ :=
    ⟨parts .delay, parts .readiness, parts .offline, parts .warmup⟩
  cases p
  cases q
  simp_all [Section.part]

namespace GracefulSettings

open RuleDocument

variable (g : GracefulSettings)

/-- Sections that differ in the interval set the same delay if the interval is the same. -/
theorem partOf_delay_eq {v w : Value}
    (same : AgreeBut Section.delay.names "healthCheckIntervalSecond" v w)
    (interval : positive? (interval? v) = positive? (interval? w)) :
    g.partOf .delay (some v) = g.partOf .delay (some w) := by
  have enables : Section.delay.enables v = Section.delay.enables w := by
    simp only [Section.enables, Section.flag,
      same.fields "enable" (by simp [Section.names]) (by simp)]
  have strategy : Section.strategy v = Section.strategy w := by
    simp only [Section.strategy, Section.read?, fieldOr,
      same.fields "strategy" (by simp [Section.names]) (by simp)]
  have seconds : Section.delay.number v "intervalSecond" =
      Section.delay.number w "intervalSecond" := by
    simp only [Section.number, Section.read?, fieldOr,
      same.fields "intervalSecond" (by simp [Section.names]) (by simp)]
  have checks : Section.healthInterval? v = Section.healthInterval? w := by
    rw [healthInterval?_eq, healthInterval?_eq, interval]
  simp only [partOf, switchedOn, enables, delayOf, strategy, seconds, checks]

/-- Documents that are the same but for the way in which the interval is given lead to the same
policy. -/
theorem resolve_agreeing {d e v w : Value} (same : AgreeButInterval d e v w)
    (readable : isReadable (interval? v) = true) (readable' : isReadable (interval? w) = true)
    (interval : positive? (interval? v) = positive? (interval? w)) :
    g.resolveDocument d = g.resolveDocument e := by
  by_cases accepted : Accepted e
  · have accepted' : Accepted d := (accepted_iff same accepted).mpr readable
    by_cases on : g.enabled = true
    · refine Policy.eq_of_parts ((g.enabled_resolve _).trans (g.enabled_resolve _).symm) fun σ => ?_
      rw [g.part_resolve on accepted', g.part_resolve on accepted]
      by_cases delay : σ = .delay
      · rw [delay, same.value?, same.symm.value?]
        exact g.partOf_delay_eq same.delay interval
      · rw [value?_eq same delay]
    · have off : g.enabled = false := by simpa using on
      rw [resolveDocument, resolveDocument, g.resolve_of_disabled off, g.resolve_of_disabled off]
  · have rejected : ¬Accepted d := fun h =>
      accepted ((accepted_iff same.symm h).mpr readable')
    rw [g.resolve_rejected accepted, g.resolve_rejected rejected]

/-! ## Texts for numbers -/

theorem resolveDocument_congr {d e : Value} (same : Rule.ofDocument d = Rule.ofDocument e) :
    g.resolveDocument d = g.resolveDocument e := by
  simp only [resolveDocument, resolve, usableRule?, same]

section Text

variable {d : Value} {n : Nat} {s : String} (fits : n < Width.bound 64)
variable (denotes : Text.Denotes s n)
include fits denotes

/-- A text for the interval between health checks leads to the same policy as the number. -/
theorem resolve_replace_healthInterval
    (h : IntegerField.healthInterval.value? d = some (.nat n)) :
    g.resolveDocument (IntegerField.healthInterval.replace (.string s) d) =
      g.resolveDocument d := by
  obtain ⟨v, w, same, number, text⟩ := agreeButInterval_replace h (.string s)
  have interval : positive? (some (.nat n)) = positive? (some (.string s)) := by
    show (if 0 < n ∧ n < Width.bound 64 then some n else none) =
      (Text.readUnsigned? (Width.bound 64) (Text.trim s)).filter (0 < ·)
    rw [Text.readUnsigned?_eq_some_iff.mpr ⟨denotes, fits⟩, Option.filter_some]
    simp [fits]
  refine (g.resolve_agreeing same ?_ ?_ ?_).symm
  · rw [number]
    rfl
  · rw [text]
    rfl
  · rw [number, text, interval]

/-- A text that denotes a number leads to the same policy as the number. -/
theorem resolve_replace {F : IntegerField} (h : F.value? d = some (.nat n)) :
    g.resolveDocument (F.replace (.string s) d) = g.resolveDocument d := by
  by_cases word : F.kind = .integer
  · refine g.resolveDocument_congr (IntegerField.ofDocument_replace h ?_)
    rw [word]
    exact (Means.text denotes fits).integer_eq.trans (integer_natural n).symm
  · cases F with
    | healthInterval => exact g.resolve_replace_healthInterval fits denotes h
    | _ => exact absurd rfl word

end Text

end GracefulSettings

namespace RuleDocument

/-! ## All of it -/

/-- How integers are read, and what else does not matter. -/
structure ReadsIntegers : Prop where
  /-- A number may as well be given as a text that denotes it. -/
  texts : ∀ (g : GracefulSettings) (F : IntegerField) (d : Value) (n : Nat) (s : String),
    n < Width.bound 64 → F.value? d = some (.nat n) → Text.Denotes s n →
      g.resolveDocument (F.replace (.string s) d) = g.resolveDocument d
  /-- A document is accepted if its integer means something, and if it is accepted with null in the
  place of the integer; so any value that means nothing has the whole document refused. -/
  accepted : ∀ (F : IntegerField) (d x : Value), F.kind = .integer →
    F.value? d = some x → FitsWord x →
      (Accepted d ↔ (∃ n, Means x n) ∧ Accepted (F.replace .null d))
  /-- The rule says for an integer what its value means. -/
  means : ∀ (F : IntegerField) (d x : Value) (r : Rule), F.kind = .integer →
    Rule.ofDocument d = .ok r → F.value? d = some x → FitsWord x → Means x (F.number? r)
  missing : ∀ (F : IntegerField) (d : Value) (r : Rule), F.kind = .integer →
    Rule.ofDocument d = .ok r → F.value? d = none → F.number? r = none
  /-- Null and blank texts may as well be removed. -/
  removed : ∀ (F : IntegerField) (d x : Value), F.kind = .integer →
    F.value? d = some x → Means x none → Rule.ofDocument (F.remove d) = Rule.ofDocument d
  /-- Neither members with unknown names nor the order of members matter. -/
  alike : ∀ d e : Value, AlikeDocuments d e → Rule.ofDocument d = Rule.ofDocument e

/-- How integers are read, and what else does not matter. -/
theorem reads_integers : ReadsIntegers where
  texts g _ _ _ _ fits h denotes := g.resolve_replace fits denotes h
  accepted F d x word h fits := by
    rw [IntegerField.accepted_iff_replace h, word]
    exact and_congr_left fun _ => exists_congr fun _ => integer_eq_ok_iff fits
  means F d x r word read h fits := IntegerField.means_number? word read h fits
  missing F d r word read h := IntegerField.number?_of_missing word read h
  removed F d x word h nothing := by
    refine IntegerField.ofDocument_remove h ?_
    rw [word]
    exact nothing.integer_eq
  alike _ _ h := h.ofDocument_eq

/-- A document that delays registration by time. -/
def timedDocument (interval : Value) : Value :=
  .object [("losslessOnline", .object [("delayRegister", .object [("enable", .bool true),
    ("strategy", .string "DELAY_BY_TIME"), ("intervalSecond", interval)])])]

/-- A text with blanks, a plus sign and a zero in front sets the same interval as the number, and a
decimal in its place is none, so that a document with a decimal for an interval is refused. -/
theorem reads_integers_spelled :
    (∀ g : GracefulSettings,
      g.resolveDocument (GracefulSettings.checkedDocument (.string " +045\t")) =
        g.resolveDocument (GracefulSettings.checkedDocument (.nat 45))) ∧
      IntegerField.interval.value? (timedDocument (.number (.decimal false 45 0))) =
        some (.number (.decimal false 45 0)) ∧
      ¬Accepted (timedDocument (.number (.decimal false 45 0))) := by
  have denotes : Text.Denotes " +045\t" 45 :=
    ⟨['0', '4', '5'], List.cons_ne_nil _ _, List.all_eq_true.mp rfl, rfl, .inr (by decide +kernel)⟩
  refine ⟨fun g => ?_, rfl, fun accepted => ?_⟩
  · exact reads_integers.texts g .healthInterval (GracefulSettings.checkedDocument (.nat 45)) 45
      " +045\t" (by decide) rfl denotes
  · obtain ⟨⟨n, means⟩, -⟩ := (reads_integers.accepted .interval _ _ rfl rfl (by rintro n ⟨⟩)).mp
      accepted
    cases means

end RuleDocument

end InstanceLifecycle
