import InstanceLifecycle.Proofs.Rule.Acceptance
import Mathlib.Data.List.Nodup

/-!
# Documents that say the same

What is read from a section depends on whether it is an object or an array, and on what its known
fields are read as; nothing else counts. So the order of the members of an object does not matter,
members with unknown names do not matter, and a value may be replaced by one that is read alike. All
of this goes for faults, too: the same one is reported.

Results:

* `Kind.read_congr`: what a section is read as, by its fields;
* `Kind.read_update`, `Kind.accepts_update`: a section in which one field has changed;
* `AlikeDocuments.ofDocument_eq`: documents that differ in unknown members and in the order of
  members only hold the same rule.
-/

namespace InstanceLifecycle.RuleDocument

open Json (Value)

/-! ## Kinds of values -/

/-- What a value in a document is read as. -/
inductive Kind
  | rule | online | delay | toggle | warmup
  | flag | text | integer | integerText
  deriving DecidableEq, Repr

namespace Kind

/-- The fields of a section with their kinds, in their order in an array. -/
def fields : Kind → List (String × Kind)
  | rule => [("losslessOnline", online), ("losslessOffline", toggle)]
  | online => [("delayRegister", delay), ("readiness", toggle), ("warmup", warmup)]
  | delay => Section.delay.names.zip [flag, text, integer, integerText]
  | toggle => [("enable", flag)]
  | warmup => Section.warmup.names.zip [flag, integer, integer, flag, integer]
  | flag | text | integer | integerText => []

/-- The names of the fields of a section. -/
def names (k : Kind) : List String := k.fields.map Prod.fst

/-- What is known when a value has been read; a section may be null but for the whole rule. -/
abbrev Result : Kind → Type
  | rule => Rule
  | online => Option RuleOnline
  | delay => Option RuleDelay
  | toggle => Option Bool
  | warmup => Option RuleWarmup
  | flag => Bool
  | text => Option String
  | integer => Option Nat
  | integerText => Option String

/-- What a missing value stands for. -/
def missing : (k : Kind) → k.Result
  | rule => ({} : Rule)
  | flag => false
  | online | delay | toggle | warmup | text | integer | integerText => none

/-- Reads a value. -/
def read : (k : Kind) → Value → Except RuleError k.Result
  | rule => RuleDocument.rule
  | online => nullable RuleDocument.online
  | delay => nullable RuleDocument.delay
  | toggle => nullable RuleDocument.toggle
  | warmup => nullable RuleDocument.warmup
  | flag => RuleDocument.flag
  | text => RuleDocument.text
  | integer => RuleDocument.integer
  | integerText => RuleDocument.integerText

/-- Reads a value that may be missing. -/
def found (k : Kind) : Option Value → Except RuleError k.Result
  | none => .ok k.missing
  | some v => k.read v

theorem fieldOr_eq_found (k : Kind) (names : List String) (v : Value) (name : String) :
    fieldOr names v k.missing k.read name = k.found (field? names v name) := by
  unfold fieldOr found
  cases field? names v name <;> rfl

theorem nodup_names (k : Kind) : k.names.Nodup := by
  cases k <;> decide

/-- A name stands for one field. -/
theorem kind_unique {k i j : Kind} {name : String} (hi : (name, i) ∈ k.fields)
    (hj : (name, j) ∈ k.fields) : i = j :=
  congrArg Prod.snd (List.inj_on_of_nodup_map k.nodup_names hi hj rfl)

end Kind

/-! ## What a section is read as -/

/-- Two values of one form: two objects, or two arrays of one length, or the same value. -/
inductive SameForm : Value → Value → Prop
  | refl (v : Value) : SameForm v v
  | object (ms ns : List (String × Value)) : SameForm (.object ms) (.object ns)
  | array {is js : List Value} (length : is.length = js.length) : SameForm (.array is) (.array js)

theorem inOrder_congr {v w : Value} (form : SameForm v w)
    (outcomes : List (String × Except RuleError Unit)) :
    inOrder v outcomes = inOrder w outcomes := by
  cases form with
  | refl => rfl
  | object => rfl
  | array length => rw [inOrder, inOrder, length]

theorem isSection_congr {v w : Value} (form : SameForm v w) (names : List String) :
    isSection names v = isSection names w := by
  cases form with
  | refl => rfl
  | object => rfl
  | array length => rw [isSection, isSection, length]

theorem nullable_congr {v w : Value} (form : SameForm v w)
    {read : Value → Except RuleError α} (same : read v = read w) :
    nullable read v = nullable read w := by
  cases form with
  | refl => rfl
  | object => exact congrArg (·.map some) same
  | array => exact congrArg (·.map some) same

namespace Kind

/-- Two sections of one form are read alike if their fields are. -/
theorem read_congr {k : Kind} {v w : Value} (form : SameForm v w)
    (same : ∀ f ∈ k.fields,
      f.2.found (field? k.names v f.1) = f.2.found (field? k.names w f.1)) :
    k.read v = k.read w := by
  have order := inOrder_congr form
  have field (name : String) (j : Kind) (mem : (name, j) ∈ k.fields) :
      fieldOr k.names v j.missing j.read name = fieldOr k.names w j.missing j.read name := by
    rw [fieldOr_eq_found, fieldOr_eq_found]
    exact same (name, j) mem
  cases k with
  | rule =>
    have on := field "losslessOnline" online (by simp [fields])
    have off := field "losslessOffline" toggle (by simp [fields])
    simp only [names, fields, List.map, missing, read] at on off
    simp only [read, RuleDocument.rule, on, off, order]
  | online =>
    have delay := field "delayRegister" delay (by simp [fields])
    have readiness := field "readiness" toggle (by simp [fields])
    have warmup := field "warmup" warmup (by simp [fields])
    simp only [names, fields, List.map, missing, read] at delay readiness warmup
    exact nullable_congr form (by simp only [RuleDocument.online, delay, readiness, warmup, order])
  | delay =>
    have enable := field "enable" flag (by simp [fields, Section.names])
    have strategy := field "strategy" text (by simp [fields, Section.names])
    have seconds := field "intervalSecond" integer (by simp [fields, Section.names])
    have checks := field "healthCheckIntervalSecond" integerText (by simp [fields, Section.names])
    simp only [names, fields, Section.names, List.zip_cons_cons, List.zip_nil_left, List.map,
      missing, read] at enable strategy seconds checks
    exact nullable_congr form (by
      simp only [RuleDocument.delay, enable, strategy, seconds, checks, order])
  | toggle =>
    have enable := field "enable" flag (by simp [fields])
    simp only [names, fields, List.map, missing, read] at enable
    exact nullable_congr form (by simp only [RuleDocument.toggle, enable, order])
  | warmup =>
    have enable := field "enable" flag (by simp [fields, Section.names])
    have seconds := field "intervalSecond" integer (by simp [fields, Section.names])
    have curvature := field "curvature" integer (by simp [fields, Section.names])
    have protection := field "enableOverloadProtection" flag (by simp [fields, Section.names])
    have threshold := field "overloadProtectionThreshold" integer (by simp [fields, Section.names])
    simp only [names, fields, Section.names, List.zip_cons_cons, List.zip_nil_left, List.map,
      missing, read] at enable seconds curvature protection threshold
    exact nullable_congr form (by
      simp only [RuleDocument.warmup, enable, seconds, curvature, protection, threshold, order])
  | flag | text | integer | integerText => cases form <;> rfl

end Kind

/-! ## A field that changes -/

/-- Changes what a section has at a name, if it has something there. -/
def update (names : List String) (name : String) (f : Value → Value) : Value → Value
  | .object ms => .object (ms.map fun m => if m.1 = name then (m.1, f m.2) else m)
  | .array items => .array (items.modify (names.idxOf name) f)
  | v => v

section Update

variable (names : List String) (name : String) (f : Value → Value)

theorem sameForm_update (v : Value) : SameForm (update names name f v) v := by
  cases v with
  | object ms => exact .object _ _
  | array items => exact .array (List.length_modify ..)
  | _ => exact .refl _

theorem update_ne_null {v : Value} (shown : v ≠ .null) : update names name f v ≠ .null := by
  cases v <;> simp_all [update]

end Update

/-- Removes a member from a section; an array has no members. -/
def erase (name : String) : Value → Value
  | .object ms => .object (ms.filter fun m => m.1 ≠ name)
  | v => v

theorem sameForm_erase (name : String) (v : Value) : SameForm (erase name v) v := by
  cases v with
  | object ms => exact .object _ _
  | _ => exact .refl _

theorem lookup_zip {names : List String} {name : String} (mem : name ∈ names)
    (items : List Value) : (names.zip items).lookup name = items[names.idxOf name]? := by
  induction names generalizing items with
  | nil => cases mem
  | cons n names ih =>
    cases items with
    | nil => simp
    | cons item items =>
      by_cases same : name = n
      · subst same
        simp
      · have other : (n == name) = false := by simpa using Ne.symm same
        have later : name ∈ names := (List.mem_cons.mp mem).resolve_left same
        simp [List.lookup_cons, beq_eq_false_iff_ne.mpr same, List.idxOf_cons, other, ih later]

theorem member?_update (names : List String) (name other : String) (f : Value → Value)
    (ms : List (String × Value)) :
    (update names name f (.object ms)).member? other =
      if other = name then ((Value.object ms).member? other).map f
      else (Value.object ms).member? other := by
  simp only [update, Value.member?]
  induction ms with
  | nil => simp
  | cons m ms ih => grind

/-- Only the field at the name has changed. -/
theorem field?_update {names : List String} {other : String} (mem : other ∈ names)
    (name : String) (f : Value → Value) (v : Value) :
    field? names (update names name f v) other =
      if other = name then (field? names v other).map f else field? names v other := by
  cases v with
  | object ms => exact member?_update names name other f ms
  | array items =>
    simp only [field?, update, lookup_zip mem, List.getElem?_modify]
    by_cases same : other = name
    · subst same
      cases items[names.idxOf other]? <;> simp
    · have apart : names.idxOf name ≠ names.idxOf other := fun h =>
        same ((List.idxOf_inj mem).mp h.symm)
      cases items[names.idxOf other]? <;> simp [same, apart]
  | _ => simp [field?, update, Value.member?]

theorem member?_erase (name other : String) (ms : List (String × Value)) :
    (erase name (.object ms)).member? other =
      if other = name then none else (Value.object ms).member? other := by
  simp only [erase, Value.member?]
  induction ms with
  | nil => simp
  | cons m ms ih => grind

namespace Kind

theorem mem_names {k : Kind} {g : String × Kind} (hg : g ∈ k.fields) : g.1 ∈ k.names :=
  List.mem_map_of_mem hg

/-- A section that is not null is accepted if it has the form of one and its fields are accepted. -/
theorem accepts_iff {k : Kind} {v : Value} (inner : k.fields ≠ []) (shown : v ≠ .null) :
    (∃ x, k.read v = .ok x) ↔
      isSection k.names v = true ∧ ∀ g ∈ k.fields, Accepts g.2.read (field? k.names v g.1) := by
  have whole {α : Type} (r : Value → Except RuleError α) :
      (∃ x, nullable r v = .ok x) ↔ ∃ x, r v = .ok x := by
    have null : Accepts (nullable r) (some v) ↔ Accepts r (present (some v)) := accepts_nullable_iff
    simpa [Accepts, present, shown] using null
  cases k with
  | rule =>
    refine rule_accepts_iff.trans ?_
    simp only [← accepts_nullable_iff]
    simp [fields, names, read]
  | online =>
    refine (whole _).trans (online_accepts_iff.trans ?_)
    simp only [onlineField?, ← accepts_nullable_iff]
    simp [fields, names, read]
  | delay =>
    refine (whole _).trans (delay_accepts_iff.trans ?_)
    simp [fields, names, Section.names, read]
  | toggle =>
    refine (whole _).trans (toggle_accepts_iff.trans ?_)
    simp [fields, names, read]
  | warmup =>
    refine (whole _).trans (warmup_accepts_iff.trans ?_)
    simp [fields, names, Section.names, read]
  | flag | text | integer | integerText => exact absurd rfl inner

theorem field?_update_other {k : Kind} {g : String × Kind} (hg : g ∈ k.fields) {name : String}
    (other : g.1 ≠ name) (f : Value → Value) (v : Value) :
    field? k.names (update k.names name f v) g.1 = field? k.names v g.1 := by
  rw [field?_update (mem_names hg), if_neg other]

section Changed

variable {k j : Kind} {name : String} {f : Value → Value} {v x : Value}
variable (mem : (name, j) ∈ k.fields) (has : field? k.names v name = some x)
include mem

/-- The field at the name is the one that has changed. -/
theorem eq_of_name {g : String × Kind} (hg : g ∈ k.fields) (same : g.1 = name) : g = (name, j) := by
  obtain ⟨other, i⟩ := g
  obtain rfl : other = name := same
  rw [kind_unique hg mem]

include has

theorem field?_update_self : field? k.names (update k.names name f v) name = some (f x) := by
  rw [field?_update (mem_names mem : name ∈ k.names), if_pos rfl, has, Option.map_some]

/-- A section is read alike if the field that changes is. -/
theorem read_update (same : j.read (f x) = j.read x) :
    k.read (update k.names name f v) = k.read v := by
  refine read_congr (sameForm_update ..) fun g hg => ?_
  by_cases at_name : g.1 = name
  · obtain rfl := eq_of_name mem hg at_name
    rw [field?_update_self mem has, has]
    exact same
  · rw [field?_update_other hg at_name]

/-- A section is read alike without a member that is read as if it were missing. -/
theorem read_erase (nothing : j.read x = .ok j.missing) : k.read (erase name v) = k.read v := by
  cases v with
  | object ms =>
    refine read_congr (sameForm_erase ..) fun g hg => ?_
    show g.2.found ((erase name (.object ms)).member? g.1) = _
    rw [member?_erase]
    by_cases at_name : g.1 = name
    · obtain rfl := eq_of_name mem hg at_name
      rw [if_pos rfl, has]
      exact nothing.symm
    · rw [if_neg at_name]
      rfl
  | _ => rfl

/-- If a field is accepted for two reasons, one of which is that it is accepted when it has changed,
so is the section. -/
theorem accepts_update {P : Prop}
    (reasons : (∃ y, j.read x = .ok y) ↔ P ∧ ∃ y, j.read (f x) = .ok y) :
    (∃ y, k.read v = .ok y) ↔ P ∧ ∃ y, k.read (update k.names name f v) = .ok y := by
  have inner : k.fields ≠ [] := List.ne_nil_of_mem mem
  have shown : v ≠ .null := by
    rintro rfl
    cases has
  have changed := field?_update_self (f := f) mem has
  rw [accepts_iff inner shown, accepts_iff inner (update_ne_null _ _ _ shown),
    isSection_congr (sameForm_update ..)]
  constructor
  · rintro ⟨form, all⟩
    obtain ⟨reason, accepted⟩ := reasons.mp (all _ mem x has)
    refine ⟨reason, form, fun g hg => ?_⟩
    by_cases at_name : g.1 = name
    · obtain rfl := eq_of_name mem hg at_name
      intro w hw
      obtain rfl := Option.some.inj (changed.symm.trans hw)
      exact accepted
    · rw [field?_update_other hg at_name]
      exact all g hg
  · rintro ⟨reason, form, all⟩
    refine ⟨form, fun g hg => ?_⟩
    by_cases at_name : g.1 = name
    · obtain rfl := eq_of_name mem hg at_name
      intro w hw
      obtain rfl := Option.some.inj (has.symm.trans hw)
      exact reasons.mpr ⟨reason, all _ mem _ changed⟩
    · rw [← field?_update_other hg at_name f]
      exact all g hg

end Changed

end Kind

/-! ## Members that do not matter -/

/-- Two values in the place of one kind that differ in members with unknown names and in the order
of members only, here or further inside. -/
inductive Alike : Kind → Value → Value → Prop
  | refl (k : Kind) (v : Value) : Alike k v v
  | symm {k : Kind} {v w : Value} (alike : Alike k v w) : Alike k w v
  | trans {k : Kind} {u v w : Value} (first : Alike k u v) (second : Alike k v w) : Alike k u w
  /-- The members stand in another order. -/
  | order {k : Kind} {ms ns : List (String × Value)} (distinct : (ms.map Prod.fst).Nodup)
    (perm : ms.Perm ns) : Alike k (.object ms) (.object ns)
  /-- A member is added whose name is unknown. -/
  | unknown {k : Kind} {name : String} (ms ns : List (String × Value)) (v : Value)
    (other : name ∉ k.names) : Alike k (.object (ms ++ ns)) (.object (ms ++ (name, v) :: ns))
  /-- A field is replaced by a value that is alike. -/
  | field {k j : Kind} {name : String} {v x y : Value} (mem : (name, j) ∈ k.fields)
    (has : field? k.names v name = some x) (alike : Alike j x y) :
    Alike k v (update k.names name (fun _ => y) v)

/-- Two documents whose rules are alike: objects, or lists with the rule as their first item. -/
inductive AlikeDocuments : Value → Value → Prop
  | object {ms ns : List (String × Value)} (alike : Alike .rule (.object ms) (.object ns)) :
    AlikeDocuments (.object ms) (.object ns)
  | list {v w : Value} (vs ws : List Value) (alike : Alike .rule v w) :
    AlikeDocuments (.array (v :: vs)) (.array (w :: ws))

/-- If no name occurs twice, the members are what can be found. -/
theorem member?_eq_some_iff {ms : List (String × Value)} (distinct : (ms.map Prod.fst).Nodup)
    {name : String} {v : Value} :
    (Value.object ms).member? name = some v ↔ (name, v) ∈ ms := by
  simp only [Value.member?]
  induction ms with
  | nil => simp
  | cons m ms ih => grind

theorem member?_perm {ms ns : List (String × Value)} (distinct : (ms.map Prod.fst).Nodup)
    (perm : ms.Perm ns) (name : String) :
    (Value.object ms).member? name = (Value.object ns).member? name := by
  have distinct' := (perm.map Prod.fst).nodup_iff.mp distinct
  ext v
  rw [member?_eq_some_iff distinct, member?_eq_some_iff distinct', perm.mem_iff]

theorem member?_unknown {name other : String} (apart : other ≠ name)
    (ms ns : List (String × Value)) (v : Value) :
    (Value.object (ms ++ ns)).member? other =
      (Value.object (ms ++ (name, v) :: ns)).member? other := by
  simp [Value.member?, List.find?_append, apart.symm]

/-- Values that are alike are read alike. -/
theorem Alike.read_eq {k : Kind} {v w : Value} (h : Alike k v w) : k.read v = k.read w := by
  induction h with
  | refl => rfl
  | symm _ ih => exact ih.symm
  | trans _ _ ih ih' => exact ih.trans ih'
  | order distinct perm =>
    refine Kind.read_congr (.object _ _) fun g _ => ?_
    exact congrArg g.2.found (member?_perm distinct perm g.1)
  | unknown ms ns v other =>
    refine Kind.read_congr (.object _ _) fun g hg => ?_
    refine congrArg g.2.found (member?_unknown (fun same => other ?_) ms ns v)
    exact same ▸ Kind.mem_names hg
  | field mem has _ ih => exact (Kind.read_update mem has ih.symm).symm

/-- Documents that are alike hold the same rule, or are refused for the same fault. -/
theorem AlikeDocuments.ofDocument_eq {d e : Value} (h : AlikeDocuments d e) :
    Rule.ofDocument d = Rule.ofDocument e := by
  cases h with
  | object alike => exact alike.read_eq
  | list vs ws alike => exact alike.read_eq

end InstanceLifecycle.RuleDocument
