import InstanceLifecycle.Proofs.Rule.Section

/-!
# Documents that are accepted

A section is accepted if it has the form of one and each of its fields is accepted; an unreadable
field makes the section unreadable, and with it all that the section stands in. So a document is
accepted exactly if all of its fields are.

Results:

* `inOrder_eq_ok_iff`: a section has no fault exactly if its form and all its fields are sound;
* `delay_accepts_iff`, `warmup_accepts_iff`, `toggle_accepts_iff`, `online_accepts_iff`,
  `ofDocument_accepts_iff`: what is accepted, from a section to a document.
-/

namespace InstanceLifecycle.RuleDocument

open Json (Value)

/-- Whether a value is missing or can be read. -/
def Accepts (read : Value → Except RuleError α) (v : Option Value) : Prop :=
  ∀ w, v = some w → ∃ x, read w = .ok x

/-- Whether a value has the form of a section with these fields: an object, or an array that is not
too long. -/
def isSection (names : List String) : Value → Bool
  | .object _ => true
  | .array items => items.length ≤ names.length
  | _ => false

/-- Whether a value has the form of a document: an object, or a list with a first item. -/
def isDocument : Value → Bool
  | .object _ => true
  | .array (_ :: _) => true
  | _ => false

/-! ## Fields -/

theorem outcome_eq_ok_iff {r : Except RuleError α} : outcome r = .ok () ↔ ∃ x, r = .ok x := by
  cases r <;> simp [outcome, Except.map]

theorem fieldOr_eq_ok_iff (default : α) {names : List String} {v : Value}
    {read : Value → Except RuleError α} {name : String} :
    (∃ x, fieldOr names v default read name = .ok x) ↔ Accepts read (field? names v name) := by
  unfold fieldOr Accepts
  cases field? names v name with
  | none => simp
  | some w => simp

/-- Null is accepted where nothing is. -/
theorem accepts_nullable_iff {read : Value → Except RuleError α} {v : Option Value} :
    Accepts (nullable read) v ↔ Accepts read (present v) := by
  have mapped (r : Except RuleError α) : (∃ x, r.map some = .ok x) ↔ ∃ x, r = .ok x := by
    cases r <;> simp [Except.map]
  unfold Accepts
  cases v with
  | none => simp [present]
  | some w => cases w <;> simp [present, nullable, mapped]

theorem forM_eq_ok_iff {outcomes : List (String × Except RuleError Unit)} :
    outcomes.forM Prod.snd = .ok () ↔ ∀ o ∈ outcomes, o.2 = .ok () := by
  refine ⟨fun h => ?_, forM_ok⟩
  induction outcomes with
  | nil => simp
  | cons o rest ih =>
    obtain ⟨u, first, later⟩ := bind_ok h
    intro o' ho'
    rcases List.mem_cons.mp ho' with rfl | mem
    · exact first
    · exact ih later o' mem

/-- A section has no fault exactly if it has the form of one and its fields have none. -/
theorem inOrder_eq_ok_iff {v : Value} {outcomes : List (String × Except RuleError Unit)} :
    inOrder v outcomes = .ok () ↔
      isSection (outcomes.map Prod.fst) v = true ∧ ∀ o ∈ outcomes, o.2 = .ok () := by
  cases v with
  | object ms =>
    have all : inOrder (.object ms) outcomes = .ok () ↔ ∀ o ∈ outcomes, o.2 = .ok () :=
      forM_eq_ok_iff.trans (forall_congr' fun o => by rw [List.mem_mergeSort])
    simp [all, isSection]
  | array items =>
    simp only [isSection, List.length_map, decide_eq_true_eq]
    constructor
    · intro h
      obtain ⟨⟨⟩, sound, short⟩ := bind_ok h
      refine ⟨Nat.le_of_not_lt fun long => ?_, forM_eq_ok_iff.mp sound⟩
      rw [if_pos long] at short
      cases short
    · rintro ⟨short, sound⟩
      show (outcomes.forM Prod.snd >>= fun _ => _) = _
      rw [forM_eq_ok_iff.mpr sound]
      exact if_neg (Nat.not_lt.mpr short)
  | null => simp [inOrder, isSection]
  | bool b => simp [inOrder, isSection]
  | number n => simp [inOrder, isSection]
  | string s => simp [inOrder, isSection]

/-! ## Sections -/

/-- The section on delayed registration is accepted by its fields. -/
theorem delay_accepts_iff {v : Value} :
    (∃ x, delay v = .ok x) ↔
      isSection Section.delay.names v = true ∧
        Accepts flag (field? Section.delay.names v "enable") ∧
        Accepts text (field? Section.delay.names v "strategy") ∧
        Accepts integer (field? Section.delay.names v "intervalSecond") ∧
        Accepts integerText (field? Section.delay.names v "healthCheckIntervalSecond") := by
  rw [← fieldOr_eq_ok_iff false, ← fieldOr_eq_ok_iff none,
    ← fieldOr_eq_ok_iff none, ← fieldOr_eq_ok_iff none]
  constructor
  · rintro ⟨x, h⟩
    obtain ⟨⟨⟩, sound, -⟩ := bind_ok h
    rw [inOrder_eq_ok_iff] at sound
    obtain ⟨form, fields⟩ := sound
    simp only [List.zip_cons_cons, List.forall_mem_cons, outcome_eq_ok_iff] at fields
    exact ⟨form, fields.1, fields.2.1, fields.2.2.1, fields.2.2.2.1⟩
  · rintro ⟨form, ⟨a, ha⟩, ⟨b, hb⟩, ⟨c, hc⟩, d, hd⟩
    refine ⟨⟨a, b, c, d⟩, ?_⟩
    have sound : inOrder v (Section.delay.names.zip
        [outcome (.ok a), outcome (.ok b), outcome (.ok c), outcome (.ok d)]) = .ok () :=
      inOrder_eq_ok_iff.mpr ⟨form, by simp [Section.names, outcome, Except.map]⟩
    simp only [Section.names] at ha hb hc hd sound
    simp only [delay, ha, hb, hc, hd, sound]
    rfl

/-- The section on warm-up is accepted by its fields. -/
theorem warmup_accepts_iff {v : Value} :
    (∃ x, warmup v = .ok x) ↔
      isSection Section.warmup.names v = true ∧
        Accepts flag (field? Section.warmup.names v "enable") ∧
        Accepts integer (field? Section.warmup.names v "intervalSecond") ∧
        Accepts integer (field? Section.warmup.names v "curvature") ∧
        Accepts flag (field? Section.warmup.names v "enableOverloadProtection") ∧
        Accepts integer (field? Section.warmup.names v "overloadProtectionThreshold") := by
  rw [← fieldOr_eq_ok_iff false, ← fieldOr_eq_ok_iff none, ← fieldOr_eq_ok_iff none,
    ← fieldOr_eq_ok_iff false, ← fieldOr_eq_ok_iff none]
  constructor
  · rintro ⟨x, h⟩
    obtain ⟨⟨⟩, sound, -⟩ := bind_ok h
    rw [inOrder_eq_ok_iff] at sound
    obtain ⟨form, fields⟩ := sound
    simp only [List.zip_cons_cons, List.forall_mem_cons, outcome_eq_ok_iff] at fields
    exact ⟨form, fields.1, fields.2.1, fields.2.2.1, fields.2.2.2.1, fields.2.2.2.2.1⟩
  · rintro ⟨form, ⟨a, ha⟩, ⟨b, hb⟩, ⟨c, hc⟩, ⟨d, hd⟩, e, he⟩
    refine ⟨⟨a, b, c, d, e⟩, ?_⟩
    have sound : inOrder v (Section.warmup.names.zip
        [outcome (.ok a), outcome (.ok b), outcome (.ok c), outcome (.ok d), outcome (.ok e)]) =
          .ok () :=
      inOrder_eq_ok_iff.mpr ⟨form, by simp [Section.names, outcome, Except.map]⟩
    simp only [Section.names] at ha hb hc hd he sound
    simp only [warmup, ha, hb, hc, hd, he, sound]
    rfl

/-- A section with nothing but a flag is accepted by this flag. -/
theorem toggle_accepts_iff {v : Value} :
    (∃ x, toggle v = .ok x) ↔
      isSection ["enable"] v = true ∧ Accepts flag (field? ["enable"] v "enable") := by
  rw [← fieldOr_eq_ok_iff false]
  constructor
  · rintro ⟨x, h⟩
    obtain ⟨⟨⟩, sound, enable⟩ := bind_ok h
    exact ⟨(inOrder_eq_ok_iff.mp sound).1, x, enable⟩
  · rintro ⟨form, b, hb⟩
    have sound : inOrder v [("enable", outcome (.ok b))] = .ok () :=
      inOrder_eq_ok_iff.mpr ⟨form, by simp [outcome, Except.map]⟩
    refine ⟨b, ?_⟩
    simp only [toggle, hb, sound]
    rfl

/-- The part on bringing instances up is accepted by its sections. -/
theorem online_accepts_iff {v : Value} :
    (∃ x, online v = .ok x) ↔
      isSection ["delayRegister", "readiness", "warmup"] v = true ∧
        Accepts delay (onlineField? v "delayRegister") ∧
        Accepts toggle (onlineField? v "readiness") ∧
        Accepts warmup (onlineField? v "warmup") := by
  simp only [onlineField?]
  rw [← accepts_nullable_iff, ← accepts_nullable_iff, ← accepts_nullable_iff,
    ← fieldOr_eq_ok_iff none, ← fieldOr_eq_ok_iff none,
    ← fieldOr_eq_ok_iff none]
  constructor
  · rintro ⟨x, h⟩
    obtain ⟨⟨⟩, sound, -⟩ := bind_ok h
    rw [inOrder_eq_ok_iff] at sound
    obtain ⟨form, fields⟩ := sound
    simp only [List.zip_cons_cons, List.forall_mem_cons, outcome_eq_ok_iff] at fields
    exact ⟨form, fields.1, fields.2.1, fields.2.2.1⟩
  · rintro ⟨form, ⟨a, ha⟩, ⟨b, hb⟩, c, hc⟩
    refine ⟨⟨a, b, c⟩, ?_⟩
    have sound : inOrder v (["delayRegister", "readiness", "warmup"].zip
        [outcome (.ok a), outcome (.ok b), outcome (.ok c)]) = .ok () :=
      inOrder_eq_ok_iff.mpr ⟨form, by simp [outcome, Except.map]⟩
    simp only [online, ha, hb, hc, sound]
    rfl

/-- A rule is accepted by its parts. -/
theorem rule_accepts_iff {v : Value} :
    (∃ x, rule v = .ok x) ↔
      isSection ["losslessOnline", "losslessOffline"] v = true ∧
        Accepts online
          (present (field? ["losslessOnline", "losslessOffline"] v "losslessOnline")) ∧
        Accepts toggle
          (present (field? ["losslessOnline", "losslessOffline"] v "losslessOffline")) := by
  rw [← accepts_nullable_iff, ← accepts_nullable_iff, ← fieldOr_eq_ok_iff none,
    ← fieldOr_eq_ok_iff none]
  constructor
  · rintro ⟨x, h⟩
    obtain ⟨⟨⟩, sound, -⟩ := bind_ok h
    rw [inOrder_eq_ok_iff] at sound
    obtain ⟨form, fields⟩ := sound
    simp only [List.zip_cons_cons, List.forall_mem_cons, outcome_eq_ok_iff] at fields
    exact ⟨form, fields.1, fields.2.1⟩
  · rintro ⟨form, ⟨a, ha⟩, b, hb⟩
    refine ⟨⟨a, b⟩, ?_⟩
    have sound : inOrder v (["losslessOnline", "losslessOffline"].zip
        [outcome (.ok a), outcome (.ok b)]) = .ok () :=
      inOrder_eq_ok_iff.mpr ⟨form, by simp [outcome, Except.map]⟩
    simp only [rule, ha, hb, sound]
    rfl

/-- A document is accepted if it has the form of one and holds a rule that is accepted. -/
theorem ofDocument_accepts_iff {d : Value} :
    (∃ r, Rule.ofDocument d = .ok r) ↔
      isDocument d = true ∧ isSection ["losslessOnline", "losslessOffline"] (root d) = true ∧
        Accepts online (online? d) ∧ Accepts toggle (Section.offline.value? d) := by
  have held : (∃ r, Rule.ofDocument d = .ok r) ↔
      isDocument d = true ∧ ∃ r, rule (root d) = .ok r := by
    unfold Rule.ofDocument
    split <;> simp_all [isDocument, root]
  rw [held, rule_accepts_iff]
  rfl

end InstanceLifecycle.RuleDocument
