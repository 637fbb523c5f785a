import Mathlib.Data.List.TakeDrop
import InstanceLifecycle.Json.Writer
import InstanceLifecycle.Text.Blank
import InstanceLifecycle.Text.Digits

/-!
# Digits that read back

A number is written by its decimal digits, the most significant first, and no digit is a blank. So
what is written can be read back, trimmed or not. Other texts are read as well: blanks may stand
around the digits, a plus sign before them, and the first digits may be zeros.

Results:

* `readNat?_natChars`: the digits of a number are read as this number;
* `readUnsigned?_natChars`: the same for the trimmed text, below a bound;
* `readUnsigned?_eq_some_iff`: which texts are read as a number, and as which.
-/

namespace InstanceLifecycle.Text

open Json (natChars)

/-- What is in a class of characters ends before the first character outside it. -/
theorem span_append {p : Char → Bool} {cs r : List Char} (inside : ∀ c ∈ cs, p c = true)
    (outside : ∀ c ∈ r.head?, p c = false) : (cs ++ r).span p = (cs, r) := by
  have stops : r.takeWhile p = [] ∧ r.dropWhile p = r := by
    cases r with
    | nil => exact ⟨rfl, rfl⟩
    | cons c r => simp [outside c rfl]
  rw [List.span_eq_takeWhile_dropWhile, List.takeWhile_append_of_pos inside,
    List.dropWhile_append_of_pos inside, stops.1, stops.2, List.append_nil]

theorem isDigit_of_mem_natChars {n : Nat} {c : Char} (h : c ∈ natChars n) : c.isDigit = true :=
  Nat.isDigit_of_mem_toDigits (by omega) (Nat.le_refl 10) h

theorem natChars_ne_nil (n : Nat) : natChars n ≠ [] :=
  List.ne_nil_of_length_pos Nat.length_toDigits_pos

theorem toNat_of_isDigit {c : Char} (h : c.isDigit = true) : 48 ≤ c.toNat ∧ c.toNat ≤ 57 := by
  simpa [Char.isDigit, UInt32.le_iff_toNat_le] using h

theorem digit?_of_isDigit {c : Char} (h : c.isDigit = true) :
    digit? 10 c = some (c.toNat - '0'.toNat) := by
  have range := toNat_of_isDigit h
  have zero : '0'.toNat = 48 := rfl
  simp only [digit?, zero, if_pos range]
  rw [Option.filter_some, if_pos]
  exact decide_eq_true (by omega)

/-- Digits have values, and the number with these digits is what they denote. -/
theorem readDigits {cs : List Char} (h : ∀ c ∈ cs, c.isDigit = true) :
    digits? 10 cs = some (cs.map fun c => c.toNat - '0'.toNat) := by
  induction cs with
  | nil => rfl
  | cons c cs ih =>
    have rest := ih fun d hd => h d (by simp [hd])
    rw [digits?] at rest ⊢
    rw [List.mapM_cons, digit?_of_isDigit (h c (by simp)), rest]
    rfl

/-- Only digits have values. -/
theorem isDigit_of_digit? {c : Char} {d : Nat} (h : digit? 10 c = some d) : c.isDigit = true := by
  obtain ⟨value, small⟩ := Option.filter_eq_some_iff.mp h
  have range : 48 ≤ c.toNat ∧ c.toNat ≤ 57 := by
    grind
  simpa [Char.isDigit, UInt32.le_iff_toNat_le] using range

theorem isDigit_of_readDigits {cs : List Char} {ds : List Nat} (h : digits? 10 cs = some ds) :
    ∀ c ∈ cs, c.isDigit = true := by
  induction cs generalizing ds with
  | nil => simp
  | cons c cs ih =>
    simp only [digits?, List.mapM_cons, Option.bind_eq_bind, Option.bind_eq_some_iff] at h
    obtain ⟨d, first, rest, later, -⟩ := h
    exact List.forall_mem_cons.mpr ⟨isDigit_of_digit? first, ih later⟩

theorem ofDigits_map (cs : List Char) :
    ofDigits 10 (cs.map fun c => c.toNat - '0'.toNat) = Nat.ofDigitChars 10 cs 0 := by
  simp only [ofDigits, List.foldl_map, Nat.ofDigitChars, Nat.mul_comm]

/-- What is read is the number that the digits denote. -/
theorem readNat?_eq_some_iff_ofDigitChars {cs : List Char} {n : Nat} :
    readNat? 10 cs = some n ↔
      cs ≠ [] ∧ (∀ c ∈ cs, c.isDigit = true) ∧ Nat.ofDigitChars 10 cs 0 = n := by
  rw [readNat?_eq_some_iff]
  refine and_congr_right fun _ => ⟨fun ⟨ds, read, value⟩ => ?_, fun ⟨digits, value⟩ => ?_⟩
  · have digits := isDigit_of_readDigits read
    obtain rfl := Option.some.inj ((readDigits digits).symm.trans read)
    exact ⟨digits, (ofDigits_map cs).symm.trans value⟩
  · exact ⟨_, readDigits digits, (ofDigits_map cs).trans value⟩

/-- The digits of a number are read as this number. -/
theorem readNat?_natChars (n : Nat) : readNat? 10 (natChars n) = some n :=
  readNat?_eq_some_iff_ofDigitChars.mpr ⟨natChars_ne_nil n, fun _ hc => isDigit_of_mem_natChars hc,
    Nat.ofDigitChars_toDigits (by omega) (Nat.le_refl 10)⟩

theorem isBlank_of_isDigit {c : Char} (h : c.isDigit = true) : isBlank c = false := by
  obtain ⟨low, high⟩ := toNat_of_isDigit h
  unfold isBlank
  simp only [Bool.or_eq_false_iff, Bool.and_eq_false_iff, decide_eq_false_iff_not, beq_eq_false_iff_ne]
  omega

theorem head?_ne_plus {cs : List Char} (h : ∀ c ∈ cs, c.isDigit = true) : cs.head? ≠ some '+' := by
  intro plus
  have digit := h '+' (List.mem_of_mem_head? plus)
  revert digit
  decide

/-- The digits of a number are read as this number if it is below the bound. -/
theorem readUnsigned?_natChars (bound n : Nat) :
    readUnsigned? bound (trim (String.ofList (natChars n))) =
      if n < bound then some n else none := by
  have shown : ∀ c ∈ natChars n, isBlank c = false := fun c hc =>
    isBlank_of_isDigit (isDigit_of_mem_natChars hc)
  have trimmed : trimChars (natChars n) = natChars n :=
    trimChars_eq_self (fun c hc => shown c (List.mem_of_mem_head? hc))
      (fun c hc => shown c (List.mem_of_mem_getLast? hc))
  have unsigned : (natChars n).head? ≠ some '+' :=
    head?_ne_plus fun _ hc => isDigit_of_mem_natChars hc
  rw [readUnsigned?, trim, String.toList_ofList, String.toList_ofList, trimmed, if_neg unsigned,
    readNat?_natChars, Option.filter_some]
  simp

/-! ## Texts that denote numbers -/

/-- Whether a text denotes a number: between blanks it has decimal digits, behind a plus sign or
not. -/
def Denotes (s : String) (n : Nat) : Prop :=
  ∃ ds : List Char, ds ≠ [] ∧ (∀ c ∈ ds, c.isDigit = true) ∧ Nat.ofDigitChars 10 ds 0 = n ∧
    ((trim s).toList = ds ∨ (trim s).toList = '+' :: ds)

/-- The trimmed text is read as a number exactly if it denotes this number and the number is below
the bound. -/
theorem readUnsigned?_eq_some_iff {bound n : Nat} {s : String} :
    readUnsigned? bound (trim s) = some n ↔ Denotes s n ∧ n < bound := by
  simp only [readUnsigned?, Option.filter_eq_some_iff, decide_eq_true_eq,
    readNat?_eq_some_iff_ofDigitChars]
  refine and_congr_left fun _ => ⟨fun h => ⟨_, h.1, h.2.1, h.2.2, ?_⟩, ?_⟩
  · split
    · next plus =>
      obtain ⟨rest, shape⟩ := List.head?_eq_some_iff.mp plus
      exact .inr (by rw [shape, List.tail_cons])
    · exact .inl rfl
  · rintro ⟨ds, some, digits, value, bare | signed⟩
    · rw [bare, if_neg (head?_ne_plus digits)]
      exact ⟨some, digits, value⟩
    · rw [signed, List.head?_cons, if_pos rfl]
      exact ⟨some, digits, value⟩

/-- A text that denotes a number is not blank. -/
theorem Denotes.not_blank {s : String} {n : Nat} (h : Denotes s n) : trim s ≠ "" := by
  obtain ⟨ds, some, -, -, shape⟩ := h
  intro blank
  rw [blank] at shape
  rcases shape with bare | signed
  · exact some bare.symm
  · cases signed

end InstanceLifecycle.Text
