/-!
# White space and trimming

White space is the Unicode property of that name: the horizontal and vertical ASCII blanks, the
next-line and no-break characters and the typographic spaces. Trimming removes it from both ends
of a text and touches nothing in between.

Results:

* `trimChars_eq_self`: a list that neither starts nor ends with a blank is left alone;
* `trimChars_trimChars`: trimming twice is trimming once;
* `trim_eq_empty_iff`: blanks are trimmed to nothing, and only blanks are.
-/

namespace InstanceLifecycle.Text

/-! ## The character class -/

/-- The characters with the Unicode property `White_Space`. -/
def isBlank (c : Char) : Bool :=
  let n := c.toNat
  (9 ≤ n && n ≤ 13) || n == 0x20 || n == 0x85 || n == 0xA0 || n == 0x1680 ||
    (0x2000 ≤ n && n ≤ 0x200A) || n == 0x2028 || n == 0x2029 || n == 0x202F || n == 0x205F ||
    n == 0x3000

/-! ## Trimming -/

/-- The characters without the blanks at either end. -/
def trimChars (cs : List Char) : List Char :=
  ((cs.dropWhile isBlank).reverse.dropWhile isBlank).reverse

/-- The text without the blanks at either end. -/
def trim (s : String) : String :=
  String.ofList (trimChars s.toList)

/-- A text of blanks only; the empty text is one. -/
def isBlankText (s : String) : Bool :=
  s.toList.all isBlank

theorem dropWhile_eq_self {p : Char → Bool} {cs : List Char} (h : ∀ c ∈ cs.head?, p c = false) :
    cs.dropWhile p = cs := by
  cases cs with
  | nil => rfl
  | cons c r => simp [h c (by simp)]

theorem head?_dropWhile {p : Char → Bool} {cs : List Char} :
    ∀ c ∈ (cs.dropWhile p).head?, p c = false := by
  induction cs with
  | nil => simp
  | cons c r ih =>
    by_cases h : p c = true
    · simpa [h] using ih
    · simp [h]

theorem getLast?_dropWhile {p : Char → Bool} {cs : List Char} (h : cs.dropWhile p ≠ []) :
    (cs.dropWhile p).getLast? = cs.getLast? := by
  induction cs with
  | nil => rfl
  | cons c r ih =>
    by_cases hc : p c = true
    · simp only [List.dropWhile_cons, hc, if_true] at h ⊢
      rw [ih h]
      cases r with
      | nil => simp at h
      | cons d t => simp
    · simp [hc]

/-- A list that neither starts nor ends with a blank is left alone. -/
theorem trimChars_eq_self {cs : List Char} (hh : ∀ c ∈ cs.head?, isBlank c = false)
    (hl : ∀ c ∈ cs.getLast?, isBlank c = false) : trimChars cs = cs := by
  rw [trimChars, dropWhile_eq_self hh, dropWhile_eq_self (by simpa using hl), List.reverse_reverse]

/-- What trimming leaves does not start with a blank. -/
theorem head?_trimChars (cs : List Char) : ∀ c ∈ (trimChars cs).head?, isBlank c = false := by
  intro c hc
  rw [trimChars, List.head?_reverse] at hc
  by_cases h : (cs.dropWhile isBlank).reverse.dropWhile isBlank = []
  · simp [h] at hc
  · rw [getLast?_dropWhile h, List.getLast?_reverse] at hc
    exact head?_dropWhile c hc

/-- What trimming leaves does not end with a blank. -/
theorem getLast?_trimChars (cs : List Char) : ∀ c ∈ (trimChars cs).getLast?, isBlank c = false := by
  intro c hc
  rw [trimChars, List.getLast?_reverse] at hc
  exact head?_dropWhile c hc

/-- Trimming twice is trimming once. -/
theorem trimChars_trimChars (cs : List Char) : trimChars (trimChars cs) = trimChars cs :=
  trimChars_eq_self (head?_trimChars cs) (getLast?_trimChars cs)

theorem trim_trim (s : String) : trim (trim s) = trim s := by
  simp [trim, trimChars_trimChars]

/-- Characters of which nothing remains are dropped one and all. -/
theorem all_of_dropWhile_eq_nil {p : Char → Bool} {cs : List Char} (h : cs.dropWhile p = []) :
    cs.all p = true := by
  have hcs := List.takeWhile_append_dropWhile (p := p) (l := cs)
  rw [h, List.append_nil] at hcs
  rw [← hcs]
  exact List.all_takeWhile

/-- A text of which trimming leaves nothing consists of blanks only. -/
theorem isBlankText_of_trim_eq_empty {s : String} (h : trim s = "") : isBlankText s = true := by
  have hchars : trimChars s.toList = [] := by
    have := congrArg String.toList h
    rwa [trim, String.toList_ofList] at this
  have hblanks := all_of_dropWhile_eq_nil (List.reverse_eq_nil_iff.mp hchars)
  cases hd : s.toList.dropWhile isBlank with
  | nil => exact all_of_dropWhile_eq_nil hd
  | cons c r =>
    have hblank : isBlank c = true := List.all_eq_true.mp hblanks c (by simp [hd])
    have hshown : isBlank c = false := head?_dropWhile c (by rw [hd]; rfl)
    rw [hblank] at hshown
    cases hshown

/-- Trimming leaves nothing of blanks, and only of blanks. -/
theorem trim_eq_empty_iff {s : String} : trim s = "" ↔ isBlankText s = true := by
  refine ⟨isBlankText_of_trim_eq_empty, fun blank => ?_⟩
  cases hd : s.toList.dropWhile isBlank with
  | nil =>
    rw [trim, trimChars, hd]
    rfl
  | cons c r =>
    have hmem : c ∈ s.toList := (List.dropWhile_sublist _).mem (hd ▸ List.mem_cons_self)
    have hshown : isBlank c = false := head?_dropWhile c (by rw [hd]; rfl)
    rw [List.all_eq_true.mp blank c hmem] at hshown
    cases hshown

end InstanceLifecycle.Text
