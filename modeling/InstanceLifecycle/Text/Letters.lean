/-!
# Upper case

Names in settings are compared in upper case. Only the ASCII letters have one here.

Results:

* `upper_upper`: changing to upper case twice is changing once.
-/

namespace InstanceLifecycle.Text

/-- The text with its ASCII letters in upper case. -/
def upper (s : String) : String := String.ofList (s.toList.map Char.toUpper)

/-- The text with its ASCII letters in lower case. -/
def lower (s : String) : String := String.ofList (s.toList.map Char.toLower)

private theorem toUpper_val (c : Char) :
    c.toUpper.val = if 97 ≤ c.val ∧ c.val ≤ 122 then c.val + 4294967264 else c.val := by
  show (if h : c.val ≥ 97 ∧ c.val ≤ 122 then
    (⟨c.val + 4294967264, _⟩ : Char) else c).val = _
  split <;> rfl

private theorem toUpper_toUpper (c : Char) : c.toUpper.toUpper = c.toUpper := by
  apply Char.ext
  rw [toUpper_val c.toUpper, toUpper_val c]
  split
  · next h =>
    rw [if_neg]
    simp only [UInt32.le_iff_toNat_le, UInt32.toNat_add, UInt32.reduceToNat] at h ⊢
    omega
  · rfl

/-- Changing to upper case twice is changing once. -/
theorem upper_upper (s : String) : upper (upper s) = upper s := by
  simp only [upper, String.toList_ofList, List.map_map]
  exact congrArg String.ofList (List.map_congr_left fun c _ => toUpper_toUpper c)

end InstanceLifecycle.Text
