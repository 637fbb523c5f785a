import InstanceLifecycle.Weight.Arithmetic

/-!
# Natural numbers as doubles

A natural number becomes a double without a sign, however it is rounded. So whatever a double of a
natural number lies below is positive.

Results:

* `unpack_pack_unsigned`: packing keeps what is said about signs;
* `unsigned_ofNat`: the double of a natural number has no sign;
* `double_positive_of_lt`: a double above that of a natural number is positive.
-/

namespace InstanceLifecycle.Weight

open Float.Model (UnpackedFloat Format)
open Float.Model.UnpackedFloat

/-! ## Signs -/

/-- Whether a number has no minus sign. -/
def Unsigned : UnpackedFloat → Prop
  | .notANumber => True
  | .infinity s => s = .positive
  | .zero s => s = .positive
  | .finite s .. => s = .positive

section Cases

variable {c : Prop} [Decidable c]

theorem unsigned_ite {x y : UnpackedFloat} (hx : Unsigned x) (hy : Unsigned y) :
    Unsigned (if c then x else y) := by
  split
  · exact hx
  · exact hy

theorem unsigned_dite {x : c → UnpackedFloat} {y : ¬c → UnpackedFloat}
    (hx : ∀ h, Unsigned (x h)) (hy : ∀ h, Unsigned (y h)) :
    Unsigned (if h : c then x h else y h) := by
  split
  · exact hx _
  · exact hy _

end Cases

theorem unsigned_roundWithAccuracy (f : Format) (m : Nat) (e : Int) (a : Accuracy) :
    Unsigned (roundWithAccuracy f .positive m e a) :=
  unsigned_dite (fun _ => rfl) fun _ => rfl

theorem unsigned_mul (f : Format) {x y : UnpackedFloat} (hx : Unsigned x) (hy : Unsigned y) :
    Unsigned (UnpackedFloat.mul f x y) := by
  cases x <;> cases y <;> cases hx <;> cases hy <;>
    first | trivial | rfl | exact unsigned_roundWithAccuracy ..

theorem unsigned_ofUInt64 (f : Format) (n : UInt64) : Unsigned (UnpackedFloat.ofUInt64 f n) := by
  have pos : 0 ≤ (n.toNat : Int) := Int.natCast_nonneg _
  show Unsigned (UnpackedFloat.normalize f (n.toNat : Int) 0 .positive)
  unfold UnpackedFloat.normalize
  split
  · next below => exact absurd (Int.compare_eq_lt.mp below) (Int.not_lt.mpr pos)
  · rfl
  · exact unsigned_roundWithAccuracy ..

/-- A number that is not scaled down has no sign. -/
theorem unsigned_ofScientific (f : Format) (m : Nat) {e : Int} (he : 0 ≤ e) :
    Unsigned (UnpackedFloat.ofScientific f m e) := by
  refine unsigned_dite (fun _ => rfl) fun _ => unsigned_ite rfl (unsigned_ite rfl ?_)
  rw [if_pos he]
  exact unsigned_mul f rfl rfl

/-! ## Packing -/

/-- A word without a sign bit is a number without a sign. -/
theorem unsigned_unpack {b : BitVec Format.binary64.numBits} (h : unpackSign b = 0#1) :
    Unsigned (UnpackedFloat.unpack .binary64 b) := by
  unfold UnpackedFloat.unpack
  rw [h]
  exact unsigned_ite (unsigned_ite rfl trivial)
    (unsigned_ite (unsigned_dite (fun _ => rfl) fun _ => rfl) rfl)

theorem unpackSign_packComponents (e : BitVec 11) (m : BitVec 52) :
    unpackSign (packComponents .binary64 .positive e m) = 0#1 := by
  change (0#1 ++ e ++ m).extractLsb' 63 1 = 0#1
  rw [BitVec.extractLsb'_append_eq_of_le (by decide),
    BitVec.extractLsb'_append_eq_of_le (by decide)]
  rfl

/-- Packing keeps what is said about signs. -/
theorem unpack_pack_unsigned {x : UnpackedFloat} (h : Unsigned x) :
    Unsigned (Float.Model.pack x).unpack := by
  cases x with
  | notANumber => trivial
  | infinity s => cases h; rfl
  | zero s => cases h; rfl
  | finite s m e pos =>
    cases h
    refine unsigned_unpack ?_
    show unpackSign (UnpackedFloat.pack .binary64 (.finite .positive m e pos)) = 0#1
    unfold UnpackedFloat.pack
    dsimp only
    split
    · exact unpackSign_packComponents ..
    · split <;> exact unpackSign_packComponents ..

/-- The double of a natural number has no sign. -/
theorem unsigned_ofNat (n : Nat) : Unsigned (Arithmetic.double.ofNat n).toModel.unpack := by
  have one : Unsigned (Float.exactlyRepresentablePowersOfTen[0]).toModel.unpack := by
    show Unsigned (UnpackedFloat.unpack .binary64 _)
    exact unsigned_unpack (by rfl)
  show Unsigned (Float.ofScientific n false 0).toModel.unpack
  unfold Float.ofScientific
  split
  · exact unpack_pack_unsigned (unsigned_mul _ (unpack_pack_unsigned (unsigned_ofUInt64 ..)) one)
  · exact unpack_pack_unsigned (unsigned_ofScientific _ n (Int.le_refl 0))

/-! ## Comparing -/

/-- What lies above a number without a sign lies above zero. -/
theorem compare_zero_of_compare {x y : UnpackedFloat} (hx : Unsigned x)
    (h : UnpackedFloat.compare x y = some .lt) :
    UnpackedFloat.compare (.zero .positive) y = some .lt := by
  cases y with
  | notANumber => cases x <;> cases h
  | infinity s =>
    cases s with
    | positive => rfl
    | negative => cases x <;> cases hx <;> cases h
  | zero s => cases x <;> cases hx <;> cases h
  | finite s m e pos =>
    cases s with
    | positive => rfl
    | negative => cases x <;> cases hx <;> cases h

theorem double_lt_iff (x y : Float) : Arithmetic.double.lt x y = true ↔
    UnpackedFloat.compare x.toModel.unpack y.toModel.unpack = some .lt := by
  show decide (x < y) = true ↔ _
  rw [decide_eq_true_iff]
  show decide ((UnpackedFloat.compare x.toModel.unpack y.toModel.unpack == some .lt) = true) =
    true ↔ _
  rw [decide_eq_true_iff, beq_iff_eq]

theorem unpack_ofNat_zero : (Arithmetic.double.ofNat 0).toModel.unpack = .zero .positive := by
  rfl

/-- A double above that of a natural number is positive. -/
theorem double_positive_of_lt {n : Nat} {y : Float}
    (h : Arithmetic.double.lt (Arithmetic.double.ofNat n) y = true) :
    Arithmetic.double.lt (Arithmetic.double.ofNat 0) y = true := by
  rw [double_lt_iff] at h ⊢
  rw [unpack_ofNat_zero]
  exact compare_zero_of_compare (unsigned_ofNat n) h

end InstanceLifecycle.Weight
