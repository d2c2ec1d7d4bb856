import Mathlib
import HitMonitor.Proofs.Binary.Rounding

/-!
# Single-precision floats

The floats that matter here hold positive numbers with 24 binary digits.  Storing such a number and
reading it back loses nothing, and floats are compared as the numbers they hold.
-/

namespace HitMonitor

open Float.Model
open Float.Model.UnpackedFloat (Sign)

/-- A positive number with 24 binary digits that a single-precision float can hold. -/
structure Single where
  digits : ℕ
  place : ℤ
  digits_ge : 2 ^ 23 ≤ digits
  digits_lt : digits < 2 ^ 24
  place_ge : -149 ≤ place
  place_le : place ≤ 104

namespace Single

variable {single : Single}

/-- The number itself. -/
noncomputable def value (single : Single) : ℝ := single.digits * 2 ^ single.place

theorem digits_pos (single : Single) : 0 < single.digits :=
  lt_of_lt_of_le (by decide) single.digits_ge

/-- The form in which the operations see a number. -/
def unpacked (single : Single) : UnpackedFloat :=
  .finite .positive single.digits single.place single.digits_pos

theorem log2_digits (single : Single) : single.digits.log2 = 23 :=
  (Nat.log2_eq_iff single.digits_pos.ne').mpr ⟨single.digits_ge, single.digits_lt⟩

/-- The place with the bias under which a float stores it. -/
def biased (single : Single) : ℕ := (single.place + 150).toNat

theorem biased_pos (single : Single) : 0 < single.biased := by
  have place_ge := single.place_ge
  simp only [biased]
  omega

theorem biased_lt (single : Single) : single.biased < 255 := by
  have place_le := single.place_le
  simp only [biased]
  omega

theorem pack_unpacked (single : Single) :
    UnpackedFloat.pack Format.binary32 single.unpacked =
      UnpackedFloat.packComponents Format.binary32 .positive (BitVec.ofNat 8 single.biased)
        (BitVec.ofNat 23 single.digits) := by
  have exponent : (single.place + Format.binary32.exponentBias +
      Format.binary32.mantissaBitsWithoutImplicit).toNat = single.biased := by
    change (single.place + 127 + 23).toNat = (single.place + 150).toNat
    omega
  have holds : ¬ 2 ^ Format.binary32.exponentBits ≤ single.biased + 1 := by
    have := single.biased_lt
    change ¬ 256 ≤ single.biased + 1
    omega
  simp only [unpacked, UnpackedFloat.pack, exponent, if_neg holds, single.log2_digits]
  rfl

/-- Storing a number and reading it back loses nothing. -/
theorem unpack_pack (single : Single) :
    (Float32.Model.pack single.unpacked).unpack = single.unpacked := by
  have place_ge := single.place_ge
  have biased_pos := single.biased_pos
  have biased_lt := single.biased_lt
  have stored : (BitVec.ofNat 8 single.biased).toNat = single.biased := by
    rw [BitVec.toNat_ofNat]
    omega
  have not_infinite : BitVec.ofNat 8 single.biased ≠ -1#8 := by
    rw [← BitVec.toNat_inj.ne, stored]
    exact biased_lt.ne
  have not_small : BitVec.ofNat 8 single.biased ≠ 0#8 := by
    rw [← BitVec.toNat_inj.ne, stored]
    exact biased_pos.ne'
  have leading : (1#1 ++ BitVec.ofNat 23 single.digits).toNat = single.digits := by
    have digits_ge := single.digits_ge
    have digits_lt := single.digits_lt
    simp only [BitVec.toNat_append, BitVec.toNat_ofNat, Nat.shiftLeft_eq]
    change 2 ^ 23 ||| single.digits % 2 ^ 23 = single.digits
    rw [Nat.or_comm, Nat.or_two_pow_eq_add_of_lt (Nat.mod_lt _ (by decide))]
    omega
  have place : (single.biased : ℤ) - (Format.binary32.exponentBias + 23) = single.place := by
    change ((single.place + 150).toNat : ℤ) - (127 + 23) = single.place
    omega
  change UnpackedFloat.unpack Format.binary32
    (UnpackedFloat.pack Format.binary32 single.unpacked) = _
  rw [pack_unpacked]
  simp only [UnpackedFloat.unpack, UnpackedFloat.unpackMantissa_packComponents,
    UnpackedFloat.unpackExponent_packComponents, UnpackedFloat.unpackSign_packComponents,
    Sign.ofBitVec_toBitVec, if_neg not_infinite, if_neg not_small, stored, unpacked, leading]
  simp [place]

/-! ## Order -/

theorem value_pos (single : Single) : 0 < single.value := by
  have digits_pos : (0 : ℝ) < single.digits := by exact_mod_cast single.digits_pos
  simp only [value]
  positivity

theorem value_ge (single : Single) : 2 ^ (-126 : ℤ) ≤ single.value := by
  have digits_ge : (2 : ℝ) ^ (23 : ℤ) ≤ single.digits := by exact_mod_cast single.digits_ge
  have place_ge : (2 : ℝ) ^ (-149 : ℤ) ≤ 2 ^ single.place :=
    zpow_le_zpow_right₀ one_le_two single.place_ge
  calc (2 : ℝ) ^ (-126 : ℤ) = 2 ^ (23 : ℤ) * 2 ^ (-149 : ℤ) := by rw [← zpow_add₀ two_ne_zero]; rfl
    _ ≤ single.value := mul_le_mul digits_ge place_ge (by positivity) (Nat.cast_nonneg _)

theorem value_lt (single : Single) : single.value < 2 ^ (128 : ℤ) := by
  have digits_lt : (single.digits : ℝ) < 2 ^ (24 : ℤ) := by exact_mod_cast single.digits_lt
  have place_le : (2 : ℝ) ^ single.place ≤ 2 ^ (104 : ℤ) :=
    zpow_le_zpow_right₀ one_le_two single.place_le
  calc single.value < 2 ^ (24 : ℤ) * 2 ^ (104 : ℤ) :=
        mul_lt_mul digits_lt place_le (by positivity) (by positivity)
    _ = 2 ^ (128 : ℤ) := by rw [← zpow_add₀ two_ne_zero]; rfl

def one : Single := ⟨2 ^ 23, -23, le_rfl, by decide, by decide, by decide⟩

@[simp]
theorem value_one : one.value = 1 := by
  norm_num [one, value]

def half : Single := ⟨2 ^ 23, -24, le_rfl, by decide, by decide, by decide⟩

@[simp]
theorem value_half : half.value = 1 / 2 := by
  norm_num [half, value]

/-- Numbers are ordered by their places, and by their digits at the same place. -/
theorem value_lt_iff {one other : Single} :
    one.value < other.value ↔
      one.place < other.place ∨ one.place = other.place ∧ one.digits < other.digits := by
  have smaller : ∀ {one other : Single}, one.place < other.place → one.value < other.value := by
    intro one other lower
    have doubled := two_mul_place_le lower
    have positive : (0 : ℝ) < 2 ^ one.place := by positivity
    have one_lt : (one.digits : ℝ) < 2 ^ 24 := by exact_mod_cast one.digits_lt
    have other_ge : (2 : ℝ) ^ 23 ≤ other.digits := by exact_mod_cast other.digits_ge
    simp only [value]
    nlinarith
  rcases lt_trichotomy one.place other.place with lower | same | higher
  · simp [lower, smaller lower]
  · have positive : (0 : ℝ) < 2 ^ other.place := by positivity
    simp [value, same, mul_lt_mul_iff_of_pos_right positive]
  · simp [higher.not_gt, higher.ne', (smaller higher).le]

end Single

/-- A float that holds a number. -/
def Holds (float : Float32) (single : Single) : Prop :=
  float.toModel.unpack = single.unpacked

theorem toModel_zero : (0 : Float32).toModel = Float32.Model.pack (.zero .positive) := by
  decide +kernel

theorem unpack_zero : (0 : Float32).toModel.unpack = .zero .positive := by
  rw [toModel_zero]
  rfl

namespace Holds

variable {float other : Float32} {single second : Single}

/-- Operations store their result. -/
theorem of_toModel (stored : float.toModel = Float32.Model.pack single.unpacked) :
    Holds float single := by
  rw [Holds, stored, single.unpack_pack]

theorem one : Holds (Float32.ofBits 0x3F800000) .one :=
  of_toModel (by decide +kernel)

theorem half : Holds 0.5 .half :=
  of_toModel (by decide +kernel)

/-- Comparisons look at the parts of a float. -/
theorem lt_iff_unpack : float < other ↔ float.toModel.unpack.lt other.toModel.unpack = true := by
  change decide (float.toModel.unpack.lt other.toModel.unpack = true) = true ↔ _
  rw [decide_eq_true_iff]

theorem le_iff_unpack : float ≤ other ↔ float.toModel.unpack.le other.toModel.unpack = true := by
  change decide (float.toModel.unpack.le other.toModel.unpack = true) = true ↔ _
  rw [decide_eq_true_iff]

theorem compare_eq (holds : Holds float single) (holds' : Holds other second) :
    float.toModel.unpack.compare other.toModel.unpack =
      some ((compare single.place second.place).then (compare single.digits second.digits)) := by
  rw [holds, holds']
  rfl

theorem lt_iff (holds : Holds float single) (holds' : Holds other second) :
    float < other ↔ single.value < second.value := by
  rw [lt_iff_unpack, UnpackedFloat.lt, compare_eq holds holds', Single.value_lt_iff]
  simp [Ordering.then_eq_lt, compare_lt_iff_lt]

theorem le_iff (holds : Holds float single) (holds' : Holds other second) :
    float ≤ other ↔ single.value ≤ second.value := by
  rw [le_iff_unpack, UnpackedFloat.le, compare_eq holds holds', ← not_lt, Single.value_lt_iff,
    Option.any_some, ← Ordering.ne_gt_iff_isLE, Ordering.then_eq_gt, compare_gt_iff_gt,
    compare_gt_iff_gt, compare_eq_iff_eq, eq_comm (a := second.place)]

/-- No positive number is below zero. -/
theorem not_lt_zero (holds : Holds float single) : ¬ float < 0 := by
  rw [lt_iff_unpack, holds, unpack_zero]
  exact Bool.false_ne_true

end Holds

end HitMonitor
