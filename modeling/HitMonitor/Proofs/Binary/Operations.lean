import HitMonitor.Proofs.Binary.Located

/-!
# Operations on single-precision floats

Each operation on floats that hold numbers is rounded once from what it would be without a limit of
digits, as long as the result is neither too small nor too large for that.  Conversions of short
whole numbers, and what is left when a whole part is taken away, are exact.
-/

namespace HitMonitor

open Float.Model
open Float.Model.UnpackedFloat (shiftToExponent)

/-! ## Before rounding -/

namespace Single

/-- Digits are divided with 24 more of them behind the first number. -/
theorem divCore_eq {single second : Single} (place_ge : -125 ≤ single.place - second.place) :
    UnpackedFloat.divCore Format.binary32 single.digits single.place second.digits second.place =
      (single.digits <<< 24 / second.digits, single.place - second.place - 24,
        UnpackedFloat.accuracyOfFraction (single.digits <<< 24 % second.digits)
          second.digits) := by
  have total_eq : totalExponent single.digits single.place -
      totalExponent second.digits second.place = single.place - second.place := by
    simp only [totalExponent, log2_digits]
    ring
  have place_eq : min (single.place - second.place) (single.place - second.place - 24) =
      single.place - second.place - 24 := by omega
  have count_eq : (single.place - second.place - (single.place - second.place - 24)).toNat =
      24 := by omega
  simp only [UnpackedFloat.divCore, total_eq, targetExponent_eq place_ge, place_eq, count_eq]

/-- The root is taken at an even place and of so many digits that it has 24 of them. -/
theorem exists_sqrtCore (single : Single) :
    ∃ (half : ℤ) (count : ℕ), single.place = count + 2 * half ∧ 23 ≤ count ∧
      UnpackedFloat.sqrtCore Format.binary32 single.digits single.place =
        ((single.digits <<< count).sqrt, half, rootAccuracy (single.digits <<< count)) := by
  have place_ge := single.place_ge
  obtain ⟨half, half_eq⟩ : ∃ half : ℤ, (single.place + 25).ediv 2 - 24 = half := ⟨_, rfl⟩
  have half_bounds : 2 * half + 48 ≤ single.place + 25 ∧ single.place + 25 < 2 * half + 50 := by
    change (single.place + 25) / 2 - 24 = half at half_eq
    omega
  obtain ⟨count, count_eq⟩ : ∃ count : ℕ, single.place - 2 * half = count :=
    Int.eq_ofNat_of_zero_le (by omega)
  have total_eq : totalExponent single.digits single.place + 1 = single.place + 25 := by
    simp only [totalExponent, log2_digits]
    ring
  have half_min : min (single.place.ediv 2) half = half := by
    change min (single.place / 2) half = half
    omega
  refine ⟨half, count, by omega, by omega, ?_⟩
  simp only [UnpackedFloat.sqrtCore, total_eq]
  rw [targetExponent_eq (by omega), half_eq, half_min, count_eq, Int.toNat_natCast]
  rfl

/-- Both numbers of a difference are brought to the lower one of their places. -/
theorem exists_sub (single second : Single) :
    ∃ (lower : ℤ) (first other : ℕ),
      single.value = first * 2 ^ lower ∧ second.value = other * 2 ^ lower ∧
        UnpackedFloat.sub Format.binary32 single.unpacked second.unpacked =
          UnpackedFloat.normalize Format.binary32 (first - other) lower .positive := by
  have widened : ∀ (single : Single) (lower : ℤ), lower ≤ single.place →
      single.value = (single.digits <<< (single.place - lower).toNat : ℕ) * 2 ^ lower := by
    intro single lower lower_le
    obtain ⟨count, place_eq⟩ := Int.le.dest lower_le
    have count_eq : (single.place - lower).toNat = count := by omega
    rw [count_eq, value, ← place_eq, zpow_add₀ two_ne_zero, zpow_natCast, Nat.shiftLeft_eq]
    push_cast
    ring
  exact ⟨min single.place second.place, _, _, widened single _ (min_le_left _ _),
    widened second _ (min_le_right _ _), rfl⟩

/-- Small numbers have places behind the point. -/
theorem exists_places {single : Single} (value_lt : single.value < 256) :
    ∃ count : ℕ, single.place = -count ∧ single.value = single.digits / 2 ^ count := by
  have digits_ge : (2 : ℝ) ^ (23 : ℤ) ≤ single.digits := by exact_mod_cast single.digits_ge
  have positive : (0 : ℝ) < 2 ^ single.place := by positivity
  have powers : (2 : ℝ) ^ (23 : ℤ) * 2 ^ single.place < 2 ^ (8 : ℤ) :=
    lt_of_le_of_lt (mul_le_mul_of_nonneg_right digits_ge positive.le)
      (value_lt.trans_eq (by norm_num))
  rw [← zpow_add₀ two_ne_zero, zpow_lt_zpow_iff_right₀ one_lt_two] at powers
  obtain ⟨count, count_eq⟩ : ∃ count : ℕ, -single.place = count :=
    Int.eq_ofNat_of_zero_le (by omega)
  have place_eq : single.place = -count := by omega
  refine ⟨count, place_eq, ?_⟩
  rw [value, place_eq, zpow_neg, zpow_natCast, div_eq_mul_inv]

/-- The part behind the point has fewer digits than the number. -/
theorem exists_fraction {single : Single} (value_ge : 1 ≤ single.value)
    (value_lt : single.value < 256) :
    ∃ left count : ℕ, left < 2 ^ 24 ∧ count < 24 ∧
      single.value - ⌊single.value⌋₊ = left * 2 ^ (-count : ℤ) := by
  obtain ⟨count, -, value_eq⟩ := exists_places value_lt
  have positive : (0 : ℝ) < 2 ^ count := by positivity
  have whole_le : ⌊single.value⌋₊ * 2 ^ count ≤ single.digits := by
    have floor_le := Nat.floor_le single.value_pos.le
    nth_rewrite 2 [value_eq] at floor_le
    rw [le_div_iff₀ positive] at floor_le
    exact_mod_cast floor_le
  have count_lt : count < 24 := by
    rw [value_eq, one_le_div positive] at value_ge
    have power_le : 2 ^ count ≤ single.digits := by exact_mod_cast value_ge
    exact (Nat.pow_lt_pow_iff_right (by decide)).mp (power_le.trans_lt single.digits_lt)
  obtain ⟨left, digits_eq⟩ := Nat.exists_eq_add_of_le whole_le
  have left_lt : left < 2 ^ 24 := by
    have digits_lt := single.digits_lt
    omega
  refine ⟨left, count, left_lt, count_lt, ?_⟩
  have digits_cast : (single.digits : ℝ) = ⌊single.value⌋₊ * 2 ^ count + left := by
    exact_mod_cast digits_eq
  rw [zpow_neg, zpow_natCast, ← div_eq_mul_inv, eq_div_iff positive.ne', sub_mul]
  nth_rewrite 1 [value_eq]
  rw [div_mul_cancel₀ _ positive.ne', digits_cast]
  ring

end Single

/-! ## The operations -/

namespace Holds

variable {float other : Float32} {single second : Single}

/-- A product is rounded to the nearest number. -/
theorem mul (holds : Holds float single) (holds' : Holds other second)
    (small : 2 ^ (-126 : ℤ) ≤ single.value * second.value)
    (large : single.value * second.value < 2 ^ (127 : ℤ)) :
    ∃ product : Single, Holds (float * other) product ∧
      RoundsTo (single.value * second.value) product.value := by
  have multiplied : single.value * second.value / 2 ^ (single.place + second.place) =
      (single.digits * second.digits : ℕ) := by
    rw [Single.value, Single.value, zpow_add₀ two_ne_zero]
    push_cast
    field_simp
  have digits_ge : 2 ^ 23 ≤ single.digits * second.digits :=
    single.digits_ge.trans (Nat.le_mul_of_pos_right _ second.digits_pos)
  obtain ⟨product, result_eq, rounds⟩ :=
    exists_roundWithAccuracy (multiplied ▸ Locates.of_exact _) digits_ge small large
  refine ⟨product, of_toModel ?_, rounds⟩
  change Float32.Model.pack (UnpackedFloat.mul _ float.toModel.unpack other.toModel.unpack) = _
  rw [holds, holds', ← result_eq]
  rfl

/-- A quotient is rounded to the nearest number. -/
theorem div (holds : Holds float single) (holds' : Holds other second)
    (small : 2 ^ (-125 : ℤ) ≤ single.value / second.value)
    (large : single.value / second.value < 2 ^ (127 : ℤ)) :
    ∃ quotient : Single, Holds (float / other) quotient ∧
      RoundsTo (single.value / second.value) quotient.value := by
  have first_lt : (single.digits : ℝ) < 2 ^ 24 := by exact_mod_cast single.digits_lt
  have second_ge : (2 : ℝ) ^ 23 ≤ second.digits := by exact_mod_cast second.digits_ge
  have second_pos : (0 : ℝ) < second.digits := by exact_mod_cast second.digits_pos
  have quotient_eq : single.value / second.value =
      single.digits / second.digits * 2 ^ (single.place - second.place) := by
    rw [Single.value, Single.value, zpow_sub₀ two_ne_zero, mul_div_mul_comm]
  have place_ge : -125 ≤ single.place - second.place := by
    have digits_lt : (single.digits : ℝ) / second.digits < 2 ^ (1 : ℤ) := by
      rw [div_lt_iff₀ second_pos]
      linarith
    have positive : (0 : ℝ) < 2 ^ (single.place - second.place) := by positivity
    have powers := small.trans_lt (quotient_eq ▸ mul_lt_mul_of_pos_right digits_lt positive)
    rw [← zpow_add₀ two_ne_zero, zpow_lt_zpow_iff_right₀ one_lt_two] at powers
    omega
  have divided : single.value / second.value / (2 : ℝ) ^ (single.place - second.place - 24) =
      (single.digits <<< 24 : ℕ) / second.digits := by
    rw [quotient_eq, zpow_sub₀ two_ne_zero _ 24, Nat.shiftLeft_eq]
    push_cast
    field_simp
    norm_num
  have digits_ge : 2 ^ 23 ≤ single.digits <<< 24 / second.digits := by
    rw [Nat.le_div_iff_mul_le second.digits_pos, Nat.shiftLeft_eq]
    exact Nat.mul_le_mul single.digits_ge second.digits_lt.le
  obtain ⟨quotient, result_eq, rounds⟩ :=
    exists_roundWithAccuracy (divided ▸ Locates.of_quotient _ second.digits_pos) digits_ge
      (le_trans (by norm_num) small) large
  refine ⟨quotient, of_toModel ?_, rounds⟩
  change Float32.Model.pack (UnpackedFloat.div _ float.toModel.unpack other.toModel.unpack) = _
  rw [holds, holds', ← result_eq]
  simp only [Single.unpacked, UnpackedFloat.div, Single.divCore_eq place_ge]
  rfl

/-- A square root is rounded to the nearest number, and is never too small or too large for that. -/
theorem sqrt (holds : Holds float single) :
    ∃ root : Single, Holds float.sqrt root ∧ RoundsTo (√single.value) root.value := by
  obtain ⟨half, count, place_eq, count_ge, sqrtCore_eq⟩ := single.exists_sqrtCore
  have widened : √single.value / 2 ^ half = √(single.digits <<< count : ℕ) := by
    have value_eq : single.value = (single.digits <<< count : ℕ) * (2 ^ half) ^ 2 := by
      rw [Single.value, place_eq, zpow_add₀ two_ne_zero, zpow_natCast, Nat.shiftLeft_eq, mul_comm 2,
        zpow_mul]
      push_cast
      norm_num [mul_assoc]
    rw [value_eq, Real.sqrt_mul' _ (by positivity), Real.sqrt_sq (by positivity),
      mul_div_cancel_right₀ _ (by positivity)]
  have digits_ge : 2 ^ 23 ≤ (single.digits <<< count).sqrt := by
    rw [Nat.le_sqrt, Nat.shiftLeft_eq]
    exact Nat.mul_le_mul single.digits_ge (Nat.pow_le_pow_right (by decide) count_ge)
  have small : 2 ^ (-126 : ℤ) ≤ √single.value := by
    apply Real.le_sqrt_of_sq_le
    exact le_trans (by norm_num) single.value_ge
  have large : √single.value < 2 ^ (127 : ℤ) := by
    rw [Real.sqrt_lt' (by positivity)]
    exact single.value_lt.trans (by norm_num)
  obtain ⟨root, result_eq, rounds⟩ :=
    exists_roundWithAccuracy (widened ▸ Locates.of_sqrt _) digits_ge small large
  refine ⟨root, of_toModel ?_, rounds⟩
  change Float32.Model.pack (UnpackedFloat.sqrt _ float.toModel.unpack) = _
  rw [holds, ← result_eq]
  simp only [Single.unpacked, UnpackedFloat.sqrt, sqrtCore_eq]

/-- A difference is rounded to the nearest number. -/
theorem sub (holds : Holds float single) (holds' : Holds other second)
    (small : 2 ^ (-126 : ℤ) ≤ single.value - second.value)
    (large : single.value - second.value < 2 ^ (127 : ℤ)) :
    ∃ difference : Single, Holds (float - other) difference ∧
      RoundsTo (single.value - second.value) difference.value := by
  obtain ⟨lower, first, next, first_eq, next_eq, sub_eq⟩ := single.exists_sub second
  have positive : (0 : ℝ) < 2 ^ lower := by positivity
  have less : next < first := by
    have values : second.value < single.value :=
      sub_pos.mp (lt_of_lt_of_le (by positivity) small)
    rw [first_eq, next_eq, mul_lt_mul_iff_of_pos_right positive] at values
    exact_mod_cast values
  obtain ⟨left, rfl⟩ := Nat.exists_eq_add_of_lt less
  have subtracted : single.value - second.value = (left + 1 : ℕ) * 2 ^ lower := by
    rw [first_eq, next_eq]
    push_cast
    ring
  rw [subtracted] at small large ⊢
  obtain ⟨difference, round_eq, rounds⟩ := exists_round left.succ_pos small large
  refine ⟨difference, of_toModel ?_, rounds⟩
  have left_eq : ((next + left + 1 : ℕ) : ℤ) - next = (left + 1 : ℕ) := by
    push_cast
    ring
  change Float32.Model.pack (UnpackedFloat.sub _ float.toModel.unpack other.toModel.unpack) = _
  rw [holds, holds', sub_eq, left_eq, normalize_eq left.succ_pos, round_eq]

/-- Equal numbers leave zero. -/
theorem sub_same (holds : Holds float single) (holds' : Holds other second)
    (same : single.value = second.value) : float - other = 0 := by
  obtain ⟨lower, first, next, first_eq, next_eq, sub_eq⟩ := single.exists_sub second
  have positive : (0 : ℝ) < 2 ^ lower := by positivity
  have digits_eq : first = next := by
    rw [first_eq, next_eq, mul_right_cancel_iff_of_pos positive] at same
    exact_mod_cast same
  have stored : (float - other).toModel = (0 : Float32).toModel := by
    change Float32.Model.pack (UnpackedFloat.sub _ float.toModel.unpack other.toModel.unpack) = _
    rw [holds, holds', sub_eq, digits_eq, sub_self, toModel_zero]
    rfl
  exact congrArg Float32.ofModel stored

/-- Zero takes nothing away. -/
theorem sub_nothing (holds : Holds float single) : Holds (float - 0) single := by
  apply of_toModel
  change Float32.Model.pack
    (UnpackedFloat.sub _ float.toModel.unpack (0 : Float32).toModel.unpack) = _
  rw [holds, unpack_zero]
  rfl

/-! ## Conversions -/

/-- Short whole numbers are converted without a loss and then multiplied with one. -/
theorem ofNat_short {number : ℕ} (number_pos : 0 < number) (short : number < 2 ^ 23) :
    ∃ single : Single, Holds (Float32.ofNat number) single ∧ RoundsTo number single.value := by
  obtain ⟨single, ofNat_eq, rounds⟩ := exists_ofNat number_pos (short.trans (by decide))
  have has : HasDigits number := .of_nat number_pos (short.trans (by decide))
  have value_eq : single.value * Single.one.value = number := by
    rw [rounds.eq_of_hasDigits has, Single.value_one, mul_one]
  have converted : Holds number.toUInt64.toFloat32 single := by
    apply of_toModel
    change Float32.Model.pack (UnpackedFloat.ofNat _ number.toUInt64.toNat) = _
    rw [Nat.toUInt64_eq, UInt64.toNat_ofNat_of_lt' (short.trans (by decide)), ofNat_eq]
  have number_ge : (1 : ℝ) ≤ number := by exact_mod_cast number_pos
  have number_lt : (number : ℝ) < 2 ^ 23 := by exact_mod_cast short
  have product := converted.mul one
    (by rw [value_eq]; exact le_trans (by norm_num) number_ge)
    (by rw [value_eq]; exact number_lt.trans (by norm_num))
  have ofNat_eq : Float32.ofNat number =
      number.toUInt64.toFloat32 * Float32.ofBits 0x3F800000 := by
    change Float32.ofScientific number false 0 = _
    rw [Float32.ofScientific, dif_pos ⟨short, by decide⟩]
    rfl
  rwa [value_eq, ← ofNat_eq] at product

/-- Whole numbers are converted to the nearest float. -/
theorem ofNat {number : ℕ} (number_pos : 0 < number) (number_lt : number < 2 ^ 127) :
    ∃ single : Single, Holds (Float32.ofNat number) single ∧ RoundsTo number single.value := by
  by_cases short : number < 2 ^ 23
  · exact ofNat_short number_pos short
  have number_ge : (1 : ℝ) ≤ number := by exact_mod_cast number_pos
  have widened : (number : ℝ) / 2 ^ (-24 : ℤ) = (number <<< 24 * 1 : ℕ) := by
    rw [Nat.shiftLeft_eq, mul_one, zpow_neg, div_inv_eq_mul]
    norm_num
  have digits_ge : 2 ^ 23 ≤ number <<< 24 * 1 := by
    rw [Nat.shiftLeft_eq]
    omega
  obtain ⟨single, result_eq, rounds⟩ :=
    exists_roundWithAccuracy (widened ▸ Locates.of_exact _) digits_ge
      (le_trans (by norm_num) number_ge) (by exact_mod_cast number_lt)
  refine ⟨single, of_toModel ?_, rounds⟩
  have in_range : ¬ (0 : ℤ) < -((2 ^ Format.binary32.exponentBits : ℤ) + number.log2) := by
    change ¬ (0 : ℤ) < -(256 + number.log2)
    omega
  change (Float32.ofScientific number false 0).toModel = _
  rw [Float32.ofScientific, dif_neg (fun fast => short fast.1)]
  change Float32.Model.pack (UnpackedFloat.ofScientific _ number 0) = _
  rw [UnpackedFloat.ofScientific, dif_neg number_pos.ne', if_neg (by decide), if_neg in_range,
    if_pos le_rfl, ← result_eq]
  rfl

/-- Whole numbers with few digits are converted without a loss. -/
theorem ofNat_exact {number : ℕ} (number_pos : 0 < number) (number_lt : number < 2 ^ 24) :
    ∃ single : Single, Holds (Float32.ofNat number) single ∧ single.value = number := by
  obtain ⟨single, holds, rounds⟩ := ofNat number_pos (number_lt.trans (by decide))
  exact ⟨single, holds, rounds.eq_of_hasDigits (.of_nat number_pos number_lt)⟩

/-- A byte is converted without a loss. -/
theorem toFloat32 {byte : UInt8} (byte_pos : 0 < byte.toNat) :
    ∃ single : Single, Holds byte.toFloat32 single ∧ single.value = byte.toNat := by
  have byte_lt : byte.toNat < 2 ^ 24 := byte.toNat_lt.trans (by decide)
  obtain ⟨single, ofNat_eq, rounds⟩ := exists_ofNat byte_pos (byte_lt.trans (by decide))
  refine ⟨single, of_toModel ?_, rounds.eq_of_hasDigits (.of_nat byte_pos byte_lt)⟩
  rw [← ofNat_eq]
  rfl

/-- A conversion to a byte keeps the whole part. -/
theorem toUInt8 (holds : Holds float single) (value_lt : single.value < 256) :
    float.toUInt8.toNat = ⌊single.value⌋₊ := by
  obtain ⟨count, place_eq, value_eq⟩ := Single.exists_places value_lt
  have whole := ((Locates.of_exact single.digits).shiftRight count).floor_eq
  rw [← value_eq] at whole
  have toInt_eq : float.toModel.unpack.toInt 0 255 = ⌊single.value⌋₊ := by
    have no_widening : (single.place - 0).toNat = 0 := by omega
    have count_eq : (0 - (single.place - (0 : ℕ))).toNat = count := by omega
    rw [holds, whole]
    change UnpackedFloat.roundToInt .positive single.digits single.place = _
    simp only [UnpackedFloat.roundToInt, UnpackedFloat.decreaseExponent, shiftToExponent,
      no_widening, count_eq]
    rfl
  have floor_lt : ⌊single.value⌋₊ < UInt8.size :=
    (Nat.floor_lt single.value_pos.le).mpr (by exact_mod_cast value_lt)
  change (UInt8.ofNatClamp (float.toModel.unpack.toInt 0 255).toNat).toNat = _
  rw [toInt_eq, Int.toNat_natCast, UInt8.ofNatClamp_eq_ofNat _ floor_lt,
    UInt8.toNat_ofNat_of_lt' floor_lt]

end Holds

end HitMonitor
