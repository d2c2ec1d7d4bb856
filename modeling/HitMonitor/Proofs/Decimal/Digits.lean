import HitMonitor.Decimal.Fixed
import HitMonitor.Decimal.Read
import Mathlib.Logic.Function.Basic

/-!
# Numbers in digits

The digits of a number read back as the number, with or without zeros in front, so digits that are
filled up to a least width still tell all numbers apart.
-/

namespace HitMonitor

/-- A number in digits as characters. -/
theorem toList_toString (number : Nat) : (toString number).toList = Nat.toDigits 10 number := by
  rw [Nat.toString_eq_repr, Nat.toList_repr]

theorem isDigit_of_mem_toDigits {number : Nat} {character : Char}
    (member : character ∈ Nat.toDigits 10 number) : character.isDigit = true :=
  Nat.isDigit_of_mem_toDigits (by decide) (by decide) member

/-- Only the number zero has digits that begin with zero. -/
theorem eq_nil_of_toDigits_eq_zero_cons {number : Nat} {more : List Char}
    (digits : Nat.toDigits 10 number = '0' :: more) : more = [] := by
  induction number using Nat.strongRecOn generalizing more with
  | ind number ih =>
      rcases Nat.lt_or_ge number 10 with single | several
      · rw [Nat.toDigits_of_lt_base single, List.cons.injEq] at digits
        exact digits.2.symm
      · rw [Nat.toDigits_of_base_le (by decide) several] at digits
        obtain ⟨first, front, found⟩ := List.exists_cons_of_ne_nil
          (Nat.toDigits_ne_nil : Nat.toDigits 10 (number / 10) ≠ [])
        rw [found, List.cons_append, List.cons.injEq] at digits
        obtain ⟨rfl, -⟩ := digits
        -- All digits but the last would write zero, so the number would be less than ten.
        have alone : front = [] := ih _ (Nat.div_lt_self (by omega) (by decide)) found
        have front_zero : number / 10 = 0 := by
          rw [← Nat.ofDigitChars_ten_toDigits (n := number / 10), found, alone]
          rfl
        omega

/-- Reading further digits makes a number no smaller. -/
theorem le_ofDigitChars (digits : List Char) (start : Nat) :
    start ≤ Nat.ofDigitChars 10 digits start := by
  induction digits generalizing start with
  | nil => exact Nat.le_refl start
  | cons digit digits ih =>
      rw [Nat.ofDigitChars_cons]
      exact Nat.le_trans (by omega) (ih _)

/-- The digits of a number are read as that number. -/
theorem readDigits?_toDigits (number : Nat) :
    readDigits? (Nat.toDigits 10 number) = some number := by
  have digits : (Nat.toDigits 10 number).all Char.isDigit = true :=
    List.all_eq_true.mpr fun _ => isDigit_of_mem_toDigits
  rw [readDigits?, if_pos ⟨Nat.toDigits_ne_nil, digits⟩]
  exact congrArg some Nat.ofDigitChars_ten_toDigits

theorem toList_paddedDigits (width number : Nat) : ∃ zeros,
    (paddedDigits width number).toList = List.replicate zeros '0' ++ Nat.toDigits 10 number :=
  ⟨_, by rw [paddedDigits, String.toList_append, String.toList_ofList, toList_toString]⟩

theorem isDigit_of_mem_paddedDigits {width number : Nat} {character : Char}
    (member : character ∈ (paddedDigits width number).toList) : character.isDigit = true := by
  obtain ⟨zeros, padded⟩ := toList_paddedDigits width number
  rw [padded, List.mem_append] at member
  rcases member with zero | digit
  · rw [(List.mem_replicate.mp zero).2]
    rfl
  · exact isDigit_of_mem_toDigits digit

/-- Zeros in front do not change what digits stand for. -/
theorem digitsValue_paddedDigits (width number : Nat) :
    digitsValue (paddedDigits width number).toList = number := by
  obtain ⟨zeros, padded⟩ := toList_paddedDigits width number
  rw [padded]
  change Nat.ofDigitChars 10 (List.replicate zeros '0' ++ Nat.toDigits 10 number) 0 = number
  rw [Nat.ofDigitChars_append, Nat.ofDigitChars_replicate_zero, Nat.mul_zero,
    Nat.ofDigitChars_ten_toDigits]

/-- Filled up digits tell all numbers apart, those of more digits than the width too. -/
theorem paddedDigits_injective (width : Nat) : Function.Injective (paddedDigits width) := by
  intro number other same
  rw [← digitsValue_paddedDigits width number, same, digitsValue_paddedDigits]

example : paddedDigits 6 7 = "000007" ∧ paddedDigits 6 1234567 = "1234567" := by decide +kernel

end HitMonitor
