import HitMonitor.Proofs.Capture.Framing
import HitMonitor.Synthetic.Generator
import Mathlib.Algebra.Order.Group.Nat

/-!
# What draws can give

Which values a draw can give, whatever has been drawn before.  Nothing is said about how likely they
are, so nothing about the key stream of the generator is needed.
-/

namespace HitMonitor

namespace RandomSource

variable {State Value : Type} {draw : State → Value × State}

/-- Drawing repeatedly adds as many values as were asked for. -/
theorem size_repeatedly (draw : State → Value × State) (count : Nat) (drawn : Array Value)
    (state : State) : (repeatedly draw count drawn state).1.size = drawn.size + count := by
  induction count generalizing drawn state with
  | zero => rfl
  | succ count ih =>
      rw [repeatedly, ih, Array.size_push]
      omega

/-- What was drawn before stays in front of the values that are added. -/
theorem repeatedly_eq_append (draw : State → Value × State) (count : Nat) (drawn : Array Value)
    (state : State) :
    repeatedly draw count drawn state =
      (drawn ++ (repeatedly draw count #[] state).1, (repeatedly draw count #[] state).2) := by
  induction count generalizing drawn state with
  | zero => simp [repeatedly]
  | succ count ih =>
      simp only [repeatedly]
      rw [ih (drawn.push (draw state).1), ih (#[].push (draw state).1)]
      simp

/-- Each value that is added is one that a single draw can give. -/
theorem allowed_repeatedly {Allowed : Value → Prop} (allowed : ∀ state, Allowed (draw state).1)
    (count : Nat) {drawn : Array Value} (before : ∀ value ∈ drawn, Allowed value)
    (state : State) : ∀ value ∈ (repeatedly draw count drawn state).1, Allowed value := by
  induction count generalizing drawn state with
  | zero => exact before
  | succ count ih =>
      refine ih (fun value member => ?_) (draw state).2
      rcases Array.mem_push.mp member with earlier | rfl
      · exact before value earlier
      · exact allowed state

end RandomSource

namespace Generator

/-- Enough words are drawn for the bytes. -/
theorem length_bytes (count : Nat) (generator : Generator) :
    (generator.bytes count).1.length = count := by
  simp only [bytes, List.length_take, List.length_flatMap, length_littleEndian, List.map_const',
    List.sum_replicate_nat, Array.length_toList, RandomSource.size_repeatedly, wordBytes]
  simp only [List.size_toArray, List.length_nil]
  omega

/-- A scaled word stays within the range. -/
theorem between_mem {low high : Nat} (ordered : low ≤ high) (generator : Generator) :
    low ≤ (generator.between low high).1 ∧ (generator.between low high).1 ≤ high := by
  simp only [between]
  generalize (wordUntil _ mostRedraws generator).1 = word
  have scaled : word.toNat * (high - low + 1) / (word32Max + 1) < high - low + 1 := by
    apply Nat.div_lt_of_lt_mul
    exact Nat.mul_lt_mul_of_pos_right word.toNat_lt (Nat.succ_pos _)
  generalize word.toNat * (high - low + 1) / (word32Max + 1) = offset at scaled ⊢
  omega

end Generator

namespace Chance

/-! ## Shares that leave no doubt -/

open Float.Model

theorem lt_iff_unpack {left right : Float} :
    left < right ↔ left.toModel.unpack.lt right.toModel.unpack = true := by
  change decide (left.toModel.unpack.lt right.toModel.unpack = true) = true ↔ _
  exact decide_eq_true_iff

theorem beq_eq_unpack (left right : Float) :
    (left == right) = left.toModel.unpack.beq right.toModel.unpack := rfl

theorem unpack_zero : (0 : Float).toModel.unpack = .zero .positive := rfl

theorem unpack_one : (1 : Float).toModel.unpack = .finite .positive (2 ^ 52) (-52) (by decide) :=
  rfl

theorem unpack_of_beq_zero {share : Float} (zero : (share == 0) = true) :
    ∃ sign, share.toModel.unpack = .zero sign := by
  rw [beq_eq_unpack, unpack_zero] at zero
  cases unpacked : share.toModel.unpack with
  | zero sign => exact ⟨sign, rfl⟩
  | notANumber =>
      rw [unpacked] at zero
      cases zero
  | infinity sign =>
      rw [unpacked] at zero
      cases sign <;> cases zero
  | finite sign =>
      rw [unpacked] at zero
      cases sign <;> cases zero

theorem unpack_of_beq_one {share : Float} (one : (share == 1) = true) :
    share.toModel.unpack = (1 : Float).toModel.unpack := by
  rw [beq_eq_unpack, unpack_one] at one
  rw [unpack_one]
  cases unpacked : share.toModel.unpack with
  | zero =>
      rw [unpacked] at one
      cases one
  | notANumber =>
      rw [unpacked] at one
      cases one
  | infinity sign =>
      rw [unpacked] at one
      cases sign <;> cases one
  | finite sign mantissa exponent =>
      rw [unpacked] at one
      cases sign with
      | negative => cases one
      | positive =>
          change (some ((compare exponent (-52)).then (compare mantissa (2 ^ 52))) ==
            some Ordering.eq) = true at one
          rw [beq_iff_eq, Option.some.injEq, Ordering.then_eq_eq, compare_eq_iff_eq,
            compare_eq_iff_eq] at one
          obtain ⟨rfl, rfl⟩ := one
          rfl

/-- Zero of either sign is neither negative nor positive. -/
theorem order_of_beq_zero {share : Float} (zero : (share == 0) = true) :
    ¬ share < 0 ∧ ¬ 0 < share ∧ ¬ 1 < share ∧ (share == 1) = false := by
  obtain ⟨sign, unpacked⟩ := unpack_of_beq_zero zero
  rw [lt_iff_unpack, lt_iff_unpack, lt_iff_unpack, beq_eq_unpack, unpacked, unpack_zero, unpack_one]
  cases sign <;> decide

theorem order_of_beq_one {share : Float} (one : (share == 1) = true) :
    ¬ share < 0 ∧ ¬ 1 < share := by
  rw [lt_iff_unpack, lt_iff_unpack, unpack_of_beq_one one, unpack_zero, unpack_one]
  decide

theorem ofShare_of_beq_zero {share : Float} (zero : (share == 0) = true) :
    ofShare share = .never := by
  obtain ⟨_, notPositive, _, notOne⟩ := order_of_beq_zero zero
  simp [ofShare, notOne, notPositive]

theorem ofShare_of_beq_one {share : Float} (one : (share == 1) = true) :
    ofShare share = .always := if_pos one

end Chance

/-- A generator keeps what is relied on of a source. -/
theorem Generator.sound_source : source.Sound where
  length_bytes := length_bytes
  happens_one _ generator one :=
    congrArg (fun chance => (chance.draw generator).1) (Chance.ofShare_of_beq_one one)
  between_mem _ _ generator ordered := between_mem ordered generator

end HitMonitor
