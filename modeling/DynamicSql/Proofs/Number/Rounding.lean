/-
This file proves that rounding leaves alone what needs none: a count of units that a number of the
format has is its own nearest one. A number of at most 53 significant bits is divisible by the power
of two that the format shifts it by, so that the significand is an exact quotient. Nothing that
needs fewer bits than the range has is rounded to an infinity. Adding the negative zero to a number
gives the number back, which is why sums can begin with it.
-/

import DynamicSql.Number.Binary64
import Mathlib.Algebra.Group.Nat.Defs

namespace DynamicSql.Number

namespace Binary64

/-! ### Counts of units that are in the format -/

/-- An exact quotient is its own nearest integer. -/
theorem nearestEven_of_dvd {numerator denominator : Nat} (positive : 0 < denominator)
    (divides : denominator ∣ numerator) :
    nearestEven numerator denominator = numerator / denominator := by
  have noRemainder : numerator % denominator = 0 := Nat.mod_eq_zero_of_dvd divides
  unfold nearestEven
  simp [noRemainder, positive]

theorem log2_mul_two_pow {significand : Nat} (filled : significand ≠ 0) (shift : Nat) :
    (significand * 2 ^ shift).log2 = significand.log2 + shift := by
  have positive := Nat.two_pow_pos shift
  obtain ⟨least, most⟩ := (Nat.log2_eq_iff filled).1 rfl
  refine (Nat.log2_eq_iff (Nat.mul_ne_zero filled (Nat.ne_of_gt positive))).2 ⟨?_, ?_⟩
  · rw [Nat.pow_add]
    exact Nat.mul_le_mul_right _ least
  · rw [Nat.add_right_comm, Nat.pow_add]
    exact Nat.mul_lt_mul_of_pos_right most positive

/-- A count of at most 53 significant bits is divisible by the power of two it is shifted by. -/
theorem two_pow_shift_dvd {units : Nat} (representable : Representable units) :
    2 ^ Format.double.shift units ∣ units := by
  obtain ⟨-, significand, shift, small, rfl⟩ := representable
  rw [Nat.shiftLeft_eq]
  rw [Nat.one_shiftLeft] at small
  by_cases filled : significand = 0
  · rw [filled, Nat.zero_mul]
    exact Nat.dvd_zero _
  have bits := log2_mul_two_pow filled shift
  rcases Nat.lt_or_eq_of_le small with below | rfl
  · -- No more bits are shifted out than the count has zeros at its end.
    have bound : significand.log2 < 53 := (Nat.log2_lt filled).2 below
    have tight : Format.double.shift (significand * 2 ^ shift) ≤ shift := by
      simp only [Format.shift, Format.double, bits]
      omega
    exact Nat.dvd_mul_left_of_dvd (Nat.pow_dvd_pow 2 tight) significand
  · have exact : Format.double.shift (2 ^ 53 * 2 ^ shift) = shift + 1 := by
      simp only [Format.shift, Format.double, bits, Nat.log2_two_pow]
      omega
    rw [exact, ← Nat.pow_add]
    exact Nat.pow_dvd_pow 2 (by omega)

/-- A count of units that is in the format is rounded to itself. -/
theorem round_representable (negative : Bool) {units : Nat} (representable : Representable units) :
    round .double negative units 1 = .finite ⟨negative, units, representable⟩ := by
  have divides := two_pow_shift_dvd representable
  have whole : Format.double.significand units 1 <<< Format.double.shift units = units := by
    rw [Format.significand, Nat.div_one, Nat.one_shiftLeft,
      nearestEven_of_dvd (Nat.two_pow_pos _) divides, Nat.shiftLeft_eq, Nat.div_mul_cancel divides]
  unfold round
  simp only [Nat.div_one, whole]
  exact dif_pos representable.1

/-! ### Finite results -/

/-- A quotient that needs fewer bits than the range has is rounded to a finite number. -/
theorem exists_round_eq_finite (negative : Bool) {numerator denominator bits : Nat}
    (small : numerator / denominator < 2 ^ bits) (inRange : bits < rangeBits) :
    ∃ number, round .double negative numerator denominator = .finite number := by
  have significand := Format.double.significand_le numerator denominator
  rw [Nat.one_shiftLeft] at significand
  have shift : Format.double.shift (numerator / denominator) ≤ bits - 53 := by
    by_cases nothing : numerator / denominator = 0
    · rw [nothing]
      exact Nat.zero_le _
    · have digits := (Nat.log2_lt nothing).2 small
      simp only [Format.shift, Format.double]
      omega
  have fits : Format.double.significand numerator denominator <<<
      Format.double.shift (numerator / denominator) < 1 <<< rangeBits := by
    rw [Nat.shiftLeft_eq, Nat.one_shiftLeft]
    refine Nat.lt_of_le_of_lt
      (Nat.mul_le_mul significand (Nat.pow_le_pow_right (by decide) shift)) ?_
    rw [← Nat.pow_add]
    refine Nat.pow_lt_pow_right (by decide) ?_
    unfold rangeBits at inRange ⊢
    omega
  unfold round
  exact ⟨_, dif_pos fits⟩

/-- The number nearest to an integer of 64 bits is finite. -/
theorem exists_ofInt_eq_finite {value : Int} (small : value.natAbs < UInt64.size) :
    ∃ number, ofInt value = .finite number := by
  have bits : value.natAbs * unitsPerOne / 1 < 2 ^ (64 + unitBits) := by
    rw [Nat.div_one, unitsPerOne, Nat.one_shiftLeft, Nat.pow_add]
    exact Nat.mul_lt_mul_of_pos_right small (Nat.two_pow_pos _)
  exact exists_round_eq_finite _ bits (by decide)

/-! ### Adding to the negative zero -/

/-- The negative zero added to a number is the number. -/
theorem negativeZero_add (number : Binary64) : (zero true).add number = number := by
  cases number with
  | nan => rfl
  | infinite negative => rfl
  | finite number =>
    obtain ⟨negative, units, representable⟩ := number
    have signed : (Finite64.zero true).signedUnits = 0 := rfl
    by_cases nothing : units = 0
    · subst nothing
      cases negative <;> rfl
    · have filled : (Finite64.mk negative units representable).signedUnits ≠ 0 := by
        cases negative <;> simp [Finite64.signedUnits, nothing]
      have sign : decide ((Finite64.mk negative units representable).signedUnits < 0) =
          negative := by
        cases negative <;> simp [Finite64.signedUnits, Nat.pos_of_ne_zero nothing]
      have magnitude : (Finite64.mk negative units representable).signedUnits.natAbs = units := by
        cases negative <;> simp [Finite64.signedUnits]
      simp only [zero, add, signed, Int.zero_add, if_neg filled, sign, magnitude]
      exact round_representable negative representable

end Binary64

end DynamicSql.Number
