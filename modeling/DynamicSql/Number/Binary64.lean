/-
This file holds the floating-point numbers of 64 bits as exact values. A finite number is a sign
and a count of `units`, the unit being `2 ^ -1074`, the least positive number of the format; the
counts that occur are those with at most 53 significant bits below `2 ^ 2098`. Every operation
computes its exact result as a quotient of natural numbers and rounds it once, to the nearest
number of the format and of two equally near ones to the even one.
-/

namespace DynamicSql.Number

/-! ### The numbers -/

/-- The bits of a count of units below the one: the unit is `2 ^ -unitBits`. -/
def unitBits : Nat := 1074

/-- The bits of the greatest count of units. -/
def rangeBits : Nat := 2098

/-- The counts of units that a finite number can have: a significand of at most 53 bits (`2 ^ 53`
is `2 ^ 52` one binade up), shifted, within the range of the format. -/
def Representable (units : Nat) : Prop :=
  units < 1 <<< rangeBits ∧
    ∃ significand shift, significand ≤ 1 <<< 53 ∧ units = significand <<< shift

/-- A finite number: `units` times `2 ^ -1074`, with a sign that zero has too. -/
structure Finite64 where
  negative : Bool
  units : Nat
  representable : Representable units
  deriving DecidableEq

/-- A floating-point number of 64 bits; all the bit patterns of not-a-number are one value. -/
inductive Binary64 where
  | nan
  | infinite (negative : Bool)
  | finite (number : Finite64)
  deriving DecidableEq

/-- One, counted in units. -/
def unitsPerOne : Nat := 1 <<< unitBits

theorem one_shiftLeft_pos (shift : Nat) : 0 < 1 <<< shift := by
  rw [Nat.one_shiftLeft]
  exact Nat.two_pow_pos shift

theorem one_shiftLeft_mono {less more : Nat} (le : less ≤ more) : 1 <<< less ≤ 1 <<< more := by
  rw [Nat.one_shiftLeft, Nat.one_shiftLeft]
  exact Nat.pow_le_pow_right (by decide) le

/-- Zero with a sign. -/
def Finite64.zero (negative : Bool) : Finite64 :=
  ⟨negative, 0, one_shiftLeft_pos _, 0, 0, Nat.zero_le _, rfl⟩

/-- The count of units with the sign. -/
def Finite64.signedUnits (number : Finite64) : Int :=
  if number.negative then -Int.ofNat number.units else Int.ofNat number.units

namespace Binary64

/-- Zero with a sign. -/
def zero (negative : Bool) : Binary64 :=
  .finite (.zero negative)

/-! ### Rounding -/

/-- The integer nearest to a quotient, of two equally near ones the even one. -/
def nearestEven (numerator denominator : Nat) : Nat :=
  let quotient := numerator / denominator
  let twice := 2 * (numerator % denominator)
  if twice < denominator || (twice == denominator && quotient % 2 == 0) then quotient
  else quotient + 1

theorem nearestEven_le (numerator denominator : Nat) :
    nearestEven numerator denominator ≤ numerator / denominator + 1 := by
  unfold nearestEven
  dsimp only
  split <;> omega

/-- A format that fits into 64 bits: how many significant bits it keeps, the least shift it knows
and the bit count of its range, both in units. -/
structure Format where
  precision : Nat
  leastShift : Nat
  range : Nat
  precision_le : precision ≤ 53 := by decide
  range_le : range ≤ rangeBits := by decide

/-- All of the 64-bit format. -/
def Format.double : Format where
  precision := 53
  leastShift := 0
  range := rangeBits

/-- The part of it that the 32-bit format has. -/
def Format.single : Format where
  precision := 24
  leastShift := 925
  range := 1202

/-- The shift that leaves of a count of units no more than the significant bits. -/
def Format.shift (format : Format) (units : Nat) : Nat :=
  max format.leastShift (units.log2 + 1 - format.precision)

/-- The significand of a quotient of units, rounded. -/
def Format.significand (format : Format) (numerator denominator : Nat) : Nat :=
  nearestEven numerator (denominator <<< format.shift (numerator / denominator))

theorem Format.significand_le (format : Format) (numerator denominator : Nat) :
    format.significand numerator denominator ≤ 1 <<< 53 := by
  refine Nat.le_trans (nearestEven_le _ _) ?_
  rw [Nat.shiftLeft_eq, Nat.one_shiftLeft]
  have below : numerator / denominator <
      2 ^ format.precision * 2 ^ format.shift (numerator / denominator) := by
    refine Nat.lt_of_lt_of_le Nat.lt_log2_self ?_
    rw [← Nat.pow_add]
    refine Nat.pow_le_pow_right (by decide) ?_
    unfold Format.shift
    omega
  rw [← Nat.div_div_eq_div_mul]
  have quotient := Nat.div_lt_of_lt_mul (Nat.mul_comm _ _ ▸ below)
  have widest := Nat.pow_le_pow_right (by decide : 0 < 2) format.precision_le
  omega

/-- The number of the format nearest to a quotient of units; beyond its range, an infinity. -/
def round (format : Format) (negative : Bool) (numerator denominator : Nat) : Binary64 :=
  let shift := format.shift (numerator / denominator)
  let significand := format.significand numerator denominator
  if inRange : significand <<< shift < 1 <<< format.range then
    .finite ⟨negative, significand <<< shift,
      Nat.lt_of_lt_of_le inRange (one_shiftLeft_mono format.range_le),
      significand, shift, format.significand_le numerator denominator, rfl⟩
  else .infinite negative

/-- The number nearest to an integer. -/
def ofInt (value : Int) : Binary64 :=
  round .double (value < 0) (value.natAbs * unitsPerOne) 1

/-- The number nearest to `significand` times `10 ^ exponent`. A power of ten has between three
and four bits a place, which settles without any arithmetic the numbers far out of range. -/
def ofDecimal (negative : Bool) (significand : Nat) : Int → Binary64
  | .ofNat power =>
    if significand = 0 then zero negative
    else if 1100 ≤ significand.log2 + 3 * power then .infinite negative
    else round .double negative (significand * Nat.pow 10 power * unitsPerOne) 1
  | .negSucc power =>
    if significand.log2 + 1200 < 3 * (power + 1) then zero negative
    else round .double negative (significand * unitsPerOne) (Nat.pow 10 (power + 1))

/-! ### Order -/

/-- Numeric order. Zeros are equal whatever their signs; not-a-number compares with nothing. -/
def compare? : Binary64 → Binary64 → Option Ordering
  | .nan, _ => none
  | _, .nan => none
  | .infinite left, .infinite right => some (compare right left)
  | .infinite negative, .finite _ => some (if negative then .lt else .gt)
  | .finite _, .infinite negative => some (if negative then .gt else .lt)
  | .finite left, .finite right => some (compare left.signedUnits right.signedUnits)

/-- Numeric equality. -/
def equals (left right : Binary64) : Bool :=
  compare? left right == some .eq

/-- Neither a zero nor not-a-number. -/
def isNonzero : Binary64 → Bool
  | .nan => false
  | .infinite _ => true
  | .finite number => number.units != 0

/-! ### Arithmetic -/

/-- The number with the other sign. -/
def negate : Binary64 → Binary64
  | .nan => .nan
  | .infinite negative => .infinite !negative
  | .finite number => .finite { number with negative := !number.negative }

/-- The sum, rounded. An exact zero is negative only when both addends are. -/
def add : Binary64 → Binary64 → Binary64
  | .nan, _ => .nan
  | _, .nan => .nan
  | .infinite left, .infinite right => if left = right then .infinite left else .nan
  | .infinite negative, .finite _ => .infinite negative
  | .finite _, .infinite negative => .infinite negative
  | .finite left, .finite right =>
    let sum := left.signedUnits + right.signedUnits
    if sum = 0 then zero (left.negative && right.negative)
    else round .double (sum < 0) sum.natAbs 1

/-- The product of two finite numbers, rounded. -/
def product (left right : Finite64) : Binary64 :=
  round .double (left.negative != right.negative) (left.units * right.units) unitsPerOne

/-- The quotient of two finite numbers, the second not zero, rounded. -/
def quotient (left right : Finite64) : Binary64 :=
  round .double (left.negative != right.negative) (left.units * unitsPerOne) right.units

/-- The nearest number that the 32-bit format has as well. -/
def toSingle : Binary64 → Binary64
  | .finite number => round .single number.negative number.units 1
  | other => other

/-! ### Integers -/

/-- The integer that a number is, if it is one. -/
def toInt? : Binary64 → Option Int
  | .finite number =>
    if number.units % unitsPerOne = 0 then
      let magnitude := Int.ofNat (number.units / unitsPerOne)
      some (if number.negative then -magnitude else magnitude)
    else none
  | _ => none

end Binary64

end DynamicSql.Number
