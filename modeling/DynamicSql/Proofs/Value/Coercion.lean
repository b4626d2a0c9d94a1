/-
This file settles when coercion to an integer type keeps the number of a value. Integers, finite
floating-point numbers and texts that write integers stand for exact rational numbers. Coercion
leaves such a value as it is or makes an integer of it, and the integer is the same number with one
exception: a floating-point number without a fraction that is beyond the words of 64 bits becomes
the nearest word when a wide type is declared (`keepsNumber_coerce_iff`). A text out of range is
left alone, and so is every number that is too large for a narrow type.
-/

import DynamicSql.Proofs.Expr.RunningSums
import DynamicSql.Proofs.Number.Numeral
import Mathlib.Algebra.Field.Rat
import Mathlib.Data.Rat.Cast.Lemmas

namespace DynamicSql

/-! ### The numbers that floating-point numbers are -/

namespace Number

/-- The number that a finite floating-point number is. -/
def Finite64.toRat (number : Finite64) : ℚ :=
  (number.signedUnits : ℚ) / (unitsPerOne : ℚ)

theorem unitsPerOne_pos : 0 < unitsPerOne :=
  one_shiftLeft_pos unitBits

/-- A count of units is an integer exactly if nothing is left when it is divided by the units of
one. -/
theorem mul_unitsPerOne_eq_iff {units : Nat} {integer : Int} :
    integer * (unitsPerOne : Int) = (units : Int) ↔
      units % unitsPerOne = 0 ∧ ((units / unitsPerOne : Nat) : Int) = integer := by
  have positive : (unitsPerOne : Int) ≠ 0 := Int.ofNat_ne_zero.2 (Nat.ne_of_gt unitsPerOne_pos)
  constructor
  · intro same
    have divides : (unitsPerOne : Int) ∣ (units : Int) := Dvd.intro_left integer same
    refine ⟨Nat.mod_eq_zero_of_dvd (Int.ofNat_dvd.1 divides), ?_⟩
    rw [Int.natCast_ediv, ← same, Int.mul_ediv_cancel _ positive]
  · rintro ⟨noRemainder, rfl⟩
    exact_mod_cast Nat.div_mul_cancel (Nat.dvd_of_mod_eq_zero noRemainder)

/-- A finite number is read as an integer exactly if it is equal to it. -/
theorem Binary64.toInt?_eq_some_iff {number : Finite64} {integer : Int} :
    (Binary64.finite number).toInt? = some integer ↔ (integer : ℚ) = number.toRat := by
  have positive : (unitsPerOne : ℚ) ≠ 0 := Nat.cast_ne_zero.2 (Nat.ne_of_gt unitsPerOne_pos)
  have inUnits : (integer : ℚ) = number.toRat ↔
      integer * (unitsPerOne : Int) = number.signedUnits := by
    rw [Finite64.toRat, eq_div_iff positive]
    exact_mod_cast Iff.rfl
  obtain ⟨negative, units, representable⟩ := number
  rw [inUnits]
  cases negative with
  | false =>
    simp only [Finite64.signedUnits, toInt?, Int.ofNat_eq_natCast, Bool.false_eq_true, if_false]
    rw [mul_unitsPerOne_eq_iff]
    simp
  | true =>
    simp only [Finite64.signedUnits, toInt?, Int.ofNat_eq_natCast, if_true]
    rw [← neg_eq_iff_eq_neg, ← Int.neg_mul, mul_unitsPerOne_eq_iff, ← neg_eq_iff_eq_neg]
    simp

end Number

namespace Value

/-! ### Names of integer types -/

/-- The words for the integer types. -/
def integerWords : TypeFamily → List String
  | .int32 => ["int", "integer", "short", "byte", "i32"]
  | .int64 => ["long", "bigint", "i64"]
  | _ => []

/-- A name of an integer type: one of its words in any case, alone or behind a qualifier that ends
in a point. -/
def NamesInteger (family : TypeFamily) (declared : String) : Prop :=
  ∃ qualifier name, declared.toList = qualifier ++ name ∧
    (qualifier = [] ∨ qualifier.getLast? = some '.') ∧
      String.ofList ((Text.trim name).map Text.lowerAscii) ∈ integerWords family

theorem not_mem_point_of_mem_integerWords {family : TypeFamily} {word : String}
    (member : word ∈ integerWords family) : '.' ∉ word.toList := by
  cases family with
  | int32 => revert word; decide
  | int64 => revert word; decide
  | _ => cases member

theorem ofWord?_of_mem_integerWords {family : TypeFamily} {word : String}
    (member : word ∈ integerWords family) : TypeFamily.ofWord? word = some family := by
  cases family with
  | int32 => revert word; decide
  | int64 => revert word; decide
  | _ => cases member

/-- The word behind the last point of a name decides. -/
theorem ofName?_of_namesInteger {family : TypeFamily} {declared : String}
    (names : NamesInteger family declared) : TypeFamily.ofName? declared = some family := by
  obtain ⟨qualifier, name, whole, ends, member⟩ := names
  have noPoint : '.' ∉ name := fun isPoint => by
    refine not_mem_point_of_mem_integerWords member ?_
    rw [String.toList_ofList]
    exact List.mem_map.2 ⟨'.', Text.mem_trim_of_mem isPoint (by decide), by decide⟩
  have isWord : typeWord declared = String.ofList ((Text.trim name).map Text.lowerAscii) := by
    rw [typeWord, whole]
    rcases ends with rfl | last
    · rw [List.nil_append, Text.cutLast?_eq_none_iff.2 noPoint]
    · obtain ⟨front, rfl⟩ := List.getLast?_eq_some_iff.1 last
      rw [List.append_assoc, List.singleton_append, Text.cutLast?_append noPoint]
  rw [TypeFamily.ofName?, isWord, ofWord?_of_mem_integerWords member]

/-! ### The numbers that values stand for -/

/-- The number that a value stands for. -/
inductive Denotes : Value → ℚ → Prop
  | int32 (value : Int32) : Denotes (.int32 value) value.toInt
  | int64 (value : Int64) : Denotes (.int64 value) value.toInt
  | float (number : Number.Finite64) : Denotes (.float (.finite number)) number.toRat
  | string {text : String} {integer : Int}
      (written : Number.WritesInteger (Text.trim text.toList) integer) :
      Denotes (.string text) integer

/-- A result that has kept the number of a value: the value itself, or an integer that is equal to
the number. -/
def KeepsNumber (value : Value) (number : ℚ) (result : Value) : Prop :=
  result = value ∨ ∃ integer : Int, result.integer? = some integer ∧ (integer : ℚ) = number

/-- A floating-point number that is equal to an integer beyond the words of 64 bits. -/
def IsBeyond (value : Value) (integer : Int) : Prop :=
  (∃ number, value = .float number) ∧ value.Denotes integer ∧ fits integer = false

theorem Denotes.unique {value : Value} {first second : ℚ} (denotes : value.Denotes first)
    (again : value.Denotes second) : first = second := by
  cases denotes with
  | int32 | int64 | float =>
    cases again
    rfl
  | string written =>
    cases again with
    | string writtenAgain => rw [written.unique writtenAgain]

variable {family : TypeFamily} {declared : String} {value : Value} {number : ℚ} {word : Int64}

/-! ### Values as words -/

theorem fits_toInt (word : Int64) : fits word.toInt = true :=
  fits_iff.2 ⟨Int64.minValue_le_toInt word, Int64.toInt_le word⟩

/-- An integer that does not fit into a word becomes a bound of the words. -/
theorem clampInt64_of_not_fits {integer : Int} (beyond : fits integer = false) :
    clampInt64 integer = Int64.minValue ∨ clampInt64 integer = Int64.maxValue := by
  have outside : ¬ (leastInt64 ≤ integer ∧ integer ≤ greatestInt64) := by
    rw [← fits_iff, beyond]
    exact Bool.false_ne_true
  have ordered : leastInt64 ≤ greatestInt64 := by decide
  have clamped : max leastInt64 (min greatestInt64 integer) = leastInt64 ∨
      max leastInt64 (min greatestInt64 integer) = greatestInt64 := by
    omega
  unfold clampInt64
  rcases clamped with same | same
  · exact Or.inl (by rw [same]; exact Int64.ofInt_toInt _)
  · exact Or.inr (by rw [same]; exact Int64.ofInt_toInt _)

theorem toInt_clampInt64_of_fits {integer : Int} (inRange : fits integer = true) :
    (clampInt64 integer).toInt = integer := by
  obtain ⟨least, greatest⟩ := fits_iff.1 inRange
  rw [clampInt64, Int.min_eq_right greatest, Int.max_eq_right least, toInt_ofInt_of_fits inRange]

/-- A value that is read as a word is equal to the word, unless it is beyond the words: then the
word is the nearest one. -/
theorem word_of_denotes (denotes : value.Denotes number) (read : value.toInt64? = some word) :
    ((word.toInt : ℚ) = number) ∨
      ∃ integer, value.IsBeyond integer ∧ word = clampInt64 integer := by
  cases denotes with
  | int32 value =>
    obtain rfl := Option.some.inj read
    exact Or.inl (by rw [Int32.toInt_toInt64])
  | int64 value =>
    obtain rfl := Option.some.inj read
    exact Or.inl rfl
  | float number =>
    obtain ⟨integer, isInteger, rfl⟩ := Option.map_eq_some_iff.1 read
    have same := Number.Binary64.toInt?_eq_some_iff.1 isInteger
    cases inRange : fits integer with
    | true => exact Or.inl (by rw [toInt_clampInt64_of_fits inRange, same])
    | false => exact Or.inr ⟨integer, ⟨⟨_, rfl⟩, same ▸ .float number, inRange⟩, rfl⟩
  | string written =>
    obtain ⟨integer, isInteger, rfl⟩ := Option.map_eq_some_iff.1 read
    obtain ⟨writtenAgain, inRange⟩ := Number.readSigned?_eq_some_iff.1 isInteger
    rw [written.unique writtenAgain, toInt_ofInt_of_fits (fits_iff.2 inRange)]
    exact Or.inl rfl

/-- A number beyond the words is read as the nearest word. -/
theorem IsBeyond.toInt64? {integer : Int} (beyond : value.IsBeyond integer) :
    value.toInt64? = some (clampInt64 integer) := by
  obtain ⟨⟨number, rfl⟩, denotes, -⟩ := beyond
  generalize same : (integer : ℚ) = image at denotes
  cases denotes with
  | float number =>
    rw [Value.toInt64?, Number.Binary64.toInt?_eq_some_iff.2 same, Option.map_some]

/-- A word becomes the narrow integer of the same number. -/
theorem narrow?_eq_some_iff {narrow : Int32} :
    narrow? word = some narrow ↔ narrow.toInt = word.toInt := by
  unfold narrow?
  constructor
  · intro isNarrow
    split at isNarrow
    · next inRange =>
      obtain rfl := Option.some.inj isNarrow
      obtain ⟨least, greatest⟩ := Bool.and_eq_true_iff.1 inRange
      have least : -2 ^ 31 ≤ word.toInt := of_decide_eq_true least
      have greatest : word.toInt ≤ 2 ^ 31 - 1 := of_decide_eq_true greatest
      rw [Int64.toInt_toInt32, Int.bmod_eq_of_le (by omega) (by omega)]
    · cases isNarrow
  · intro same
    obtain rfl : narrow.toInt64 = word :=
      Int64.toInt_inj.1 (by rw [Int32.toInt_toInt64, same])
    rw [Int32.toInt_toInt64, decide_eq_true (Int32.minValue_le_toInt narrow),
      decide_eq_true (Int32.toInt_le narrow), Int32.toInt32_toInt64]
    rfl

/-! ### Coercion to integer types -/

theorem family_of_namesInteger (names : NamesInteger family declared) :
    family = .int32 ∨ family = .int64 := by
  obtain ⟨_, _, _, _, member⟩ := names
  cases family with
  | int32 => exact Or.inl rfl
  | int64 => exact Or.inr rfl
  | _ => cases member

/-- A declared integer type takes the value as an integer of its width, if there is one. -/
theorem coerce_of_namesInteger (names : NamesInteger family declared) (value : Value) :
    value.coerce declared = (value.as? family).getD value := by
  rw [coerce, ofName?_of_namesInteger names, Option.bind_some]
  cases value with
  | null => rcases family_of_namesInteger names with rfl | rfl <;> rfl
  | _ => rfl

/-- An integer of the width of a type is taken as it is. -/
theorem as?_of_as? (names : NamesInteger family declared) {result : Value}
    (follows : value.as? family = some result) : result.as? family = some result := by
  rcases family_of_namesInteger names with rfl | rfl
  · obtain ⟨narrow, -, rfl⟩ := Option.map_eq_some_iff.1 follows
    have back : narrow? narrow.toInt64 = some narrow :=
      narrow?_eq_some_iff.2 (Int32.toInt_toInt64 narrow).symm
    rw [as?, Value.toInt64?, Option.bind_some, back, Option.map_some]
  · obtain ⟨word, -, rfl⟩ := Option.map_eq_some_iff.1 follows
    rfl

/-- Coercing a second time changes nothing. -/
theorem coerce_coerce (names : NamesInteger family declared) (value : Value) :
    (value.coerce declared).coerce declared = value.coerce declared := by
  rw [coerce_of_namesInteger names value]
  cases follows : value.as? family with
  | none => rw [Option.getD_none, coerce_of_namesInteger names, follows, Option.getD_none]
  | some result =>
    rw [Option.getD_some, coerce_of_namesInteger names, as?_of_as? names follows, Option.getD_some]

/-- A number beyond the words does not become a narrow integer. -/
theorem IsBeyond.as?_int32 {integer : Int} (beyond : value.IsBeyond integer) :
    value.as? .int32 = none := by
  have bounds : narrow? Int64.minValue = none ∧ narrow? Int64.maxValue = none := by decide
  have noNarrow : narrow? (clampInt64 integer) = none := by
    rcases clampInt64_of_not_fits beyond.2.2 with same | same
    · rw [same, bounds.1]
    · rw [same, bounds.2]
  rw [as?, beyond.toInt64?, Option.bind_some, noNarrow, Option.map_none]

/-- What a value becomes as an integer has its number, unless it is beyond the words and the type
is wide. -/
theorem keepsNumber_of_as? (names : NamesInteger family declared) (denotes : value.Denotes number)
    (inRange : ¬ (family = .int64 ∧ ∃ integer, value.IsBeyond integer)) {result : Value}
    (follows : value.as? family = some result) :
    ∃ integer : Int, result.integer? = some integer ∧ (integer : ℚ) = number := by
  rcases family_of_namesInteger names with rfl | rfl
  · obtain ⟨narrow, isNarrow, rfl⟩ := Option.map_eq_some_iff.1 follows
    obtain ⟨word, isWord, fitsIn⟩ := Option.bind_eq_some_iff.1 isNarrow
    rcases word_of_denotes denotes isWord with same | ⟨integer, beyond, -⟩
    · exact ⟨narrow.toInt, rfl, by rw [narrow?_eq_some_iff.1 fitsIn, same]⟩
    · rw [beyond.as?_int32] at follows
      cases follows
  · obtain ⟨word, isWord, rfl⟩ := Option.map_eq_some_iff.1 follows
    rcases word_of_denotes denotes isWord with same | ⟨integer, beyond, -⟩
    · exact ⟨word.toInt, rfl, same⟩
    · exact absurd ⟨rfl, integer, beyond⟩ inRange

/-- A number beyond the words becomes the nearest word if a wide type is declared. -/
theorem IsBeyond.coerce {integer : Int} (beyond : value.IsBeyond integer)
    (names : NamesInteger .int64 declared) :
    value.coerce declared = .int64 (clampInt64 integer) := by
  rw [coerce_of_namesInteger names, as?, beyond.toInt64?]
  rfl

/-- The nearest word is not the number, which is beyond the words. -/
theorem IsBeyond.not_keepsNumber {integer : Int} (beyond : value.IsBeyond integer)
    (denotes : value.Denotes number) :
    ¬ value.KeepsNumber number (.int64 (clampInt64 integer)) := by
  obtain ⟨⟨float, rfl⟩, denotesInteger, outside⟩ := beyond
  rintro (same | ⟨other, isOther, equal⟩)
  · cases same
  · obtain rfl := Option.some.inj isOther
    have same := Int.cast_injective (equal.trans (denotes.unique denotesInteger))
    rw [← same, fits_toInt] at outside
    cases outside

/-- Coercion to an integer type keeps the number of a value exactly unless it is a floating-point
number beyond the words of 64 bits and the type is wide. Such a number becomes the nearest word.
What coercion gives is never changed by coercing it again. -/
theorem keepsNumber_coerce_iff (names : NamesInteger family declared)
    (denotes : value.Denotes number) :
    (value.KeepsNumber number (value.coerce declared) ↔
        ¬ (family = .int64 ∧ ∃ integer, value.IsBeyond integer)) ∧
      (∀ integer, family = .int64 → value.IsBeyond integer →
        value.coerce declared = .int64 (clampInt64 integer)) ∧
      (value.coerce declared).coerce declared = value.coerce declared := by
  refine ⟨⟨?_, fun inRange => ?_⟩, ?_, coerce_coerce names value⟩
  · rintro keeps ⟨rfl, integer, beyond⟩
    rw [beyond.coerce names] at keeps
    exact beyond.not_keepsNumber denotes keeps
  · rw [coerce_of_namesInteger names]
    cases follows : value.as? family with
    | none => exact Or.inl rfl
    | some result => exact Or.inr (keepsNumber_of_as? names denotes inRange follows)
  · rintro integer rfl beyond
    exact beyond.coerce names

/-- The greatest floating-point number below `2 ^ 63`. -/
def greatestBelow : Number.Finite64 :=
  ⟨false, (2 ^ 53 - 1) <<< 1084, by decide +kernel, 2 ^ 53 - 1, 1084, by decide, rfl⟩

/-- The greatest floating-point number below `2 ^ 63` keeps its number as a wide integer. -/
theorem keepsNumber_coerce_greatestBelow :
    NamesInteger .int64 "java.lang.LONG" ∧
      Denotes (.float (.finite greatestBelow)) (9223372036854774784 : Int) ∧
      KeepsNumber (.float (.finite greatestBelow)) (9223372036854774784 : Int)
        (coerce "java.lang.LONG" (.float (.finite greatestBelow))) := by
  have names : NamesInteger .int64 "java.lang.LONG" :=
    ⟨"java.lang.".toList, "LONG".toList, by decide, Or.inr (by decide), by decide⟩
  have isInteger : (Number.Binary64.finite greatestBelow).toInt? = some 9223372036854774784 := by
    decide +kernel
  have denotes : Denotes (.float (.finite greatestBelow)) (9223372036854774784 : Int) :=
    Number.Binary64.toInt?_eq_some_iff.1 isInteger ▸ .float greatestBelow
  refine ⟨names, denotes, (keepsNumber_coerce_iff names denotes).1.2 ?_⟩
  rintro ⟨-, integer, -, again, outside⟩
  obtain rfl := Int.cast_injective (denotes.unique again)
  revert outside
  decide

/-- The floating-point number `10 ^ 19`. -/
def tenToNineteen : Number.Finite64 :=
  ⟨false, (5 ^ 19) <<< 1093, by decide +kernel, 5 ^ 19, 1093, by decide, rfl⟩

/-- The number `10 ^ 19` is beyond the words of 64 bits and becomes the greatest of them. -/
theorem not_keepsNumber_coerce_tenToNineteen :
    NamesInteger .int64 "long" ∧
      Denotes (.float (.finite tenToNineteen)) ((10 ^ 19 : Int) : ℚ) ∧
      coerce "long" (.float (.finite tenToNineteen)) = .int64 Int64.maxValue ∧
      ¬ KeepsNumber (.float (.finite tenToNineteen)) ((10 ^ 19 : Int) : ℚ)
        (coerce "long" (.float (.finite tenToNineteen))) := by
  have names : NamesInteger .int64 "long" := ⟨[], "long".toList, rfl, Or.inl rfl, by decide⟩
  have isInteger : (Number.Binary64.finite tenToNineteen).toInt? = some (10 ^ 19) := by
    decide +kernel
  have denotes : Denotes (.float (.finite tenToNineteen)) ((10 ^ 19 : Int) : ℚ) :=
    Number.Binary64.toInt?_eq_some_iff.1 isInteger ▸ .float tenToNineteen
  have beyond : IsBeyond (.float (.finite tenToNineteen)) (10 ^ 19) :=
    ⟨⟨_, rfl⟩, denotes, by decide⟩
  have nearest : clampInt64 (10 ^ 19) = Int64.maxValue := by decide
  refine ⟨names, denotes, by rw [beyond.coerce names, nearest], ?_⟩
  rw [beyond.coerce names]
  exact beyond.not_keepsNumber denotes

end Value

end DynamicSql
