/-
This file proves which operands obey the law of trichotomy. Operands that can be compared are either
less, equal or greater, and only one of these, with one kind of exception: two different texts that
write the same number. Strings are equal by their characters, but ordered as numbers where both
write one, so that `'1'` is neither less nor greater than `'1.0'`, and not equal to it either.
-/

import DynamicSql.Expr.Evaluation
import DynamicSql.Proofs.Value.Relations

namespace DynamicSql

open Number (Binary64)

namespace Value

/-! ### Texts that write one number -/

/-- Two strings of different characters that write the same number. -/
def WriteOneNumber (left right : Value) : Prop :=
  ∃ leftText rightText, left = .string leftText ∧ right = .string rightText ∧
    leftText ≠ rightText ∧ bothAnd Binary64.equals left.toFloat? right.toFloat? = true

variable {left right : Value}

theorem not_writeOneNumber (notTexts : (left.isString && right.isString) = false) :
    ¬ WriteOneNumber left right := by
  rintro ⟨leftText, rightText, rfl, rfl, -⟩
  cases notTexts

theorem writeOneNumber_iff {leftText rightText : String} :
    WriteOneNumber (.string leftText) (.string rightText) ↔
      leftText ≠ rightText ∧
        bothAnd Binary64.equals (Value.string leftText).toFloat? (Value.string rightText).toFloat? =
          true := by
  constructor
  · rintro ⟨_, _, ⟨⟩, ⟨⟩, different, sameNumber⟩
    exact ⟨different, sameNumber⟩
  · rintro ⟨different, sameNumber⟩
    exact ⟨leftText, rightText, rfl, rfl, different, sameNumber⟩

/-- Different texts are neither less nor greater only where they write the same number. -/
theorem looselyCompare?_eq_iff_writeOneNumber {leftText rightText : String}
    (different : leftText ≠ rightText) :
    (Value.string leftText).looselyCompare? (.string rightText) = some .eq ↔
      WriteOneNumber (.string leftText) (.string rightText) := by
  rw [writeOneNumber_iff, looselyCompare?_texts]
  have byCharacters : some (compare leftText rightText) ≠ some .eq := by
    rw [Ne, Option.some.injEq, Std.compare_eq_iff_eq]
    exact different
  cases (Value.string leftText).toFloat? with
  | none => exact iff_of_false byCharacters fun write => Bool.false_ne_true write.2
  | some left =>
    cases (Value.string rightText).toFloat? with
    | none => exact iff_of_false byCharacters fun write => Bool.false_ne_true write.2
    | some right =>
      rw [bothAnd, Binary64.equals, beq_iff_eq]
      exact ⟨fun same => ⟨different, same⟩, And.right⟩

/-- Equality and order go by the same reading of comparable values, but for texts that write one
number. -/
theorem looselyEquals_iff_of_comparable
    (comparable : (left.looselyCompare? right).isSome = true) :
    (left.looselyEquals right = (left.looselyCompare? right == some .eq)) ↔
      ¬ WriteOneNumber left right := by
  cases texts : left.isString && right.isString with
  | false =>
    refine iff_of_true ?_ (not_writeOneNumber texts)
    cases numeric : left.isNumber || right.isNumber with
    | true => exact (relatedBy_toFloat? numeric).looselyEquals_eq
    | false =>
      cases temporal : left.isTemporal || right.isTemporal with
      | true => exact (relatedBy_toDateTime? numeric temporal).looselyEquals_eq
      | false =>
        rw [looselyCompare?_of_plain numeric temporal texts] at comparable
        cases comparable
  | true =>
    obtain ⟨leftText, rightText, rfl, rfl⟩ := exists_texts texts
    rw [equals_texts]
    by_cases same : leftText = rightText
    · subst same
      have notOrdered := (looselyCompare?_self (.string leftText)).resolve_left fun isNone => by
        rw [isNone] at comparable
        cases comparable
      rw [notOrdered, beq_self_eq_true, beq_self_eq_true]
      exact iff_of_true rfl fun write => (writeOneNumber_iff.1 write).1 rfl
    · rw [← looselyCompare?_eq_iff_writeOneNumber same, beq_false_of_ne same, eq_comm,
        beq_eq_false_iff_ne]

end Value

namespace Expr

/-! ### Comparisons as they are evaluated -/

variable (resolve : Path → Option Value)

/-- How many of the comparisons less, equal and greater hold between two expressions. -/
def countHolding (left right : Expr) : Nat :=
  [Comparison.less, .equal, .greater].countP fun comparison =>
    evalBool resolve (.compare comparison left right)

/-- Of expressions whose values can be compared exactly one is less than, equal to or greater than
the other, and they are equal if neither is greater, unless their values are different texts that
write one number; of those none of the three holds, and both are at most and at least the other. -/
theorem countHolding_eq_one_iff (left right : Expr)
    (comparable : ((left.eval resolve).looselyCompare? (right.eval resolve)).isSome = true) :
    (countHolding resolve left right = 1 ↔
        ¬ Value.WriteOneNumber (left.eval resolve) (right.eval resolve)) ∧
      (countHolding resolve left right = 0 ↔
        Value.WriteOneNumber (left.eval resolve) (right.eval resolve)) ∧
      ((evalBool resolve (.compare .lessOrEqual left right) = true →
          evalBool resolve (.compare .greaterOrEqual left right) = true →
            evalBool resolve (.compare .equal left right) = true) ↔
        ¬ Value.WriteOneNumber (left.eval resolve) (right.eval resolve)) ∧
      (Value.WriteOneNumber (left.eval resolve) (right.eval resolve) →
        evalBool resolve (.compare .lessOrEqual left right) = true ∧
          evalBool resolve (.compare .greaterOrEqual left right) = true) := by
  rw [iff_not_comm.1 (Value.looselyEquals_iff_of_comparable comparable)]
  have notOrdered :=
    @Value.looselyCompare?_of_looselyEquals (left.eval resolve) (right.eval resolve)
  obtain ⟨order, isOrder⟩ := Option.isSome_iff_exists.1 comparable
  simp only [countHolding, evalBool, Comparison.holds, List.countP_cons, List.countP_nil, isOrder]
  rw [isOrder] at notOrdered
  -- What is left are the four ways in which the values can be equal or ordered.
  generalize (left.eval resolve).looselyEquals (right.eval resolve) = equal at notOrdered ⊢
  cases order <;> cases equal <;> revert notOrdered <;> decide

/-- Numbers may be written as texts; they are ordered as numbers then, not by their characters. -/
theorem countHolding_eq_one_iff_nineTen :
    let noPaths : Path → Option Value := fun _ => none
    let nine : Expr := .value (.string "9")
    let ten : Expr := .value (.string "10")
    ((nine.eval noPaths).looselyCompare? (ten.eval noPaths)).isSome = true ∧
      countHolding noPaths nine ten = 1 ∧ evalBool noPaths (.compare .less nine ten) = true := by
  intro noPaths nine ten
  have less : (Value.string "9").looselyCompare? (.string "10") = some .lt := by decide +kernel
  have comparable : ((nine.eval noPaths).looselyCompare? (ten.eval noPaths)).isSome = true := by
    simp only [nine, ten, eval, less, Option.isSome_some]
  have different : ¬ Value.WriteOneNumber (nine.eval noPaths) (ten.eval noPaths) := by
    rw [← Value.looselyEquals_iff_of_comparable comparable]
    simp only [nine, ten, eval, less]
    rfl
  refine ⟨comparable, (countHolding_eq_one_iff noPaths nine ten comparable).1.2 different, ?_⟩
  simp only [nine, ten, evalBool, eval, Comparison.holds, less]
  rfl

/-- One is neither less than, equal to nor greater than one, if the two are written as different
texts, and is at most and at least one all the same. -/
theorem countHolding_ne_one :
    let noPaths : Path → Option Value := fun _ => none
    let short : Expr := .value (.string "1")
    let long : Expr := .value (.string "1.0")
    ((short.eval noPaths).looselyCompare? (long.eval noPaths)).isSome = true ∧
      countHolding noPaths short long = 0 ∧
        evalBool noPaths (.compare .lessOrEqual short long) = true ∧
          evalBool noPaths (.compare .greaterOrEqual short long) = true ∧
            evalBool noPaths (.compare .equal short long) = false := by
  intro noPaths short long
  have same : (Value.string "1").looselyCompare? (.string "1.0") = some .eq := by decide +kernel
  have different : (Value.string "1").looselyEquals (.string "1.0") = false := by decide
  simp only [countHolding, short, long, evalBool, eval, Comparison.holds, List.countP_cons,
    List.countP_nil, same, different]
  decide

end Expr

end DynamicSql
