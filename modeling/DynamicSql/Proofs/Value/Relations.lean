/-
This file proves that the equality and the order of test expressions go together. For most pairs of
values both go by one reading of the two values: as numbers if either is a number, else as moments
if either is a date or a time. They are equal in both senses or in neither then. All other pairs are
equal if they are strictly equal, and only strings among them are ordered. So neither relation
depends on which value is named first, and equal values are never ordered.
-/

import DynamicSql.Expr.Basic
import DynamicSql.Proofs.Value.Equality

namespace DynamicSql.Value

open Calendar (DateTime)
open Number (Binary64)

/-! ### Relations by a reading -/

section Readings

variable {Reading : Type} {order : Reading → Reading → Option Ordering}
  {reading : Value → Option Reading} {left right : Value}

/-- The order of two readings, if both are there. -/
def orderOf? (order : Reading → Reading → Option Ordering) :
    Option Reading → Option Reading → Option Ordering
  | some left, some right => order left right
  | _, _ => none

@[simp]
theorem orderOf?_none_left (right : Option Reading) : orderOf? order none right = none := by
  cases right <;> rfl

@[simp]
theorem orderOf?_none_right (left : Option Reading) : orderOf? order left none = none := by
  cases left <;> rfl

/-- Two values are equal and ordered as their readings are. -/
structure RelatedBy (order : Reading → Reading → Option Ordering)
    (reading : Value → Option Reading) (left right : Value) : Prop where
  equality : left.looselyEquals right =
    (orderOf? order (reading left) (reading right) == some .eq)
  comparison : left.looselyCompare? right = orderOf? order (reading left) (reading right)

theorem orderOf?_swap
    (swap : ∀ first second, order first second = (order second first).map Ordering.swap)
    (left right : Option Reading) :
    orderOf? order left right = (orderOf? order right left).map Ordering.swap := by
  cases left with
  | none => cases right <;> rfl
  | some first =>
    cases right with
    | none => rfl
    | some second => exact swap first second

theorem bothAnd_eq_orderOf? (relation : Reading → Reading → Bool)
    (isEqual : ∀ first second, relation first second = (order first second == some .eq))
    (left right : Option Reading) :
    bothAnd relation left right = (orderOf? order left right == some .eq) := by
  cases left with
  | none => rfl
  | some first =>
    cases right with
    | none => rfl
    | some second => exact isEqual first second

/-- Values related by a reading are equal exactly where they are not ordered but can be compared. -/
theorem RelatedBy.looselyEquals_eq (related : RelatedBy order reading left right) :
    left.looselyEquals right = (left.looselyCompare? right == some .eq) := by
  rw [related.equality, related.comparison]

end Readings

/-- The order of two moments in time. -/
def compareMoments (left right : DateTime) : Option Ordering :=
  some (compare left.rank right.rank)

theorem compareMoments_swap (left right : DateTime) :
    compareMoments left right = (compareMoments right left).map Ordering.swap :=
  congrArg some Std.OrientedOrd.eq_swap

/-- Moments are equal exactly where neither is before the other. -/
theorem beq_eq_compareMoments (left right : DateTime) :
    (left == right) = (compareMoments left right == some .eq) := by
  rw [Bool.eq_iff_iff, beq_iff_eq, beq_iff_eq, compareMoments, Option.some.injEq,
    Std.compare_eq_iff_eq]
  exact ⟨congrArg DateTime.rank, DateTime.eq_of_rank_eq⟩

/-! ### Which reading goes for which values -/

section Kinds

variable {value : Value}

theorem eq_null_of_isNull (isNull : value.isNull = true) : value = .null := by
  cases value with
  | null => rfl
  | _ => cases isNull

theorem isString_of_isNumber (isNumber : value.isNumber = true) : value.isString = false := by
  cases value with
  | int32 | int64 | float => rfl
  | _ => cases isNumber

theorem toDateTime?_of_isNumber (isNumber : value.isNumber = true) : value.toDateTime? = none := by
  cases value with
  | int32 | int64 | float => rfl
  | _ => cases isNumber

theorem isString_of_isTemporal (isTemporal : value.isTemporal = true) :
    value.isString = false := by
  cases value with
  | date | dateTime => rfl
  | _ => cases isTemporal

theorem toFloat?_of_isTemporal (isTemporal : value.isTemporal = true) : value.toFloat? = none := by
  cases value with
  | date | dateTime => rfl
  | _ => cases isTemporal

theorem toFloat?_of_plain (notNumber : value.isNumber = false)
    (notString : value.isString = false) : value.toFloat? = none := by
  cases value with
  | int32 | int64 | float => cases notNumber
  | string => cases notString
  | _ => rfl

end Kinds

variable {left right : Value}

/-- Null needs no rule of its own. -/
theorem looselyEquals_eq (left right : Value) :
    left.looselyEquals right =
      if left.isNumber || right.isNumber then bothAnd Binary64.equals left.toFloat? right.toFloat?
      else if left.isTemporal || right.isTemporal then
        bothAnd (· == ·) left.toDateTime? right.toDateTime?
      else left.equals right := by
  rw [looselyEquals]
  split
  · next isNull =>
    rcases Bool.or_eq_true_iff.1 isNull with leftNull | rightNull
    · obtain rfl := eq_null_of_isNull leftNull
      cases right <;> rfl
    · obtain rfl := eq_null_of_isNull rightNull
      cases left <;> rfl
  · rfl

/-- Unless both are strings, values are ordered as moments if either is one, else as numbers. -/
theorem looselyCompare?_eq (notTexts : (left.isString && right.isString) = false) :
    left.looselyCompare? right =
      if left.isTemporal || right.isTemporal then
        orderOf? compareMoments left.toDateTime? right.toDateTime?
      else orderOf? Binary64.compare? left.toFloat? right.toFloat? := by
  unfold looselyCompare?
  split
  · cases notTexts
  · congr 1
    · cases left.toDateTime? <;> cases right.toDateTime? <;> rfl
    · cases left.toFloat? <;> cases right.toFloat? <;> rfl

/-- A moment is no number and a number no moment, so neither reading is there on both sides. -/
theorem neither_of_mixed (numeric : (left.isNumber || right.isNumber) = true)
    (temporal : (left.isTemporal || right.isTemporal) = true) :
    orderOf? compareMoments left.toDateTime? right.toDateTime? = none ∧
      orderOf? Binary64.compare? left.toFloat? right.toFloat? = none := by
  constructor
  · rcases Bool.or_eq_true_iff.1 numeric with isNumber | isNumber
    · rw [toDateTime?_of_isNumber isNumber, orderOf?_none_left]
    · rw [toDateTime?_of_isNumber isNumber, orderOf?_none_right]
  · rcases Bool.or_eq_true_iff.1 temporal with isTemporal | isTemporal
    · rw [toFloat?_of_isTemporal isTemporal, orderOf?_none_left]
    · rw [toFloat?_of_isTemporal isTemporal, orderOf?_none_right]

/-- If either value is a number, both are related as numbers. -/
theorem relatedBy_toFloat? (numeric : (left.isNumber || right.isNumber) = true) :
    RelatedBy Binary64.compare? toFloat? left right where
  equality := by
    rw [looselyEquals_eq, if_pos numeric]
    exact bothAnd_eq_orderOf? Binary64.equals (fun _ _ => rfl) _ _
  comparison := by
    have notTexts : (left.isString && right.isString) = false := by
      rcases Bool.or_eq_true_iff.1 numeric with isNumber | isNumber
      · rw [isString_of_isNumber isNumber, Bool.false_and]
      · rw [isString_of_isNumber isNumber, Bool.and_false]
    rw [looselyCompare?_eq notTexts]
    split
    · next temporal =>
      obtain ⟨noMoment, noFloat⟩ := neither_of_mixed numeric temporal
      rw [noMoment, noFloat]
    · rfl

/-- If either value is a date or a time, and none is a number, both are related as moments. -/
theorem relatedBy_toDateTime? (notNumeric : (left.isNumber || right.isNumber) = false)
    (temporal : (left.isTemporal || right.isTemporal) = true) :
    RelatedBy compareMoments toDateTime? left right where
  equality := by
    rw [looselyEquals_eq, notNumeric, if_pos temporal]
    exact bothAnd_eq_orderOf? (· == ·) beq_eq_compareMoments _ _
  comparison := by
    have notTexts : (left.isString && right.isString) = false := by
      rcases Bool.or_eq_true_iff.1 temporal with isTemporal | isTemporal
      · rw [isString_of_isTemporal isTemporal, Bool.false_and]
      · rw [isString_of_isTemporal isTemporal, Bool.and_false]
    rw [looselyCompare?_eq notTexts, if_pos temporal]

/-- Of other values only strings are ordered. -/
theorem looselyCompare?_of_plain (notNumeric : (left.isNumber || right.isNumber) = false)
    (notTemporal : (left.isTemporal || right.isTemporal) = false)
    (notTexts : (left.isString && right.isString) = false) :
    left.looselyCompare? right = none := by
  obtain ⟨leftNoNumber, rightNoNumber⟩ := Bool.or_eq_false_iff.1 notNumeric
  rw [looselyCompare?_eq notTexts, notTemporal, if_neg Bool.false_ne_true]
  rcases Bool.and_eq_false_iff.1 notTexts with notText | notText
  · rw [toFloat?_of_plain leftNoNumber notText, orderOf?_none_left]
  · rw [toFloat?_of_plain rightNoNumber notText, orderOf?_none_right]

/-- Two strings are ordered as numbers if both write one, else by their characters. -/
theorem looselyCompare?_texts (leftText rightText : String) :
    (Value.string leftText).looselyCompare? (.string rightText) =
      match (Value.string leftText).toFloat?, (Value.string rightText).toFloat? with
      | some left, some right => left.compare? right
      | _, _ => some (compare leftText rightText) :=
  rfl

/-- Two values that are both strings have a text each. -/
theorem exists_texts (texts : (left.isString && right.isString) = true) :
    ∃ leftText rightText, left = .string leftText ∧ right = .string rightText := by
  cases left with
  | string leftText =>
    cases right with
    | string rightText => exact ⟨leftText, rightText, rfl, rfl⟩
    | _ => cases texts
  | _ => cases texts

/-! ### Which value is named first -/

theorem bothAnd_comm {Reading : Type} {relation : Reading → Reading → Bool}
    (comm : ∀ first second, relation first second = relation second first)
    (left right : Option Reading) : bothAnd relation left right = bothAnd relation right left := by
  cases left with
  | none => cases right <;> rfl
  | some first =>
    cases right with
    | none => rfl
    | some second => exact comm first second

theorem looselyEquals_comm (left right : Value) :
    left.looselyEquals right = right.looselyEquals left := by
  rw [looselyEquals_eq, looselyEquals_eq right, Bool.or_comm left.isNumber,
    Bool.or_comm left.isTemporal, bothAnd_comm Binary64.equals_comm,
    bothAnd_comm (fun _ _ => Bool.beq_comm) left.toDateTime?, equals_comm]

theorem looselyCompare?_swap (left right : Value) :
    left.looselyCompare? right = (right.looselyCompare? left).map Ordering.swap := by
  cases texts : left.isString && right.isString with
  | true =>
    obtain ⟨leftText, rightText, rfl, rfl⟩ := exists_texts texts
    rw [looselyCompare?_texts, looselyCompare?_texts]
    have byCharacters : some (compare leftText rightText) =
        (some (compare rightText leftText)).map Ordering.swap :=
      congrArg some Std.OrientedOrd.eq_swap
    cases (Value.string leftText).toFloat? with
    | none => cases (Value.string rightText).toFloat? <;> exact byCharacters
    | some left =>
      cases (Value.string rightText).toFloat? with
      | none => exact byCharacters
      | some right => exact left.compare?_swap right
  | false =>
    have reversed : (right.isString && left.isString) = false := by rwa [Bool.and_comm]
    rw [looselyCompare?_eq texts, looselyCompare?_eq reversed, Bool.or_comm left.isTemporal,
      orderOf?_swap compareMoments_swap, orderOf?_swap Binary64.compare?_swap,
      apply_ite (Option.map Ordering.swap)]

/-! ### Equal values are not ordered -/

/-- What is its own reverse is no strict order. -/
theorem eq_none_or_eq_of_swap {order : Option Ordering} (own : order = order.map Ordering.swap) :
    order = none ∨ order = some .eq := by
  rcases order with _ | _ | _ | _
  · exact Or.inl rfl
  · cases own
  · exact Or.inr rfl
  · cases own

theorem looselyCompare?_self (value : Value) :
    value.looselyCompare? value = none ∨ value.looselyCompare? value = some .eq :=
  eq_none_or_eq_of_swap (looselyCompare?_swap value value)

theorem equals_texts (leftText rightText : String) :
    (Value.string leftText).looselyEquals (.string rightText) = (leftText == rightText) :=
  rfl

/-- Equal values either cannot be compared or neither is before the other. -/
theorem looselyCompare?_of_looselyEquals (equal : left.looselyEquals right = true) :
    left.looselyCompare? right = none ∨ left.looselyCompare? right = some .eq := by
  cases numeric : left.isNumber || right.isNumber with
  | true =>
    rw [(relatedBy_toFloat? numeric).looselyEquals_eq, beq_iff_eq] at equal
    exact Or.inr equal
  | false =>
    cases temporal : left.isTemporal || right.isTemporal with
    | true =>
      rw [(relatedBy_toDateTime? numeric temporal).looselyEquals_eq, beq_iff_eq] at equal
      exact Or.inr equal
    | false =>
      cases texts : left.isString && right.isString with
      | true =>
        obtain ⟨leftText, rightText, rfl, rfl⟩ := exists_texts texts
        rw [equals_texts, beq_iff_eq] at equal
        exact equal ▸ looselyCompare?_self _
      | false => exact Or.inl (looselyCompare?_of_plain numeric temporal texts)

/-- Neither relation of test expressions depends on which value is named first, but for the
direction of the order, and a value that equals another is neither less nor greater. Collections are
equal strictly: lists item by item, maps by the names of their entries and not by their places, and
records like maps, if they name one type. -/
theorem looseRelations_symmetric :
    (∀ left right : Value, left.looselyEquals right = right.looselyEquals left) ∧
      (∀ left right : Value,
        left.looselyCompare? right = (right.looselyCompare? left).map Ordering.swap) ∧
      (∀ left right : Value, left.looselyEquals right = true →
        (left.looselyCompare? right = none ∨ left.looselyCompare? right = some .eq) ∧
          Comparison.less.holds left right = false ∧
            Comparison.greater.holds left right = false) ∧
      (∀ items others : List Value, (Value.list items).looselyEquals (.list others) = true ↔
        List.Forall₂ (fun item other => equals item other = true) items others) ∧
      ∀ entries others : Fields Value, (Fields.names entries).Nodup →
        (Fields.names others).Nodup →
          ((Value.map entries).looselyEquals (.map others) = true ↔ SameEntries entries others) ∧
            ∀ typeName otherName,
              (Value.record typeName entries).looselyEquals (.record otherName others) = true ↔
                typeName = otherName ∧ SameEntries entries others := by
  refine ⟨looselyEquals_comm, looselyCompare?_swap, fun left right equal => ?_,
    fun items others => equals_list_iff, fun entries others distinct otherDistinct => ?_⟩
  · have notOrdered := looselyCompare?_of_looselyEquals equal
    refine ⟨notOrdered, ?_⟩
    rcases notOrdered with incomparable | same
    · rw [Comparison.holds, Comparison.holds, incomparable]
      exact ⟨rfl, rfl⟩
    · rw [Comparison.holds, Comparison.holds, same]
      exact ⟨rfl, rfl⟩
  · exact ⟨equals_map_iff distinct otherDistinct, equals_record_iff distinct otherDistinct⟩

/-- A map with its entries in another order is the same map, and not before or behind it. -/
theorem looseRelations_symmetric_reordered :
    let entries : Fields Value := [("ids", .list [.int32 1, .null]), ("name", .string "Jo")]
    let others : Fields Value := [("name", .string "Jo"), ("ids", .list [.int32 1, .null])]
    (Fields.names entries).Nodup ∧ (Fields.names others).Nodup ∧
      (Value.map entries).looselyEquals (.map others) = true ∧
        Comparison.less.holds (.map entries) (.map others) = false := by
  intro entries others
  have distinct : (Fields.names entries).Nodup := by decide
  have otherDistinct : (Fields.names others).Nodup := by decide
  have same : SameEntries entries others := by
    refine ⟨rfl, List.forall_mem_cons.2 ⟨⟨_, rfl, ?_⟩, List.forall_mem_singleton.2 ⟨_, rfl, ?_⟩⟩⟩
    · decide
    · decide
  obtain ⟨-, -, notOrdered, -, collections⟩ := looseRelations_symmetric
  have equal := (collections entries others distinct otherDistinct).1.2 same
  exact ⟨distinct, otherDistinct, equal, (notOrdered _ _ equal).2.1⟩

end DynamicSql.Value
