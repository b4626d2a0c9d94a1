/-
This file proves when a sum of integers is exact: when all sums on the way from the left fit into a
signed word, and not merely the whole. Where one of them does not, the sum is a floating-point
number, rounded at every step. So the order of the operands matters, and it does not exactly where
the positive operands alone and the negative operands alone have sums that fit: every sum on the way
lies between these two.
-/

import DynamicSql.Proofs.Expr.Sums
import Mathlib.Algebra.Order.BigOperators.Group.List
import Mathlib.Algebra.Order.Ring.Int
import Mathlib.Data.List.Infix

namespace DynamicSql

open Number (Binary64)

/-! ### The sums on the way -/

namespace Value

/-- The sums of integers from the left, up to any of them, fit into a signed word. -/
def RunningSumsFit (numbers : List Int) : Prop :=
  ∀ start, start <+: numbers → fits start.sum = true

instance (numbers : List Int) : Decidable (RunningSumsFit numbers) :=
  decidable_of_iff (∀ start ∈ numbers.inits, fits start.sum = true)
    (forall_congr' fun start => imp_congr_left (List.mem_inits start numbers))

/-- The sum of integers as floating-point numbers, rounded at every step. -/
def floatSum (numbers : List Int) : Binary64 :=
  numbers.foldl (fun sum number => sum.add (.ofInt number)) (.zero true)

/-- The integers above zero. -/
def positives (numbers : List Int) : List Int :=
  numbers.filter fun number => 0 < number

/-- The integers that are not above zero. -/
def nonpositives (numbers : List Int) : List Int :=
  numbers.filter fun number => !(decide (0 < number))

variable {numbers : List Int} {operands : List Value}

theorem fits_iff {sum : Int} : fits sum = true ↔ leastInt64 ≤ sum ∧ sum ≤ greatestInt64 := by
  rw [fits, Bool.and_eq_true, decide_eq_true_iff, decide_eq_true_iff]

@[simp]
theorem fits_zero : fits 0 = true := by
  decide

theorem toInt_ofInt_of_fits {sum : Int} (inRange : fits sum = true) :
    (Int64.ofInt sum).toInt = sum :=
  Option.some.inj (integer?_ofInt inRange)

/-- A sum goes on over the first integer, and on from there. -/
theorem forall_prefix_cons_iff {sum number : Int} {rest : List Int} (inRange : fits sum = true) :
    (∀ start, start <+: number :: rest → fits (sum + start.sum) = true) ↔
      ∀ start, start <+: rest → fits (sum + number + start.sum) = true := by
  constructor
  · intro allFit start isPrefix
    have longer := allFit (number :: start) ((List.prefix_cons_inj number).2 isPrefix)
    rwa [List.sum_cons, ← Int.add_assoc] at longer
  · intro allFit start isPrefix
    rcases List.prefix_cons_iff.1 isPrefix with rfl | ⟨others, rfl, isPrefixOfRest⟩
    · rwa [List.sum_nil, Int.add_zero]
    · rw [List.sum_cons, ← Int.add_assoc]
      exact allFit others isPrefixOfRest

/-- Integers are added exactly as long as the sums on the way fit. -/
theorem sumIntegers?_eq_some_iff (areIntegers : operands.map integer? = numbers.map some)
    {sum total : Int} (inRange : fits sum = true) :
    sumIntegers? sum operands = some total ↔
      (∀ start, start <+: numbers → fits (sum + start.sum) = true) ∧ total = sum + numbers.sum := by
  induction operands generalizing numbers sum with
  | nil =>
    obtain rfl : numbers = [] := by simpa using areIntegers.symm
    simp only [sumIntegers?, Option.some.injEq, List.prefix_nil, forall_eq, List.sum_nil,
      Int.add_zero, inRange, true_and]
    exact eq_comm
  | cons operand rest inductionHypothesis =>
    obtain _ | ⟨number, others⟩ := numbers
    · cases areIntegers
    obtain ⟨isInteger, restIntegers⟩ := List.cons.inj areIntegers
    rw [sumIntegers?_cons_of_integer? isInteger, forall_prefix_cons_iff inRange, List.sum_cons,
      ← Int.add_assoc]
    split
    · next stillFits => exact inductionHypothesis restIntegers stillFits
    · next tooFar =>
      refine iff_of_false (by simp) fun allFit => tooFar ?_
      have first := allFit.1 [] List.nil_prefix
      rwa [List.sum_nil, Int.add_zero] at first

/-- Integers are floating-point numbers, too, and can be added as such. -/
theorem sumFloats?_of_integers (areIntegers : operands.map integer? = numbers.map some)
    (sum : Binary64) :
    sumFloats? sum operands =
      some (numbers.foldl (fun sum number => sum.add (.ofInt number)) sum) := by
  induction operands generalizing numbers sum with
  | nil =>
    obtain rfl : numbers = [] := by simpa using areIntegers.symm
    rfl
  | cons operand rest inductionHypothesis =>
    obtain _ | ⟨number, others⟩ := numbers
    · cases areIntegers
    obtain ⟨isInteger, restIntegers⟩ := List.cons.inj areIntegers
    rw [sumFloats?_cons, toFloat?_of_integer? isInteger]
    exact inductionHypothesis restIntegers _

theorem all_isInteger_of_integers (areIntegers : operands.map integer? = numbers.map some) :
    operands.all isInteger = true ∧ operands.any isString = false := by
  have known : ∀ operand ∈ operands, ∃ number, operand.integer? = some number := by
    intro operand member
    have found : operand.integer? ∈ numbers.map some := areIntegers ▸ List.mem_map_of_mem member
    obtain ⟨number, -, isNumber⟩ := List.mem_map.1 found
    exact ⟨number, isNumber.symm⟩
  refine ⟨List.all_eq_true.2 fun operand member => ?_, List.any_eq_false.2 fun operand member => ?_⟩
  · obtain ⟨number, isNumber⟩ := known operand member
    rw [isInteger_eq, isNumber]
    rfl
  · obtain ⟨number, isNumber⟩ := known operand member
    rw [isString_of_integer? isNumber]
    exact Bool.false_ne_true

theorem concat_of_integers (areIntegers : operands.map integer? = numbers.map some) :
    concat operands =
      match sumIntegers? 0 operands with
      | some sum => .int64 (Int64.ofInt sum)
      | none => .float (floatSum numbers) := by
  obtain ⟨allIntegers, noString⟩ := all_isInteger_of_integers areIntegers
  rw [concat, noString, allIntegers, sumFloats?_of_integers areIntegers]
  rfl

/-- A sum of integers is exact where the sums on the way fit. -/
theorem concat_of_fit (areIntegers : operands.map integer? = numbers.map some)
    (allFit : RunningSumsFit numbers) : concat operands = .int64 (Int64.ofInt numbers.sum) := by
  have exact : sumIntegers? 0 operands = some numbers.sum := by
    refine (sumIntegers?_eq_some_iff areIntegers fits_zero).2 ⟨fun start isPrefix => ?_, ?_⟩
    · rw [Int.zero_add]
      exact allFit start isPrefix
    · rw [Int.zero_add]
  rw [concat_of_integers areIntegers, exact]

/-- A sum of integers is rounded where a sum on the way does not fit. -/
theorem concat_of_not_fit (areIntegers : operands.map integer? = numbers.map some)
    (tooFar : ¬ RunningSumsFit numbers) : concat operands = .float (floatSum numbers) := by
  have inexact : sumIntegers? 0 operands = none := by
    refine Option.eq_none_iff_forall_ne_some.2 fun total isTotal => tooFar fun start isPrefix => ?_
    have allFit := ((sumIntegers?_eq_some_iff areIntegers fits_zero).1 isTotal).1 start isPrefix
    rwa [Int.zero_add] at allFit
  rw [concat_of_integers areIntegers, inexact]

/-! ### The order of the operands -/

theorem sum_positives_add_nonpositives (numbers : List Int) :
    (positives numbers).sum + (nonpositives numbers).sum = numbers.sum := by
  rw [← List.sum_append]
  exact (List.filter_append_perm _ numbers).sum_eq

theorem sum_positives_nonneg (numbers : List Int) : 0 ≤ (positives numbers).sum :=
  List.sum_nonneg fun number member => by
    have above := (List.mem_filter.1 member).2
    exact le_of_lt (of_decide_eq_true above)

theorem sum_nonpositives_nonpos (numbers : List Int) : (nonpositives numbers).sum ≤ 0 :=
  (List.sum_le_card_nsmul _ 0 fun number member => by
    have notAbove := (List.mem_filter.1 member).2
    simpa using notAbove).trans_eq (nsmul_zero _)

/-- A sum on the way lies between the sums of the negative and of the positive integers. -/
theorem sum_prefix_between {start : List Int} (isPrefix : start <+: numbers) :
    (nonpositives numbers).sum ≤ start.sum ∧ start.sum ≤ (positives numbers).sum := by
  obtain ⟨rest, rfl⟩ := isPrefix
  have parts := sum_positives_add_nonpositives start
  have startUp := sum_positives_nonneg start
  have startDown := sum_nonpositives_nonpos start
  have restUp := sum_positives_nonneg rest
  have restDown := sum_nonpositives_nonpos rest
  have up : (positives (start ++ rest)).sum = (positives start).sum + (positives rest).sum := by
    rw [positives, List.filter_append, List.sum_append]
    rfl
  have down : (nonpositives (start ++ rest)).sum =
      (nonpositives start).sum + (nonpositives rest).sum := by
    rw [nonpositives, List.filter_append, List.sum_append]
    rfl
  omega

theorem runningSumsFit_of_parts (upFits : fits (positives numbers).sum = true)
    (downFits : fits (nonpositives numbers).sum = true) : RunningSumsFit numbers := by
  intro start isPrefix
  obtain ⟨least, most⟩ := sum_prefix_between isPrefix
  exact fits_iff.2 ⟨(fits_iff.1 downFits).1.trans least, most.trans (fits_iff.1 upFits).2⟩

/-- Whatever the order of items, the sums of their integers on the way fit, exactly where the sum of
the positive and that of the other ones do. -/
theorem forall_perm_runningSumsFit_iff {Item : Type} (number : Item → Int) (items : List Item) :
    (∀ order : List Item, order.Perm items → RunningSumsFit (order.map number)) ↔
      fits (positives (items.map number)).sum = true ∧
        fits (nonpositives (items.map number)).sum = true := by
  constructor
  · intro allFit
    have split := List.filter_append_perm (fun item => decide (0 < number item)) items
    constructor
    · refine allFit _ split _ ?_
      rw [List.map_append, positives, List.filter_map]
      exact List.prefix_append _ _
    · refine allFit _ (List.perm_append_comm.trans split) _ ?_
      rw [List.map_append, nonpositives, List.filter_map]
      exact List.prefix_append _ _
  · rintro ⟨upFits, downFits⟩ order isOrder
    have up := ((isOrder.map number).filter fun number => decide (0 < number)).sum_eq
    have down := ((isOrder.map number).filter fun number => !(decide (0 < number))).sum_eq
    exact runningSumsFit_of_parts ((congrArg fits up).trans upFits)
      ((congrArg fits down).trans downFits)

end Value

/-! ### Sums of expressions -/

namespace Expr

open Value (RunningSumsFit fits floatSum positives nonpositives)

/-- The integer that an expression has as its value; zero for other values. -/
def integerOf (resolve : Path → Option Value) (operand : Expr) : Int :=
  (eval resolve operand).integer?.getD 0

/-- A value is a word that holds exactly an integer. -/
def IsExactly (value : Value) (number : Int) : Prop :=
  ∃ word : Int64, value = .int64 word ∧ word.toInt = number

variable {resolve : Path → Option Value} {operands : List Expr}

theorem map_integer?_evalEach
    (integers : ∀ operand ∈ operands, (eval resolve operand).isInteger = true) :
    (evalEach resolve operands).map Value.integer? =
      (operands.map (integerOf resolve)).map some := by
  induction operands with
  | nil => rfl
  | cons operand rest inductionHypothesis =>
    have isInteger := integers operand List.mem_cons_self
    rw [Value.isInteger_eq] at isInteger
    obtain ⟨number, isNumber⟩ := Option.isSome_iff_exists.1 isInteger
    have later := inductionHypothesis fun other member =>
      integers other (List.mem_cons_of_mem _ member)
    simp only [evalEach, List.map_cons, later, integerOf, isNumber, Option.getD_some]

/-- The sum of expressions with integers as their values is exactly that of the integers where the
sums on the way fit, and only there. -/
theorem isExactly_eval_concat_iff
    (integers : ∀ operand ∈ operands, (eval resolve operand).isInteger = true) :
    IsExactly (eval resolve (.concat operands)) (operands.map (integerOf resolve)).sum ↔
      RunningSumsFit (operands.map (integerOf resolve)) := by
  have areIntegers := map_integer?_evalEach integers
  rw [eval]
  by_cases allFit : RunningSumsFit (operands.map (integerOf resolve))
  · rw [Value.concat_of_fit areIntegers allFit]
    have inRange := allFit _ List.prefix_rfl
    exact iff_of_true ⟨_, rfl, Value.toInt_ofInt_of_fits inRange⟩ allFit
  · rw [Value.concat_of_not_fit areIntegers allFit]
    refine iff_of_false ?_ allFit
    rintro ⟨word, isWord, -⟩
    cases isWord

/-- A sum of expressions with integers as their values is exact where all sums on the way from the
left fit into a signed word, and a floating-point number rounded at every step where one does not.
In every order of the operands it is exact exactly where the sum of the positive integers and that
of the others fit. -/
theorem eval_concat_integers
    (integers : ∀ operand ∈ operands, (eval resolve operand).isInteger = true) :
    (IsExactly (eval resolve (.concat operands)) (operands.map (integerOf resolve)).sum ↔
        RunningSumsFit (operands.map (integerOf resolve))) ∧
      (¬ RunningSumsFit (operands.map (integerOf resolve)) →
        eval resolve (.concat operands) =
          .float (floatSum (operands.map (integerOf resolve)))) ∧
      ((∀ order : List Expr, order.Perm operands →
          IsExactly (eval resolve (.concat order)) (operands.map (integerOf resolve)).sum) ↔
        fits (positives (operands.map (integerOf resolve))).sum = true ∧
          fits (nonpositives (operands.map (integerOf resolve))).sum = true) := by
  refine ⟨isExactly_eval_concat_iff integers, fun tooFar => ?_, ?_⟩
  · rw [eval, Value.concat_of_not_fit (map_integer?_evalEach integers) tooFar]
  · rw [← Value.forall_perm_runningSumsFit_iff]
    refine forall_congr' fun order => imp_congr_right fun isOrder => ?_
    have orderIntegers : ∀ operand ∈ order, (eval resolve operand).isInteger = true :=
      fun operand member => integers operand (isOrder.mem_iff.1 member)
    rw [← (isOrder.map (integerOf resolve)).sum_eq]
    exact isExactly_eval_concat_iff orderIntegers

/-- Close to the greatest word, one down and one up again is exact, though not in every order. -/
theorem eval_concat_integers_downUp :
    let noPaths : Path → Option Value := fun _ => none
    let operands : List Expr :=
      [.value (.int64 Int64.maxValue), .value (.int32 (-1)), .value (.int64 1)]
    (∀ operand ∈ operands, (eval noPaths operand).isInteger = true) ∧
      IsExactly (eval noPaths (.concat operands)) (2 ^ 63 - 1) ∧
        ¬ ∀ order : List Expr, order.Perm operands →
          IsExactly (eval noPaths (.concat order)) (2 ^ 63 - 1) := by
  intro noPaths operands
  have integers : ∀ operand ∈ operands, (eval noPaths operand).isInteger = true := by
    simp [operands, eval, Value.isInteger]
  have numbers : operands.map (integerOf noPaths) = [2 ^ 63 - 1, -1, 1] := by
    decide
  obtain ⟨exact, -, orders⟩ := eval_concat_integers integers
  rw [numbers] at exact orders
  have upTooFar : fits (positives [2 ^ 63 - 1, -1, 1]).sum = false := by decide
  refine ⟨integers, exact.2 (by decide), fun allExact => ?_⟩
  exact Bool.eq_false_iff.1 upTooFar (orders.1 allExact).1

/-- Up from the greatest word and down again, a sum that fits is a floating-point number; the other
way round it is exact. -/
theorem eval_concat_ne_exact :
    let noPaths : Path → Option Value := fun _ => none
    let up : Expr := .value (.int64 1)
    let down : Expr := .value (.int64 (-1))
    let greatest : Expr := .value (.int64 Int64.maxValue)
    (∀ operand ∈ [greatest, up, down], (eval noPaths operand).isInteger = true) ∧
      fits ([greatest, up, down].map (integerOf noPaths)).sum = true ∧
        eval noPaths (.concat [greatest, up, down]) = .float (.ofInt (2 ^ 63)) ∧
          eval noPaths (.concat [greatest, down, up]) = .int64 Int64.maxValue := by
  intro noPaths up down greatest
  refine ⟨?_, by decide, ?_, rfl⟩
  · simp [up, down, greatest, eval, Value.isInteger]
  have rounded : floatSum [2 ^ 63 - 1, 1, -1] = .ofInt (2 ^ 63) := by
    decide +kernel
  have areIntegers : (evalEach noPaths [greatest, up, down]).map Value.integer? =
      [2 ^ 63 - 1, 1, -1].map some := by
    decide
  rw [eval, Value.concat_of_not_fit areIntegers (by decide), rounded]

end Expr

end DynamicSql
