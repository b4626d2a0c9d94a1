/-
This file names the paths that an expression reads. The value of an expression depends on nothing
else: it is the same over two sources of values that agree on those paths. An expression holds as a
condition exactly if its value counts as true, so that only values have to be followed.
-/

import DynamicSql.Expr.Evaluation

namespace DynamicSql.Expr

/-! ### Conditions are values that count as true -/

section Conditions

variable (resolve : Path → Option Value)

/-- An expression holds as a condition exactly if its value counts as true. -/
theorem evalBool_eq_isTruthy (expr : Expr) :
    expr.evalBool resolve = (expr.eval resolve).isTruthy := by
  cases expr with
  | value literal => rfl
  | path target =>
    rw [evalBool, eval]
    cases resolve target <;> rfl
  | size operand =>
    rw [evalBool, eval]
    cases (eval resolve operand).size? <;> rfl
  | concat operands => rw [evalBool, eval]
  | not operand => rw [evalBool, eval, Value.isTruthy]
  | and operands => rw [evalBool, eval, Value.isTruthy]
  | or operands => rw [evalBool, eval, Value.isTruthy]
  | compare comparison left right => rw [evalBool, eval, Value.isTruthy]

theorem evalAll_eq_all (operands : List Expr) :
    evalAll resolve operands = (evalEach resolve operands).all Value.isTruthy := by
  induction operands with
  | nil => rfl
  | cons operand rest inductionHypothesis =>
    rw [evalAll, evalEach, List.all_cons, evalBool_eq_isTruthy, inductionHypothesis]

theorem evalAny_eq_any (operands : List Expr) :
    evalAny resolve operands = (evalEach resolve operands).any Value.isTruthy := by
  induction operands with
  | nil => rfl
  | cons operand rest inductionHypothesis =>
    rw [evalAny, evalEach, List.any_cons, evalBool_eq_isTruthy, inductionHypothesis]

end Conditions

/-! ### The paths of an expression -/

mutual

/-- The paths that an expression reads. -/
def paths : Expr → List Path
  | .value _ => []
  | .path target => [target]
  | .size operand => paths operand
  | .concat operands => pathsOfEach operands
  | .not operand => paths operand
  | .and operands => pathsOfEach operands
  | .or operands => pathsOfEach operands
  | .compare _ left right => paths left ++ paths right

/-- The paths that operands read. -/
def pathsOfEach : List Expr → List Path
  | [] => []
  | operand :: rest => paths operand ++ pathsOfEach rest

end

variable {first second : Path → Option Value}

mutual

/-- An expression has the same value over sources that agree on its paths. -/
theorem eval_congr {expr : Expr} (agree : ∀ path ∈ expr.paths, first path = second path) :
    expr.eval first = expr.eval second := by
  cases expr with
  | value literal => rfl
  | path target => rw [eval, eval, agree target (by simp [paths])]
  | size operand =>
    have same := @eval_congr operand (by simpa only [paths] using agree)
    rw [eval, eval, same]
  | concat operands =>
    have same := @evalEach_congr operands (by simpa only [paths] using agree)
    rw [eval, eval, same]
  | not operand =>
    have same := @eval_congr operand (by simpa only [paths] using agree)
    rw [eval, eval, evalBool_eq_isTruthy, evalBool_eq_isTruthy, same]
  | and operands =>
    have same := @evalEach_congr operands (by simpa only [paths] using agree)
    rw [eval, eval, evalAll_eq_all, evalAll_eq_all, same]
  | or operands =>
    have same := @evalEach_congr operands (by simpa only [paths] using agree)
    rw [eval, eval, evalAny_eq_any, evalAny_eq_any, same]
  | compare comparison left right =>
    simp only [paths, List.forall_mem_append] at agree
    rw [eval, eval, eval_congr agree.1, eval_congr agree.2]

theorem evalEach_congr {operands : List Expr}
    (agree : ∀ path ∈ pathsOfEach operands, first path = second path) :
    evalEach first operands = evalEach second operands := by
  cases operands with
  | nil => rfl
  | cons operand rest =>
    simp only [pathsOfEach, List.forall_mem_append] at agree
    rw [evalEach, evalEach, eval_congr agree.1, evalEach_congr agree.2]

end

theorem evalBool_congr {expr : Expr} (agree : ∀ path ∈ expr.paths, first path = second path) :
    expr.evalBool first = expr.evalBool second := by
  rw [evalBool_eq_isTruthy, evalBool_eq_isTruthy, eval_congr agree]

end DynamicSql.Expr
