/-
This file evaluates expressions over a source of values for their paths. Evaluation never fails: a
path without a value is null, and operands that an operator is not made for give null or false.
-/

import DynamicSql.Expr.Basic

namespace DynamicSql

open Number (Binary64)

namespace Value

/-! ### Sums -/

/-- The sum of integers if it and all sums on the way to it fit into a signed word. -/
def sumIntegers? : Int → List Value → Option Int
  | sum, [] => some sum
  | sum, operand :: rest =>
    match operand.toInt64? with
    | none => sumIntegers? sum rest
    | some value =>
      let next := sum + value.toInt
      if leastInt64 ≤ next && next ≤ greatestInt64 then sumIntegers? next rest else none

/-- The sum of operands read as floating-point numbers, rounded at every step. -/
def sumFloats? : Binary64 → List Value → Option Binary64
  | sum, [] => some sum
  | sum, operand :: rest =>
    match operand.toFloat? with
    | none => none
    | some value => sumFloats? (sum.add value) rest

/-- The texts of the operands one behind the other, those of null left out. -/
def concatTexts (operands : List Value) : List Char :=
  operands.flatMap fun operand => if operand.isNull then [] else operand.text

/-- Operands added together: as texts if one of them is a string, else as integers while the sums
fit, else as floating-point numbers; null if one of them is no number. -/
def concat (operands : List Value) : Value :=
  if operands.any isString then .string (String.ofList (concatTexts operands))
  else
    match if operands.all isInteger then sumIntegers? 0 operands else none with
    | some sum => .int64 (Int64.ofInt sum)
    | none =>
      match sumFloats? (.zero true) operands with
      | some sum => .float sum
      | none => .null

end Value

namespace Expr

/-! ### Evaluation -/

mutual

/-- The value of an expression. -/
def eval (resolve : Path → Option Value) : Expr → Value
  | .value literal => literal
  | .path target => (resolve target).getD .null
  | .size operand =>
    match (eval resolve operand).size? with
    | some count => .int64 (Int64.ofNat count)
    | none => .null
  | .concat operands => Value.concat (evalEach resolve operands)
  | .not operand => .bool (!evalBool resolve operand)
  | .and operands => .bool (evalAll resolve operands)
  | .or operands => .bool (evalAny resolve operands)
  | .compare comparison left right =>
    .bool (comparison.holds (eval resolve left) (eval resolve right))

/-- Whether an expression holds as a condition. -/
def evalBool (resolve : Path → Option Value) : Expr → Bool
  | .value literal => literal.isTruthy
  | .path target => ((resolve target).map Value.isTruthy).getD false
  | .size operand =>
    match (eval resolve operand).size? with
    | some count => Value.isTruthy (.int64 (Int64.ofNat count))
    | none => false
  | .concat operands => (Value.concat (evalEach resolve operands)).isTruthy
  | .not operand => !evalBool resolve operand
  | .and operands => evalAll resolve operands
  | .or operands => evalAny resolve operands
  | .compare comparison left right =>
    comparison.holds (eval resolve left) (eval resolve right)

/-- The values of operands. -/
def evalEach (resolve : Path → Option Value) : List Expr → List Value
  | [] => []
  | operand :: rest => eval resolve operand :: evalEach resolve rest

/-- All operands hold. -/
def evalAll (resolve : Path → Option Value) : List Expr → Bool
  | [] => true
  | operand :: rest => evalBool resolve operand && evalAll resolve rest

/-- Some operand holds. -/
def evalAny (resolve : Path → Option Value) : List Expr → Bool
  | [] => false
  | operand :: rest => evalBool resolve operand || evalAny resolve rest

end

end Expr

end DynamicSql
