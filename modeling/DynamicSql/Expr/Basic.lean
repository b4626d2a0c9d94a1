/-
This file holds the expressions of tests, loops and bindings as trees, and the comparisons they
are made with.
-/

import DynamicSql.Value.Comparison

namespace DynamicSql

/-- The comparisons between two operands. -/
inductive Comparison where
  | equal
  | notEqual
  | less
  | lessOrEqual
  | greater
  | greaterOrEqual
  deriving DecidableEq

/-- An expression. `concat`, `and` and `or` take any number of operands. -/
inductive Expr where
  | value (literal : Value)
  | path (target : Path)
  | size (operand : Expr)
  | concat (operands : List Expr)
  | not (operand : Expr)
  | and (operands : List Expr)
  | or (operands : List Expr)
  | compare (comparison : Comparison) (left right : Expr)

namespace Comparison

/-- The sign of a comparison. -/
def sign : Comparison → String
  | .equal => "=="
  | .notEqual => "!="
  | .less => "<"
  | .lessOrEqual => "<="
  | .greater => ">"
  | .greaterOrEqual => ">="

/-- Whether a comparison of two values holds. Of values that cannot be compared only `notEqual`
does. -/
def holds (comparison : Comparison) (left right : Value) : Bool :=
  match comparison with
  | .equal => left.looselyEquals right
  | .notEqual => !left.looselyEquals right
  | .less => left.looselyCompare? right == some .lt
  | .lessOrEqual =>
    left.looselyCompare? right == some .lt || left.looselyCompare? right == some .eq
  | .greater => left.looselyCompare? right == some .gt
  | .greaterOrEqual =>
    left.looselyCompare? right == some .gt || left.looselyCompare? right == some .eq

end Comparison

end DynamicSql
