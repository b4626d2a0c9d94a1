/-
This file holds the plain data that a program makes values of. A value equals plain data only if
it is of exactly that kind.
-/

import DynamicSql.Value.Comparison

namespace DynamicSql

open Number (Binary64)

/-- Plain data: a truth value, a number or a text. -/
inductive Scalar where
  | bool (value : Bool)
  | int32 (value : Int32)
  | int64 (value : Int64)
  | float (value : Binary64)
  | string (text : String)

namespace Value

/-- The value made of plain data. -/
def ofScalar : Scalar → Value
  | .bool value => .bool value
  | .int32 value => .int32 value
  | .int64 value => .int64 value
  | .float value => .float value
  | .string text => .string text

/-- The value made of data that may be missing. -/
def ofOption : Option Scalar → Value
  | some scalar => ofScalar scalar
  | none => .null

/-- A value of the same kind as plain data with the same content. -/
def isScalarData (value : Value) (scalar : Scalar) : Bool :=
  agrees value (ofScalar scalar)

end Value

end DynamicSql
