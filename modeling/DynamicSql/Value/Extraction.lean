/-
This file takes values and texts for what they have to be, with an error for all others.
-/

import DynamicSql.Error

namespace DynamicSql

/-- The path that a text writes. -/
def Path.parse (text : String) : Except Error Path :=
  match Path.read? text.toList with
  | some path => .ok path
  | none => .error (.note ("invalid property path `" ++ text ++ "`"))

namespace Value

/-- The text of a string. -/
def toString : Value → Except Error String
  | .string text => .ok text
  | value => .error (.of (.typeConversion value.kindName "String"))

/-- The value itself if it is a record. -/
def toRecord (value : Value) : Except Error Value :=
  if value.isRecord then .ok value
  else .error (.of (.typeConversion value.kindName "ValueRecord"))

/-- The value of a count. -/
def ofSize (size : Nat) : Except Error Value :=
  match ofSize? size with
  | some value => .ok value
  | none =>
    .error (.note ("value " ++ String.ofList (Number.decimal size) ++
      " cannot be converted to I64"))

end Value

end DynamicSql
