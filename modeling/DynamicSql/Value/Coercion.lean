/-
This file reads values as something else: as a floating-point number, an integer, a date or a
time, and as a declared type. A coercion to a declared type that is unknown, or that the value
cannot follow, leaves the value as it is.
-/

import DynamicSql.Calendar.Reader
import DynamicSql.Number.Notation
import DynamicSql.Value.Conversion

namespace DynamicSql.Value

open Calendar (Date DateTime)
open Number (Binary64)

/-! ### Readings -/

/-- The least signed word of 64 bits. -/
def leastInt64 : Int := Int64.minValue.toInt

/-- The greatest signed word of 64 bits. -/
def greatestInt64 : Int := Int64.maxValue.toInt

/-- The signed word nearest to an integer. -/
def clampInt64 (value : Int) : Int64 :=
  Int64.ofInt (max leastInt64 (min greatestInt64 value))

/-- The value as a floating-point number: numbers, and strings that write one. -/
def toFloat? : Value → Option Binary64
  | .int32 value => some (.ofInt value.toInt)
  | .int64 value => some (.ofInt value.toInt)
  | .float value => some value
  | .string text => Binary64.read? (Text.trim text.toList)
  | _ => none

/-- The value as an integer: integers, floating-point numbers without a fraction (the nearest
word, if they are beyond the words), and strings that write one. -/
def toInt64? : Value → Option Int64
  | .int32 value => some value.toInt64
  | .int64 value => some value
  | .float value => value.toInt?.map clampInt64
  | .string text =>
    (Number.readSigned? leastInt64 greatestInt64 (Text.trim text.toList)).map Int64.ofInt
  | _ => none

/-- The value as a date: dates, the dates of times, and strings that write either. -/
def toDate? : Value → Option Date
  | .date day => some day
  | .dateTime moment => some moment.date
  | .string text =>
    let text := Text.trim text.toList
    (Date.read? text).or ((DateTime.read? text).map (·.date))
  | _ => none

/-- The value as a time: times, dates at midnight, and strings that write either. -/
def toDateTime? : Value → Option DateTime
  | .dateTime moment => some moment
  | .date day => some (.midnight day)
  | .string text =>
    let text := Text.trim text.toList
    (DateTime.read? text).or ((Date.read? text).map .midnight)
  | _ => none

/-- The value as a truth value: numbers by being zero or not, strings by one of the usual words. -/
def toBool? : Value → Option Bool
  | .bool value => some value
  | .int32 value => some (isTruthy (.int32 value))
  | .int64 value => some (isTruthy (.int64 value))
  | .float value => some (isTruthy (.float value))
  | .string text =>
    let word := String.ofList ((Text.trim text.toList).map Text.lowerAscii)
    if word ∈ ["true", "t", "yes", "y", "1"] then some true
    else if word ∈ ["false", "f", "no", "n", "0"] then some false
    else none
  | _ => none

/-! ### Declared types -/

/-- What a declared type asks for. -/
inductive TypeFamily where
  | string
  | int32
  | int64
  | float
  | bool
  | date
  | dateTime
  deriving DecidableEq

/-- The words for each type. -/
def TypeFamily.ofWord? (word : String) : Option TypeFamily :=
  if word ∈ ["string", "str", "varchar", "char", "text"] then some .string
  else if word ∈ ["int", "integer", "i32", "short", "byte"] then some .int32
  else if word ∈ ["long", "bigint", "i64"] then some .int64
  else if word ∈ ["double", "float", "decimal", "bigdecimal", "numeric", "f64", "real"] then
    some .float
  else if word ∈ ["boolean", "bool", "bit"] then some .bool
  else if word ∈ ["date", "localdate"] then some .date
  else if word ∈ ["datetime", "timestamp", "localdatetime"] then some .dateTime
  else none

/-- What stands behind the last point of a declared type, without blanks and in small letters. -/
def typeWord (declared : String) : String :=
  let name := match Text.cutLast? '.' declared.toList with
    | some (_, name) => name
    | none => declared.toList
  String.ofList ((Text.trim name).map Text.lowerAscii)

/-- The type that a declaration names. -/
def TypeFamily.ofName? (declared : String) : Option TypeFamily :=
  TypeFamily.ofWord? (typeWord declared)

/-- An integer that fits into 32 bits. -/
def narrow? (value : Int64) : Option Int32 :=
  if Int32.minValue.toInt ≤ value.toInt && value.toInt ≤ Int32.maxValue.toInt then
    some value.toInt32
  else none

/-- The value as one of a type, if it can follow. -/
def as? (value : Value) : TypeFamily → Option Value
  | .string =>
    if value.isString then some value
    else if value.isScalar then some (.string value.render)
    else none
  | .int32 => (value.toInt64?.bind narrow?).map .int32
  | .int64 => value.toInt64?.map .int64
  | .float => value.toFloat?.map .float
  | .bool => value.toBool?.map .bool
  | .date => value.toDate?.map .date
  | .dateTime => value.toDateTime?.map .dateTime

/-- The value as one of a declared type, or unchanged. Null has every type. -/
def coerce (declared : String) (value : Value) : Value :=
  if value.isNull then value
  else ((TypeFamily.ofName? declared).bind value.as?).getD value

end DynamicSql.Value
