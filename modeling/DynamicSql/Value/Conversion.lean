/-
This file turns values into JSON documents and texts, and JSON documents into values. Dates become
strings, a floating-point number without a finite value becomes null, and records and maps both
become objects.
-/

import DynamicSql.Json.Printer
import DynamicSql.Value.Basic

namespace DynamicSql.Value

open Number (Binary64)

/-- The JSON number of a floating-point number, or null. -/
def floatToJson : Binary64 → Json
  | .finite number => .float number
  | _ => .null

mutual

/-- The JSON document of a value. -/
def toJson : Value → Json
  | .null => .null
  | .bool value => .bool value
  | .int32 value => .integer (.ofInt64 value.toInt64)
  | .int64 value => .integer (.ofInt64 value)
  | .float value => floatToJson value
  | .string text => .string text
  | .date day => .string (String.ofList day.text)
  | .dateTime moment => .string (String.ofList (moment.text 'T'))
  | .list items => .array (itemsToJson items)
  | .map entries => .object (entriesToJson entries)
  | .record _ fields => .object (entriesToJson fields)

/-- The documents of the items of a list. -/
def itemsToJson : List Value → List Json
  | [] => []
  | item :: rest => toJson item :: itemsToJson rest

/-- The members that the entries of a map or record become. -/
def entriesToJson : List (String × Value) → List (String × Json)
  | [] => []
  | (name, value) :: rest => (name, toJson value) :: entriesToJson rest

end

/-- The value of a JSON integer: a floating-point number if it needs the 64th bit. -/
def ofJsonInteger (integer : JsonInteger) : Value :=
  if integer.value ≤ Int64.maxValue.toInt then .int64 (Int64.ofInt integer.value)
  else .float (.ofInt integer.value)

mutual

/-- The value of a JSON document. -/
def ofJson : Json → Value
  | .null => .null
  | .bool value => .bool value
  | .integer integer => ofJsonInteger integer
  | .float number => .float (.finite number)
  | .string text => .string text
  | .array items => .list (itemsOfJson items)
  | .object members => .map (entriesOfJson members)

/-- The values of the items of an array. -/
def itemsOfJson : List Json → List Value
  | [] => []
  | item :: rest => ofJson item :: itemsOfJson rest

/-- The entries that the members of an object become. -/
def entriesOfJson : List (String × Json) → List (String × Value)
  | [] => []
  | (name, value) :: rest => (name, ofJson value) :: entriesOfJson rest

end

/-- The text of a value: scalars plain, collections as JSON. -/
def text : Value → List Char
  | .null => "null".toList
  | .bool true => "true".toList
  | .bool false => "false".toList
  | .int32 value => Number.signedDecimal value.toInt
  | .int64 value => Number.signedDecimal value.toInt
  | .float value => value.plainText
  | .string text => text.toList
  | .date day => day.text
  | .dateTime moment => moment.text ' '
  | .list items => (toJson (.list items)).text
  | .map entries => (toJson (.map entries)).text
  | .record typeName fields => (toJson (.record typeName fields)).text

/-- The text of a value as a string. -/
def render (value : Value) : String :=
  String.ofList value.text

/-- The value of a count, if it fits into a signed word. -/
def ofSize? (size : Nat) : Option Value :=
  if Int.ofNat size ≤ Int64.maxValue.toInt then some (.int64 (Int64.ofNat size)) else none

end DynamicSql.Value
