/-
This file holds the values that statement parameters, bound arguments and projected rows are made
of, with the questions that can be asked of any value: its kind, its size, whether it counts as
true, and what stands at the end of a path into it.
-/

import DynamicSql.Calendar.DateTime
import DynamicSql.Fields
import DynamicSql.Number.Binary64
import DynamicSql.Path

namespace DynamicSql

open Calendar (Date DateTime)
open Number (Binary64)

/-- A value. Maps and records keep their entries in order; a record may name its type. -/
inductive Value where
  | null
  | bool (value : Bool)
  | int32 (value : Int32)
  | int64 (value : Int64)
  | float (value : Binary64)
  | string (text : String)
  | date (day : Date)
  | dateTime (moment : DateTime)
  | list (items : List Value)
  | map (entries : List (String × Value))
  | record (typeName : Option String) (fields : List (String × Value))

instance : Inhabited Value := ⟨.null⟩

namespace Value

/-! ### Kinds -/

/-- The name of a value's kind, as error messages write it. -/
def kindName : Value → String
  | .null => "Null"
  | .bool _ => "Bool"
  | .int32 _ => "I32"
  | .int64 _ => "I64"
  | .float _ => "F64"
  | .string _ => "String"
  | .date _ => "Date"
  | .dateTime _ => "DateTime"
  | .list _ => "List"
  | .map _ => "Map"
  | .record _ _ => "Record"

/-- The null value. -/
def isNull : Value → Bool
  | .null => true
  | _ => false

/-- A string. -/
def isString : Value → Bool
  | .string _ => true
  | _ => false

/-- A truth value. -/
def isBool : Value → Bool
  | .bool _ => true
  | _ => false

/-- A list. -/
def isList : Value → Bool
  | .list _ => true
  | _ => false

/-- A map. -/
def isMap : Value → Bool
  | .map _ => true
  | _ => false

/-- A record. -/
def isRecord : Value → Bool
  | .record _ _ => true
  | _ => false

/-- An integer of either width. -/
def isInteger : Value → Bool
  | .int32 _ => true
  | .int64 _ => true
  | _ => false

/-- An integer or a floating-point number. -/
def isNumber : Value → Bool
  | .float _ => true
  | value => value.isInteger

/-- A date, with or without a time. -/
def isTemporal : Value → Bool
  | .date _ => true
  | .dateTime _ => true
  | _ => false

/-- Neither a list nor a map nor a record. -/
def isScalar : Value → Bool
  | .list _ => false
  | .map _ => false
  | .record _ _ => false
  | _ => true

/-! ### Truth and size -/

/-- What a value counts as in a test: null, zero, not-a-number and everything empty are false. -/
def isTruthy : Value → Bool
  | .null => false
  | .bool value => value
  | .int32 value => value != 0
  | .int64 value => value != 0
  | .float value => value.isNonzero
  | .string text => !text.isEmpty
  | .date _ => true
  | .dateTime _ => true
  | .list items => !items.isEmpty
  | .map entries => !entries.isEmpty
  | .record _ fields => !fields.isEmpty

/-- How many characters a string has, or how many entries a collection. -/
def size? : Value → Option Nat
  | .string text => some text.length
  | .list items => some items.length
  | .map entries => some entries.length
  | .record _ fields => some fields.length
  | _ => none

/-! ### Looking inside -/

/-- The entry of a map or the field of a record. -/
def get? (name : String) : Value → Option Value
  | .map entries => Fields.get? name entries
  | .record _ fields => Fields.get? name fields
  | _ => none

/-- What one segment leads to. In a list a name that reads as a position is one; in a map a
position is the name that its digits are. -/
def step? : Segment → Value → Option Value
  | .field name, .list items =>
    (Number.readUnsigned? positionLimit name.toList).bind fun position => items[position]?
  | .field name, value => value.get? name
  | .index position, .list items => items[position]?
  | .index position, .map entries => Fields.get? (String.ofList (Number.decimal position)) entries
  | .index _, _ => none

/-- What a sequence of segments leads to. -/
def follow? : List Segment → Value → Option Value
  | [], value => some value
  | segment :: rest, value => (value.step? segment).bind (follow? rest)

/-- What a path leads to, starting with its first segment. -/
def entry? (path : Path) (value : Value) : Option Value :=
  value.follow? path.segments

end Value

end DynamicSql
