/-
This file holds JSON documents as data. Objects keep their members in order. A number is an
integer of 64 bits, signed or unsigned, or a finite floating-point number.
-/

import DynamicSql.Fields
import DynamicSql.Number.Binary64

namespace DynamicSql

/-- The integers that JSON documents hold: those of 64 bits, signed or unsigned. -/
structure JsonInteger where
  value : Int
  least : Int64.minValue.toInt ≤ value
  greatest : value < Int.ofNat UInt64.size
  deriving DecidableEq

namespace JsonInteger

/-- The JSON integer of an integer in range. -/
def ofInt? (value : Int) : Option JsonInteger :=
  if inRange : Int64.minValue.toInt ≤ value ∧ value < Int.ofNat UInt64.size then
    some ⟨value, inRange.1, inRange.2⟩
  else none

/-- The JSON integer of a signed word. -/
def ofInt64 (value : Int64) : JsonInteger :=
  ⟨value.toInt, Int64.minValue_le_toInt value,
    Int.lt_of_le_of_lt (Int64.toInt_le value) (by decide)⟩

end JsonInteger

/-- A JSON document. -/
inductive Json where
  | null
  | bool (value : Bool)
  | integer (value : JsonInteger)
  | float (value : Number.Finite64)
  | string (text : String)
  | array (items : List Json)
  | object (members : List (String × Json))

namespace Json

/-- The member of an object; anything else has none. -/
def member? (name : String) : Json → Option Json
  | .object members => Fields.get? name members
  | _ => none

end Json

end DynamicSql
