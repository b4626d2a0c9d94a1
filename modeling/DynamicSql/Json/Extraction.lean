/-
This file reads plain data out of JSON documents. Each reading is strict: an integer is no floating
point number's reading and null stands for nothing but missing data.
-/

import DynamicSql.Json.Basic

namespace DynamicSql.Json

open Number (Binary64)

/-- The truth value that a document is. -/
def toBool? : Json → Option Bool
  | .bool value => some value
  | _ => none

/-- The integer from `least` to `greatest` that a document is. -/
def toIntWithin? (least greatest : Int) : Json → Option Int
  | .integer whole =>
    if least ≤ whole.value && whole.value ≤ greatest then some whole.value else none
  | _ => none

/-- The integer of 32 bits that a document is. -/
def toInt32? (document : Json) : Option Int32 :=
  (document.toIntWithin? Int32.minValue.toInt Int32.maxValue.toInt).map Int32.ofInt

/-- The integer of 64 bits that a document is. -/
def toInt64? (document : Json) : Option Int64 :=
  (document.toIntWithin? Int64.minValue.toInt Int64.maxValue.toInt).map Int64.ofInt

/-- The number that a document is, as a floating-point number. -/
def toFloat? : Json → Option Binary64
  | .integer whole => some (.ofInt whole.value)
  | .float number => some (.finite number)
  | _ => none

/-- The string that a document is. -/
def toString? : Json → Option String
  | .string text => some text
  | _ => none

/-- A reading that may be missing: null is the missing one. -/
def toOption? {Data : Type} (read : Json → Option Data) : Json → Option (Option Data)
  | .null => some none
  | document => (read document).map some

/-- The readings of all items of an array. -/
def toList? {Data : Type} (read : Json → Option Data) : Json → Option (List Data)
  | .array items => items.mapM read
  | _ => none

end DynamicSql.Json
