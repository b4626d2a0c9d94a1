/-
This file compares values. Strict equality asks for the same kind and the same content, maps and
records taken without regard to the order of their entries. The loose relations are those of test
expressions: numbers are compared with whatever reads as a number, dates with whatever reads as a
date.
-/

import DynamicSql.Value.Coercion

namespace DynamicSql.Value

open Number (Binary64)

/-! ### Strict equality -/

/-- Entries in the order of their names. -/
def sortEntries (entries : List (String × Value)) : List (String × Value) :=
  entries.mergeSort fun left right => left.1 ≤ right.1

mutual

/-- The value with the entries of all its maps and records in the order of their names. -/
def sorted : Value → Value
  | .list items => .list (sortedItems items)
  | .map entries => .map (sortEntries (sortedEntries entries))
  | .record typeName fields => .record typeName (sortEntries (sortedEntries fields))
  | value => value

/-- The items of a list, each sorted. -/
def sortedItems : List Value → List Value
  | [] => []
  | item :: rest => sorted item :: sortedItems rest

/-- The entries of a map or record in place, the value of each sorted. -/
def sortedEntries : List (String × Value) → List (String × Value)
  | [] => []
  | (name, value) :: rest => (name, sorted value) :: sortedEntries rest

end

mutual

/-- The same kind and content, entry by entry. Floating-point numbers are compared as numbers. -/
def agrees : Value → Value → Bool
  | .null, .null => true
  | .bool left, .bool right => left == right
  | .int32 left, .int32 right => left == right
  | .int64 left, .int64 right => left == right
  | .float left, .float right => left.equals right
  | .string left, .string right => left == right
  | .date left, .date right => left == right
  | .dateTime left, .dateTime right => left == right
  | .list left, .list right => itemsAgree left right
  | .map left, .map right => entriesAgree left right
  | .record leftType left, .record rightType right =>
    leftType == rightType && entriesAgree left right
  | _, _ => false

/-- Lists of the same length that agree item by item. -/
def itemsAgree : List Value → List Value → Bool
  | [], [] => true
  | left :: leftRest, right :: rightRest => agrees left right && itemsAgree leftRest rightRest
  | _, _ => false

/-- Entries with the same names that agree one by one. -/
def entriesAgree : List (String × Value) → List (String × Value) → Bool
  | [], [] => true
  | (leftName, left) :: leftRest, (rightName, right) :: rightRest =>
    leftName == rightName && agrees left right && entriesAgree leftRest rightRest
  | _, _ => false

end

/-- The same kind and content, whatever the order of the entries of maps and records. -/
def equals (left right : Value) : Bool :=
  agrees (sorted left) (sorted right)

/-! ### Loose relations -/

/-- Two readings that are both there and satisfy a relation. -/
def bothAnd {Reading : Type} (relation : Reading → Reading → Bool) :
    Option Reading → Option Reading → Bool
  | some left, some right => relation left right
  | _, _ => false

/-- The equality of test expressions. Null equals null alone. -/
def looselyEquals (left right : Value) : Bool :=
  if left.isNull || right.isNull then left.isNull && right.isNull
  else if left.isNumber || right.isNumber then
    bothAnd Binary64.equals left.toFloat? right.toFloat?
  else if left.isTemporal || right.isTemporal then
    bothAnd (· == ·) left.toDateTime? right.toDateTime?
  else equals left right

/-- The order of two readings as numbers, if both are there. -/
def compareFloats? : Option Binary64 → Option Binary64 → Option Ordering
  | some left, some right => left.compare? right
  | _, _ => none

/-- The order of test expressions, for values that can be compared: strings that do not both read
as numbers by their characters, dates in time, everything else as numbers. -/
def looselyCompare? (left right : Value) : Option Ordering :=
  match left, right with
  | .string leftText, .string rightText =>
    match left.toFloat?, right.toFloat? with
    | some left, some right => left.compare? right
    | _, _ => some (compare leftText rightText)
  | _, _ =>
    if left.isTemporal || right.isTemporal then
      match left.toDateTime?, right.toDateTime? with
      | some left, some right => some (compare left.rank right.rank)
      | _, _ => none
    else compareFloats? left.toFloat? right.toFloat?

end DynamicSql.Value
