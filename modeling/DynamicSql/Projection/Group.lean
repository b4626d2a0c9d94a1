/-
This file folds rows into groups, one for each record. Rows belong together when the columns that
tell records apart have the same values, which is decided by the JSON text of the values. A row
without such columns is a group of its own; one with nothing but nulls in them belongs to no record,
except at the top, where it is a group of its own as well.
-/

import DynamicSql.Json.Printer
import DynamicSql.Mapper.ResultMap
import DynamicSql.Projection.Column
import DynamicSql.Value.Conversion

namespace DynamicSql.Projection

/-- What tells the groups of rows apart. -/
inductive GroupKey where
  | shared (text : String)
  | alone (position : Nat)
  deriving DecidableEq

/-- The values that tell the record of a row apart, as far as the row has their columns. -/
def idValues (row : Row) (map : ResultMap) (start : String) : List Value :=
  map.ids.filterMap fun rule => (column? row (start ++ rule.column)).map Prod.snd

/-- The key of the group that the row at a position belongs to. -/
def groupKey? (top : Bool) (map : ResultMap) (start : String) (position : Nat) (row : Row) :
    Option GroupKey :=
  let values := idValues row map start
  if values.isEmpty then some (.alone position)
  else if values.all Value.isNull then if top then some (.alone position) else none
  else some (.shared (Json.array (values.map Value.toJson)).render)

/-- Groups with one more row. -/
def addRow (key : GroupKey) (row : Row) :
    List (GroupKey × List Row) → List (GroupKey × List Row)
  | [] => [(key, [row])]
  | (other, rows) :: rest =>
    if other = key then (other, rows ++ [row]) :: rest else (other, rows) :: addRow key row rest

/-- Groups with more rows, the first of them at a position. -/
def addRows (top : Bool) (map : ResultMap) (start : String)
    (groups : List (GroupKey × List Row)) (position : Nat) :
    List Row → List (GroupKey × List Row)
  | [] => groups
  | row :: rest =>
    match groupKey? top map start position row with
    | some key => addRows top map start (addRow key row groups) (position + 1) rest
    | none => addRows top map start groups (position + 1) rest

/-- The groups of rows, in the order of their first rows. -/
def groupRows (top : Bool) (map : ResultMap) (start : String) (rows : List Row) :
    List (List Row) :=
  (addRows top map start [] 0 rows).map Prod.snd

end DynamicSql.Projection
