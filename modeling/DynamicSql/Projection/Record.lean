/-
This file shapes rows into records by the rules of result maps. A record takes its plain properties
from the first row of its group, and its collections from all of them. Result maps may refer to each
other in circles, so a nested record is left out when its result map is being used already under
the same prefix, and when no column has its prefix.

A nested record then has a new result map, or a longer prefix, which is still shorter than the name
of some column: `depthLimit` is how deep records can lie within each other. Shaping takes the depth
that is left as an argument.
-/

import DynamicSql.Projection.Group
import DynamicSql.Registry.Inheritance
import DynamicSql.Value.Coercion

namespace DynamicSql.Projection

/-! ### Records being built -/

/-- A record being built: its properties so far, whether any column gave it a value other than
null, and the columns that mappings have used, here and elsewhere. -/
structure OpenRecord where
  fields : Fields Value
  present : Bool
  consumed : List String

namespace OpenRecord

/-- A record with nothing in it yet. -/
def start (consumed : List String) : OpenRecord := ⟨[], false, consumed⟩

/-- A record with a property that does not count as a value of its own. -/
def put (record : OpenRecord) (property : String) (value : Value) : OpenRecord :=
  { record with fields := Fields.put property value record.fields }

/-- A record with a property from a column. -/
def putColumn (record : OpenRecord) (property : String) (value : Value) (isNull : Bool) :
    OpenRecord :=
  { record.put property value with present := record.present || !isNull }

/-- A record for which a column has been used. -/
def consume (record : OpenRecord) (column : String) : OpenRecord :=
  if record.consumed.contains column then record
  else { record with consumed := column :: record.consumed }

/-- The record of a type. -/
def toValue (record : OpenRecord) (typeName : Option String) : Value :=
  .record typeName record.fields

end OpenRecord

/-! ### Columns -/

/-- The value of a column for a mapping, of the type that the mapping declares. -/
def mappedValue (rule : Mapping) (value : Value) : Value :=
  match rule.valueType with
  | some typeName => value.coerce typeName
  | none => value

/-- A record with the property of a mapping, if the row has the column. -/
def addMapped (row : Row) (start : String) (record : OpenRecord) (rule : Mapping) : OpenRecord :=
  match column? row (start ++ rule.column) with
  | none => record
  | some (name, value) =>
    let mapped := mappedValue rule value
    (record.consume name).putColumn rule.property mapped mapped.isNull

/-- A record with a column that no mapping has used, if there is no property of its name. -/
def addUnmapped (camel : Bool) (start : String) (record : OpenRecord) (column : String × Value) :
    OpenRecord :=
  if record.consumed.contains column.1 then record
  else
    match behindPrefix? start column.1 with
    | none => record
    | some name =>
      let property := propertyName camel name
      if Fields.contains property record.fields then record
      else record.putColumn property column.2 column.2.isNull

/-! ### Nested records -/

/-- How rows are shaped into one record by a result map whose columns have a prefix, when columns
have been used. -/
abbrev Shaping := List Row → ResultMap → String → List String → Except Error OpenRecord

/-- The records of groups of rows, and the columns used after them. Below the top a record without
values is left out. -/
def shapeGroups (shape : Shaping) (top : Bool) (map : ResultMap) (start : String)
    (consumed : List String) : List (List Row) → Except Error (List Value × List String)
  | [] => .ok ([], consumed)
  | rows :: rest =>
    match shape rows map start consumed with
    | .error error => .error error
    | .ok record =>
      match shapeGroups shape top map start record.consumed rest with
      | .error error => .error error
      | .ok (records, consumed) =>
        if record.present || top then .ok (record.toValue map.typeName :: records, consumed)
        else .ok (records, consumed)

/-- What a nested mapping gives where there is nothing. -/
def nothing : NestedKind → Value
  | .association => .null
  | .collection => .list []

/-- The value of a nested mapping, and the columns used after it. -/
def shapeNested (shape : Shaping) (kind : NestedKind) (rows : List Row) (map : ResultMap)
    (start : String) (consumed : List String) : Except Error (Value × List String) :=
  match kind with
  | .association =>
    match shape (rows.take 1) map start consumed with
    | .error error => .error error
    | .ok record =>
      .ok (if record.present then record.toValue map.typeName else .null, record.consumed)
  | .collection =>
    match shapeGroups shape false map start consumed (groupRows false map start rows) with
    | .error error => .error error
    | .ok (records, consumed) => .ok (.list records, consumed)

/-- The result maps being used, each with the prefix of its columns. -/
abbrev Trail := List (String × String)

/-- A nested mapping that is left out: no column has its prefix, or its result map is being used
under the prefix already. -/
def isLeftOut (trail : Trail) (rows : List Row) (rule : Nested ResultMap) (map : ResultMap)
    (start : String) : Bool :=
  (rule.columnPrefix.isSome && !anyCarries rows start) || trail.contains (map.qualifiedId, start)

/-- A record with the property of a nested mapping. -/
def addNested (registry : Registry) (trail : Trail) (shape : Shaping) (rows : List Row)
    (start : String) (record : OpenRecord) (rule : Nested ResultMap) : Except Error OpenRecord :=
  match registry.nestedMap? rule.target with
  | .error error => .error error
  | .ok none => .ok record
  | .ok (some map) =>
    let inner := start ++ rule.columnPrefix.getD ""
    if isLeftOut trail rows rule map inner then
      .ok (record.put rule.property (nothing rule.kind))
    else
      match shapeNested shape rule.kind rows map inner record.consumed with
      | .error error => .error error
      | .ok (value, consumed) => .ok { record.put rule.property value with consumed }

/-- A record with the properties of nested mappings. -/
def addEachNested (registry : Registry) (trail : Trail) (shape : Shaping) (rows : List Row)
    (start : String) (record : OpenRecord) : List (Nested ResultMap) → Except Error OpenRecord
  | [] => .ok record
  | rule :: rest =>
    match addNested registry trail shape rows start record rule with
    | .error error => .error error
    | .ok record => addEachNested registry trail shape rows start record rest

/-! ### Records -/

/-- One record from the rows of its group; `shape` shapes the records nested in it. -/
def shapeRecord (registry : Registry) (trail : Trail) (shape : Shaping) : Shaping :=
  fun rows map start consumed =>
    match rows with
    | [] => .ok (.start consumed)
    | first :: _ =>
      let plain := map.mappings.foldl (addMapped first start) (.start consumed)
      match addEachNested registry trail shape rows start plain map.nested with
      | .error error => .error error
      | .ok record =>
        .ok (if map.autoMapping then
          first.foldl (addUnmapped registry.settings.camelCase start) record else record)

/-- Records within the result maps of a trail, nested no deeper than `depth`. -/
def shapeWithin (registry : Registry) : Nat → Trail → Shaping
  | 0, _ => fun _ _ _ consumed => .ok (.start consumed)
  | depth + 1, trail => fun rows map start consumed =>
    let trail := (map.qualifiedId, start) :: trail
    shapeRecord registry trail (shapeWithin registry depth trail) rows map start consumed

mutual

/-- The qualified identifiers of a result map and those declared inside it. -/
def innerIds : ResultMap → List String
  | ⟨namespaceName, id, _, _, _, _, _, nested⟩ =>
    Identifier.qualify namespaceName id :: nestedIds nested

/-- The qualified identifiers of the result maps declared inside nested mappings. -/
def nestedIds : List (Nested ResultMap) → List String
  | [] => []
  | ⟨_, _, target, _, _⟩ :: rest => targetIds target ++ nestedIds rest

/-- The qualified identifiers of the result maps declared in a target. -/
def targetIds : NestedTarget ResultMap → List String
  | .reference _ => []
  | .inline map => innerIds map
  | .select _ _ => []

end

/-- The qualified identifiers of all result maps, also of those declared inside others. -/
def allMapIds (registry : Registry) : List String :=
  registry.mappers.flatMap fun mapper => mapper.resultMaps.flatMap innerIds

/-- How deep the records of rows can lie within each other: as often as there are result maps for
each length of a prefix. -/
def depthLimit (registry : Registry) (rows : List Row) : Nat :=
  (longestName rows + 1) * ((allMapIds registry).length + 1) + 1

/-- How the rows are shaped that make up a result. -/
def shape (registry : Registry) (rows : List Row) : Shaping :=
  shapeWithin registry (depthLimit registry rows) []

/-- The record of one row. -/
def projectRow (registry : Registry) (map : ResultMap) (row : Row) : Except Error Value :=
  (shape registry [row] [row] map "" []).map fun record => record.toValue map.typeName

/-- The records of rows. -/
def projectRows (registry : Registry) (map : ResultMap) (rows : List Row) :
    Except Error (List Value) :=
  (shapeGroups (shape registry rows) true map "" [] (groupRows true map "" rows)).map Prod.fst

end DynamicSql.Projection

namespace DynamicSql.Registry

/-- The record that a row is by the result map of a qualified identifier. -/
def project (registry : Registry) (id : String) (row : Row) : Except Error Value :=
  match registry.resultMap id with
  | .error error => .error error
  | .ok map => Projection.projectRow registry map row

/-- The records that rows are by the result map of a qualified identifier. -/
def projectRows (registry : Registry) (id : String) (rows : List Row) :
    Except Error (List Value) :=
  match registry.resultMap id with
  | .error error => .error error
  | .ok map => Projection.projectRows registry map rows

variable {registry : Registry} {id : String} {map : ResultMap}

theorem project_of_resolved (resolved : registry.resultMap id = .ok map) (row : Row) :
    registry.project id row = Projection.projectRow registry map row := by
  rw [project, resolved]

theorem projectRows_of_resolved (resolved : registry.resultMap id = .ok map) (rows : List Row) :
    registry.projectRows id rows = Projection.projectRows registry map rows := by
  rw [projectRows, resolved]

end DynamicSql.Registry
