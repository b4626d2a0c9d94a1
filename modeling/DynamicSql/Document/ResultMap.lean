/-
This file reads result maps from elements. The elements inside one are its mappings. A nested
mapping names a result map or a statement, or holds the mappings of a result map of its own, which
is named after the property and maps automatically if the one around it says so and the element
itself says nothing.
-/

import DynamicSql.Document.Setting
import DynamicSql.Mapper.ResultMap
import DynamicSql.Markup.Writer

namespace DynamicSql.Document

open Markup (Content Element Tag)

/-! ### Faults -/

/-- Why an element is no result map. -/
inductive ResultMapFault where
  | setting (fault : SettingFault)
  | unnamed (tag : Tag)
  | unexpectedInConstructor (tag : Tag)
  | unexpected (tag : Tag)
  deriving DecidableEq

/-- The message for a fault. -/
def ResultMapFault.message : ResultMapFault → String
  | .setting fault => fault.message
  | .unnamed tag => "`" ++ tag.snippet ++ "` requires a `property` or `column` attribute"
  | .unexpectedInConstructor tag => "unexpected `" ++ tag.snippet ++ "` inside `<constructor>`"
  | .unexpected tag => "unexpected `" ++ tag.snippet ++ "` inside `<resultMap>`"

/-! ### Mappings -/

/-- The mapping of one column. Without a name for the property the column names it, and the other
way round. -/
def mappingOf (tag : Tag) : Except ResultMapFault Mapping :=
  let column := tag.attribute? "column"
  match ((tag.attribute? "property").or (tag.attribute? "name")).or column with
  | none => .error (.unnamed tag)
  | some property =>
    .ok {
      property
      column := column.getD property
      valueType := tag.attribute? "javaType"
      databaseType := tag.attribute? "jdbcType" }

/-- A result map with one more mapping that tells records apart. -/
def withId (map : ResultMap) (rule : Mapping) : ResultMap :=
  { map with ids := map.ids ++ [rule] }

/-- A result map with one more mapping. -/
def withResult (map : ResultMap) (rule : Mapping) : ResultMap :=
  { map with results := map.results ++ [rule] }

/-- A result map with the mappings that the arguments of a constructor declare. -/
def withArguments (map : ResultMap) : List Element → Except ResultMapFault ResultMap
  | [] => .ok map
  | argument :: rest =>
    if argument.tag.name = "idArg" then do
      let rule ← mappingOf argument.tag
      withArguments (withId map rule) rest
    else if argument.tag.name = "arg" then do
      let rule ← mappingOf argument.tag
      withArguments (withResult map rule) rest
    else .error (.unexpectedInConstructor argument.tag)

/-! ### Result maps -/

/-- A result map without mappings, as its tag describes it, and whether the tag says anything on
automatic mapping. -/
def emptyMap (namespaceName id : String) (tag : Tag) :
    Except ResultMapFault (ResultMap × Bool) := do
  let autoMapping ← (flagSetting tag "autoMapping").mapError .setting
  let map : ResultMap := {
    namespaceName
    id
    typeName := ((tag.attribute? "type").or (tag.attribute? "ofType")).or
      (tag.attribute? "javaType")
    extended := (tag.attribute? "extends").map (Identifier.resolve namespaceName)
    autoMapping := autoMapping.getD false
    ids := []
    results := []
    nested := [] }
  return (map, autoMapping.isSome)

/-- The type that the tag of a nested mapping gives to its records. -/
def nestedType (kind : NestedKind) (tag : Tag) : Option String :=
  match kind with
  | .association => tag.attribute? "javaType"
  | .collection => (tag.attribute? "ofType").or (tag.attribute? "javaType")

/-- What a nested mapping of a result map shapes its records with; `declare` adds the mappings
inside the element to a result map. -/
def nestedTarget (map : ResultMap) (property : String) (tag : Tag)
    (declare : ResultMap → Except ResultMapFault ResultMap) :
    Except ResultMapFault (NestedTarget ResultMap) :=
  match tag.attribute? "select", tag.attribute? "resultMap" with
  | some statement, _ =>
    .ok (.select (Identifier.resolve map.namespaceName statement) (tag.attribute? "column"))
  | none, some reference => .ok (.reference (Identifier.resolve map.namespaceName reference))
  | none, none => do
    let id := map.id ++ "[" ++ property ++ "]"
    let (inner, decided) ← emptyMap map.namespaceName id tag
    let inner ← declare inner
    return .inline (if decided then inner else { inner with autoMapping := map.autoMapping })

mutual

/-- A result map with the mappings that contents declare. -/
def declareRules (map : ResultMap) : List Content → Except ResultMapFault ResultMap
  | [] => .ok map
  | content :: rest => do
    let map ← declareRule map content
    declareRules map rest

/-- A result map with the mappings that one content declares. -/
def declareRule (map : ResultMap) : Content → Except ResultMapFault ResultMap
  | .text _ => .ok map
  | .element tag children =>
    if tag.name = "id" then (mappingOf tag).map (withId map)
    else if tag.name = "result" then (mappingOf tag).map (withResult map)
    else if tag.name = "constructor" then withArguments map (Markup.elementsOf children)
    else if tag.name = "discriminator" then .ok map
    else
      match NestedKind.ofName? tag.name with
      | none => .error (.unexpected tag)
      | some kind => do
        let property ← (requireSetting tag "property").mapError .setting
        let target ← nestedTarget map property tag fun inner => declareRules inner children
        let rule : Nested ResultMap := {
          kind
          property
          target
          columnPrefix := tag.attribute? "columnPrefix"
          typeName := nestedType kind tag }
        return { map with nested := map.nested ++ [rule] }

end

/-- The result map of a namespace that an element declares. -/
def readResultMap (namespaceName : String) (element : Element) :
    Except ResultMapFault ResultMap := do
  let id ← (requireSetting element.tag "id").mapError .setting
  let (map, _) ← emptyMap namespaceName id element.tag
  declareRules map element.children

end DynamicSql.Document
