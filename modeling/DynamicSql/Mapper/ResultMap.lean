/-
This file holds result maps: the rules by which the columns of a row become the properties of a
record. A result map may extend another one, whose mappings it takes over unless it declares one
of its own for the property.
-/

import DynamicSql.Mapper.Identifier

namespace DynamicSql

/-- A rule that takes one column to one property; `valueType` is what the value is coerced to. -/
structure Mapping where
  property : String
  column : String
  valueType : Option String
  databaseType : Option String
  deriving DecidableEq

/-- How many records a nested mapping gathers. -/
inductive NestedKind where
  | association
  | collection
  deriving DecidableEq

/-- The name of the element that declares nested mappings of a kind. -/
def NestedKind.name : NestedKind → String
  | .association => "association"
  | .collection => "collection"

/-- The kind that an element declares. -/
def NestedKind.ofName? (name : String) : Option NestedKind :=
  if name = "association" then some .association
  else if name = "collection" then some .collection
  else none

/-- What a nested mapping shapes its records with: a result map by reference or in place, or a
statement that is left to the caller. -/
inductive NestedTarget (Map : Type) where
  | reference (id : String)
  | inline (map : Map)
  | select (statement : String) (column : Option String)

/-- A rule that takes a group of columns to one record or a list of records. -/
structure Nested (Map : Type) where
  kind : NestedKind
  property : String
  target : NestedTarget Map
  columnPrefix : Option String
  typeName : Option String

/-- A result map. `ids` are the mappings that tell records apart; `extended` is the result map that
this one extends; with `autoMapping` the columns without a mapping are taken over, too. -/
structure ResultMap where
  namespaceName : String
  id : String
  typeName : Option String
  extended : Option String
  autoMapping : Bool
  ids : List Mapping
  results : List Mapping
  nested : List (Nested ResultMap)

namespace ResultMap

/-- The identifier of a result map with its namespace. -/
def qualifiedId (map : ResultMap) : String :=
  Identifier.qualify map.namespaceName map.id

/-- The mappings of single columns, those that tell records apart first. -/
def mappings (map : ResultMap) : List Mapping :=
  map.ids ++ map.results

/-- The rules of a parent for properties that the child has no rule for, then those of the
child. -/
def merge {Rule : Type} (property : Rule → String) (parent child : List Rule) : List Rule :=
  (parent.filter fun rule => child.all fun own => property own != property rule) ++ child

/-- The map with the rules of a parent underneath its own. -/
def inherit (map parent : ResultMap) : ResultMap where
  namespaceName := map.namespaceName
  id := map.id
  typeName := map.typeName.or parent.typeName
  extended := parent.extended
  autoMapping := map.autoMapping
  ids := merge Mapping.property parent.ids map.ids
  results := merge Mapping.property parent.results map.results
  nested := merge Nested.property parent.nested map.nested

end ResultMap

end DynamicSql
