/-
This file holds mappers: the statements, result maps and fragments of one namespace, each found by
its local identifier.
-/

import DynamicSql.Mapper.ResultMap
import DynamicSql.Mapper.Statement

namespace DynamicSql

/-- A piece of markup for statements to include, its own includes expanded. -/
structure Fragment where
  id : String
  body : String
  deriving DecidableEq

/-- What one document declares, in the order in which it does. -/
structure Mapper where
  namespaceName : String
  statements : List Statement
  resultMaps : List ResultMap
  fragments : List Fragment

namespace Mapper

/-- The statement with a local identifier. -/
def statement? (mapper : Mapper) (id : String) : Option Statement :=
  mapper.statements.find? fun statement => statement.id == id

/-- The result map with a local identifier. -/
def resultMap? (mapper : Mapper) (id : String) : Option ResultMap :=
  mapper.resultMaps.find? fun map => map.id == id

/-- The fragment with a local identifier. -/
def fragment? (mapper : Mapper) (id : String) : Option Fragment :=
  mapper.fragments.find? fun fragment => fragment.id == id

end Mapper

end DynamicSql
