/-
This file holds mapped statements: a template with an identifier, and what the document says about
the results and about running it.
-/

import DynamicSql.Mapper.Identifier
import DynamicSql.Mapper.StatementKind
import DynamicSql.Template.Node

namespace DynamicSql

/-- The properties that receive generated keys, and the columns the keys are in. -/
structure GeneratedKeys where
  properties : List String
  columns : List String
  deriving DecidableEq

/-- A mapped statement. `body` is its markup before includes are expanded, `root` its template;
`timeout` is in seconds. -/
structure Statement where
  namespaceName : String
  id : String
  kind : StatementKind
  body : String
  root : Template.Node
  parameterType : Option String
  resultType : Option String
  resultMap : Option String
  useCache : Bool
  timeout : Option Nat
  fetchSize : Option Nat
  statementType : Option String
  generatedKeys : Option GeneratedKeys

/-- The identifier of a statement with its namespace. -/
def Statement.qualifiedId (statement : Statement) : String :=
  Identifier.qualify statement.namespaceName statement.id

end DynamicSql
