/-
This file holds statement templates as trees. Texts carry placeholders, conditions and choices
select what is rendered, loops repeat their body for each entry of a collection, clauses dress
theirs, and bindings introduce names for what follows them.
-/

import DynamicSql.Expr.Basic
import DynamicSql.Template.Clause
import DynamicSql.Template.StaticText

namespace DynamicSql.Template

/-- A loop without its body: the collection, as an expression and as it was written, the names
that an entry and its position are given, and the texts around and between the repetitions. -/
structure Loop where
  collection : Expr
  collectionSource : String
  item : Option String
  index : Option String
  opening : String
  separator : String
  closing : String

/-- A template. Tests are kept as they were written, too. -/
inductive Node where
  | text (content : StaticText)
  | mixed (nodes : List Node)
  | whereClause (body : Node)
  | setClause (body : Node)
  | trim (trimming : Trimming) (body : Node)
  | condition (test : Expr) (source : String) (body : Node)
  | choose (branches : List (Expr × String × Node)) (otherwise : Option Node)
  | loop (header : Loop) (body : Node)
  | bind (name : String) (value : Expr)

mutual

/-- A template whose rendering never depends on a parameter: literal text. -/
def Node.isStatic : Node → Bool
  | .text content => content.isStatic
  | .mixed nodes => Node.areStatic nodes
  | _ => false

/-- Templates that are all static. -/
def Node.areStatic : List Node → Bool
  | [] => true
  | node :: rest => node.isStatic && Node.areStatic rest

end

end DynamicSql.Template
