/-
This file holds the errors of the library. An error is a chain of causes, the outermost first: the
last cause says what went wrong and each one before it in which attempt. Its message is the
messages of the causes, outermost first, with colons between them.
-/

import DynamicSql.Mapper.StatementKind
import DynamicSql.Value.Conversion

namespace DynamicSql

/-- Where in a mapper document something was found, as far as it is known. -/
structure Location where
  file : Option String
  namespaceName : Option String
  statement : Option String
  deriving DecidableEq

namespace Location

/-- No place at all. -/
def nowhere : Location := ⟨none, none, none⟩

/-- The parts of a place that are known, each with its name. -/
def parts (location : Location) : List String :=
  let part := fun (name : String) (value : Option String) =>
    value.toList.map fun value => name ++ " `" ++ value ++ "`"
  part "file" location.file ++ part "namespace" location.namespaceName ++
    part "statement" location.statement

/-- The same place within a statement, a fragment or a result map. -/
def within (location : Location) (id : String) : Location :=
  { location with statement := some id }

end Location

/-- One cause in the chain of an error. A note is a plain message and a foreign cause one that
came from outside of the library. -/
inductive Cause where
  | note (text : String)
  | foreign (text : String)
  | expressionEvaluation (text : String)
  | invalidMapper (location : Location) (text : String)
  | resultMapNotFound (id : String)
  | statementKindMismatch (id : String) (expected actual : StatementKind)
  | statementNotFound (id : String)
  | typeConversion (found expected : String)
  | unsupportedFeature (text : String)
  deriving DecidableEq

/-- The message of a cause alone. -/
def Cause.message : Cause → String
  | .note text => text
  | .foreign text => text
  | .expressionEvaluation text => "expression evaluation failed: " ++ text
  | .invalidMapper location text =>
    match location.parts with
    | [] => "invalid mapper: " ++ text
    | parts => "invalid mapper (" ++ ", ".intercalate parts ++ "): " ++ text
  | .resultMapNotFound id => "result map not found: " ++ id
  | .statementKindMismatch id expected actual =>
    "statement kind mismatch: `" ++ id ++ "` is a " ++ actual.name ++ " statement, expected " ++
      expected.name
  | .statementNotFound id => "statement not found: " ++ id
  | .typeConversion found expected => "cannot convert " ++ found ++ " to " ++ expected
  | .unsupportedFeature text => "unsupported feature: " ++ text

/-- An error: its outermost cause and the causes under that, outermost first. -/
structure Error where
  outermost : Cause
  causes : List Cause
  deriving DecidableEq

namespace Error

/-- The error of one cause. -/
def of (cause : Cause) : Error := ⟨cause, []⟩

/-- The error of a plain message. -/
def note (text : String) : Error := of (.note text)

/-- All causes, outermost first. -/
def chain (error : Error) : List Cause :=
  error.outermost :: error.causes

/-- The innermost cause. -/
def root (error : Error) : Cause :=
  error.causes.getLastD error.outermost

/-- The messages of all causes. -/
def message (error : Error) : String :=
  ": ".intercalate (error.chain.map Cause.message)

/-- Some cause of the chain satisfies a test. -/
def any (error : Error) (test : Cause → Bool) : Bool :=
  error.chain.any test

/-- The error under a new outermost cause. -/
def under (error : Error) (cause : Cause) : Error :=
  ⟨cause, error.chain⟩

/-- The error in the context of another one. Of a context that has causes of its own, or that is
in use elsewhere too, only the outermost message is kept. -/
def context (error context : Error) (shared : Bool) : Error :=
  if shared || !context.causes.isEmpty then error.under (.note context.outermost.message)
  else error.under context.outermost

@[simp]
theorem message_under (error : Error) (cause : Cause) :
    (error.under cause).message = cause.message ++ ": " ++ error.message := by
  simp [message, under, chain, String.intercalate_cons_cons]

@[simp]
theorem root_under (error : Error) (cause : Cause) : (error.under cause).root = error.root := by
  exact List.getLastD_cons ..

end Error

/-- A cause that names a feature the library does not have. -/
def Cause.isUnsupportedFeature : Cause → Bool
  | .unsupportedFeature _ => true
  | _ => false

end DynamicSql
