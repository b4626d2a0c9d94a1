/-
This file executes statements: the template is rendered for a parameter, the placeholders of the
rendered text are replaced by positional markers, and the values they stand for become the
arguments, in the same order.
-/

import DynamicSql.Registry.Basic

namespace DynamicSql

open Template (StaticText TextFault TextPart)

/-- A statement with its arguments bound; `timeout` is in seconds. -/
structure BoundStatement where
  sql : String
  arguments : List Value
  kind : StatementKind
  statementId : String
  resultMap : Option String
  resultType : Option String
  timeout : Option Nat
  keyProperties : List String
  keyColumns : List String

namespace Execution

/-! ### Markers and arguments -/

/-- The paths of the placeholders, in order. -/
def placeholderPaths (parts : List TextPart) : List Path :=
  parts.filterMap fun
    | .literal _ => none
    | .placeholder path _ _ => some path

/-- The text with markers for its placeholders; the next one has the given position. -/
def markedText (dialect : Dialect) (position : Nat) : List TextPart → List Char
  | [] => []
  | .literal text :: rest => text ++ markedText dialect position rest
  | .placeholder _ _ _ :: rest =>
    dialect.marker position ++ markedText dialect (position + 1) rest

/-- The text of a statement without the blanks around it, and on request without runs of
blanks. -/
def tidy (shrink : Bool) (text : List Char) : List Char :=
  if shrink then Text.collapse text else Text.trim text

/-- The cause that a fault in a rendered text is. -/
def faultCause : TextFault → Cause
  | .invalid inside => .note ("invalid placeholder " ++ Template.quotedPiece (.placeholder inside))
  | .raw inside =>
    .unsupportedFeature ("raw substitution " ++ Template.quotedPiece (.raw inside))
  | .unterminated text => .note ("unterminated placeholder `" ++ String.ofList text ++ "`")

/-! ### Statements -/

/-- A statement with the placeholders of its rendered text resolved; what leads nowhere is
null. -/
def bindText (settings : Settings) (statement : Statement) (resolve : Path → Option Value)
    (rendered : String) : Except Error BoundStatement :=
  match StaticText.read rendered.toList with
  | .error fault => .error (.of (faultCause fault))
  | .ok text =>
    .ok {
      sql := String.ofList (tidy settings.shrinkBlanks (markedText settings.dialect 1 text.parts))
      arguments := (placeholderPaths text.parts).map fun path => (resolve path).getD .null
      kind := statement.kind
      statementId := statement.qualifiedId
      resultMap := statement.resultMap
      resultType := statement.resultType
      timeout := statement.timeout
      keyProperties := (statement.generatedKeys.map GeneratedKeys.properties).getD []
      keyColumns := (statement.generatedKeys.map GeneratedKeys.columns).getD [] }

/-- A statement bound to a parameter. -/
def bind (settings : Settings) (statement : Statement) (parameter : Value) :
    Except Error BoundStatement :=
  match statement.root.render settings.emptyCollection parameter with
  | (_, .error error) => .error error
  | (draft, .ok rendered) =>
    bindText settings statement (draft.resolveBound parameter) rendered

end Execution

namespace Registry

/-- A statement of the registry bound to a parameter. -/
def bind (registry : Registry) (statement : Statement) (parameter : Value) :
    Except Error BoundStatement :=
  (Execution.bind registry.settings statement parameter).mapError fun error =>
    error.under (.note ("failed to execute `" ++ statement.qualifiedId ++ "`"))

/-- The statement of a qualified identifier, of any kind, bound to a parameter. -/
def execute (registry : Registry) (id : String) (parameter : Value) :
    Except Error BoundStatement :=
  match registry.statement id with
  | .error error => .error error
  | .ok statement => registry.bind statement parameter

/-- The statement of a qualified identifier bound to a parameter, which has to be of a kind. -/
def executeKind (registry : Registry) (kind : StatementKind) (id : String) (parameter : Value) :
    Except Error BoundStatement :=
  match registry.statement id with
  | .error error => .error error
  | .ok statement =>
    if statement.kind = kind then registry.bind statement parameter
    else .error (.of (.statementKindMismatch id kind statement.kind))

end Registry

end DynamicSql
