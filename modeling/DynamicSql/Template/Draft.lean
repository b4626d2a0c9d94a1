/-
This file holds what a rendering has come to: the names in scope, the bindings generated so far
and the text. A name in scope gets a generated binding the first time a placeholder uses it; the
binding outlives the scope, so that the placeholders of the finished text can be resolved.
-/

import DynamicSql.Value.Conversion

namespace DynamicSql.Template

/-- What introduced a name. -/
inductive Origin where
  | loop
  | bind
  deriving DecidableEq

/-- The mark of an origin in generated names. -/
def Origin.mark : Origin → String
  | .loop => "frch"
  | .bind => "bind"

/-- A name in scope with its value and the binding generated for it, if there is one. -/
structure Scope where
  name : String
  value : Value
  origin : Origin
  generated : Option String

/-- The state of a rendering. The innermost scope comes first; bindings are in the order in which
they were generated. -/
structure Draft where
  scopes : List Scope
  bindings : Fields Value
  nextBinding : Nat
  text : List Char

/-- The name under which the whole parameter can be reached. -/
def parameterName : String := "_parameter"

/-- What a path leads to in a parameter. A parameter without entries of its own answers to any
name. -/
def resolveParameter (parameter : Value) (path : Path) : Option Value :=
  if path.root = parameterName then parameter.entry? path.tail
  else if parameter.isRecord || parameter.isMap then parameter.entry? path
  else parameter.entry? path.tail

/-- The name of a generated binding. -/
def generatedName (origin : Origin) (name : String) (number : Nat) : String :=
  "__" ++ origin.mark ++ "_" ++ name ++ "_" ++ String.ofList (Number.decimal number)

namespace Draft

/-- The state before anything is rendered. -/
def empty : Draft := ⟨[], [], 0, []⟩

/-! ### Resolving -/

/-- What a path leads to while rendering: from the innermost name in scope, else from a binding,
else in the parameter. -/
def resolve (draft : Draft) (parameter : Value) (path : Path) : Option Value :=
  match draft.scopes.find? fun scope => scope.name == path.root with
  | some scope => scope.value.entry? path.tail
  | none =>
    match Fields.get? path.root draft.bindings with
    | some value => value.entry? path.tail
    | none => resolveParameter parameter path

/-- What a path leads to once the rendering is finished: from a binding, else in the parameter. -/
def resolveBound (draft : Draft) (parameter : Value) (path : Path) : Option Value :=
  match Fields.get? path.root draft.bindings with
  | some value => value.entry? path.tail
  | none => resolveParameter parameter path

/-! ### Scopes -/

/-- The state with one more name in scope. -/
def push (draft : Draft) (name : String) (value : Value) (origin : Origin) : Draft :=
  { draft with scopes := ⟨name, value, origin, none⟩ :: draft.scopes }

/-- The state with a name in scope if there is a name. -/
def pushNamed (draft : Draft) (name : Option String) (value : Value) (origin : Origin) : Draft :=
  match name with
  | some name => draft.push name value origin
  | none => draft

/-- The state with only the outermost `count` names in scope. -/
def keepScopes (draft : Draft) (count : Nat) : Draft :=
  { draft with scopes := draft.scopes.drop (draft.scopes.length - count) }

/-- The scopes with a generated name noted at the innermost scope of a name. -/
def noteGenerated (name generated : String) : List Scope → List Scope
  | [] => []
  | scope :: rest =>
    if scope.name = name then { scope with generated := some generated } :: rest
    else scope :: noteGenerated name generated rest

/-- The binding for a name in scope, generated if this is its first use. -/
def bindingFor (draft : Draft) (name : String) : Option (String × Draft) :=
  match draft.scopes.find? fun scope => scope.name == name with
  | none => none
  | some scope =>
    match scope.generated with
    | some generated => some (generated, draft)
    | none =>
      let generated := generatedName scope.origin scope.name draft.nextBinding
      some (generated,
        { draft with
          scopes := noteGenerated name generated draft.scopes
          bindings := Fields.put generated scope.value draft.bindings
          nextBinding := draft.nextBinding + 1 })

/-- The state with more text. -/
def write (draft : Draft) (text : List Char) : Draft :=
  { draft with text := draft.text ++ text }

end Draft

end DynamicSql.Template
