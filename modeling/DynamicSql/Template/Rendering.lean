/-
This file renders templates. Rendering changes a draft and may end in the fault of a loop; the
draft is defined even then, since the bindings generated before the fault remain. Names introduced
within a condition, a branch, a repetition or a clause leave the scope when it ends; those of a
sequence stay for what follows.
-/

import DynamicSql.Error
import DynamicSql.Expr.Evaluation
import DynamicSql.Template.Draft
import DynamicSql.Template.Node

namespace DynamicSql.Template

/-- What a loop does when its collection is empty. -/
inductive EmptyCollection where
  | error
  | render
  deriving DecidableEq

/-- Why a loop cannot be rendered; `source` is its collection as it was written. -/
inductive LoopFault where
  | missing (source : String)
  | notIterable (source kind : String)
  | empty (source : String)
  deriving DecidableEq

/-- The cause that a fault is. -/
def LoopFault.cause : LoopFault → Cause
  | .missing source =>
    .expressionEvaluation ("foreach collection `" ++ source ++ "` is null or missing")
  | .notIterable source kind =>
    .expressionEvaluation
      ("foreach collection `" ++ source ++ "` is not iterable (found " ++ kind ++ ")")
  | .empty source => .expressionEvaluation ("foreach collection `" ++ source ++ "` is empty")

/-- A step of rendering: the draft after it, and the fault that it ended in. -/
abbrev Step := Draft → Draft × Option LoopFault

namespace Step

/-- One step, and a second one unless the first ends in a fault. -/
def followedBy (first second : Step) : Step := fun draft =>
  match first draft with
  | (draft, none) => second draft
  | (draft, some fault) => (draft, some fault)

/-- A step whose names leave the scope when it ends. -/
def enclosed (step : Step) : Step := fun draft =>
  let (after, fault) := step draft
  (after.keepScopes draft.scopes.length, fault)

/-- The text that a step writes onto nothing, with the text of the draft left as it is and the
names of the step out of scope. -/
def aside (step : Step) (draft : Draft) : Draft × Except LoopFault (List Char) :=
  let (after, fault) := step { draft with text := [] }
  let kept := after.keepScopes draft.scopes.length
  ({ kept with text := draft.text },
    match fault with
    | none => .ok after.text
    | some fault => .error fault)

end Step

/-! ### Texts and clauses -/

/-- A placeholder in the rendered text: with its path rooted at a generated binding if its root is
in scope, else as it was written. -/
def writePlaceholder (path : Path) (options : Option (List Char)) (inside : List Char)
    (draft : Draft) : Draft :=
  match draft.bindingFor path.root with
  | some (generated, draft) =>
    let options := match options with
      | some options => [',', ' '] ++ options
      | none => []
    draft.write (Piece.placeholder ((path.withRoot generated).text ++ options)).written
  | none => draft.write (Piece.placeholder inside).written

/-- One part of a text. -/
def writePart (draft : Draft) : TextPart → Draft
  | .literal text => draft.write text
  | .placeholder path options inside => writePlaceholder path options inside draft

/-- A text, part by part. -/
def writeText (text : StaticText) (draft : Draft) : Draft :=
  text.parts.foldl writePart draft

/-- The clause around what a step writes, if anything is left of it. -/
def writeClause (trimming : Trimming) (body : Step) : Step := fun draft =>
  match body.aside draft with
  | (draft, .error fault) => (draft, some fault)
  | (draft, .ok text) =>
    match trimming.wrap? text with
    | some clause => ({ draft with text := appendClause draft.text clause }, none)
    | none => (draft, none)

/-! ### Loops -/

/-- The positions and items of a list from a position on. -/
def itemsFrom (position : Nat) : List Value → List (Value × Value)
  | [] => []
  | item :: rest => (.int64 (Int64.ofNat position), item) :: itemsFrom (position + 1) rest

/-- The entries of a collection: its positions or keys, each with the item there. -/
def entriesOf (source : String) : Value → Except LoopFault (List (Value × Value))
  | .list items => .ok (itemsFrom 0 items)
  | .map entries => .ok (entries.map fun entry => (.string entry.1, entry.2))
  | .null => .error (.missing source)
  | other => .error (.notIterable source other.kindName)

/-- The step of one repetition: the names of the loop, then its body. -/
def repetition (header : Loop) (body : Step) (entry : Value × Value) : Step := fun draft =>
  body ((draft.pushNamed header.index entry.1 .loop).pushNamed header.item entry.2 .loop)

/-- The trimmed texts of the repetitions that are not blank, up to the first fault. -/
def repeatBody (header : Loop) (body : Step) :
    List (Value × Value) → Draft → Draft × Except LoopFault (List (List Char))
  | [], draft => (draft, .ok [])
  | entry :: rest, draft =>
    match (repetition header body entry).aside draft with
    | (draft, .error fault) => (draft, .error fault)
    | (draft, .ok text) =>
      match repeatBody header body rest draft with
      | (draft, .error fault) => (draft, .error fault)
      | (draft, .ok texts) =>
        let part := Text.trim text
        (draft, .ok (if part.isEmpty then texts else part :: texts))

/-- The text of a loop with the given repetitions. -/
def Loop.assemble (header : Loop) (texts : List (List Char)) : List Char :=
  header.opening.toList ++ List.intercalate header.separator.toList texts ++
    header.closing.toList

/-- A loop over a collection. -/
def writeLoop (policy : EmptyCollection) (header : Loop) (collection : Value) (body : Step) :
    Step := fun draft =>
  match entriesOf header.collectionSource collection with
  | .error fault => (draft, some fault)
  | .ok entries =>
    if entries.isEmpty && policy == .error then (draft, some (.empty header.collectionSource))
    else
      match repeatBody header body entries draft with
      | (draft, .error fault) => (draft, some fault)
      | (draft, .ok texts) =>
        ({ draft with text := appendClause draft.text (header.assemble texts) }, none)

/-! ### Templates -/

mutual

/-- The step that a template is. -/
def Node.apply (policy : EmptyCollection) (parameter : Value) : Node → Step
  | .text content => fun draft => (writeText content draft, none)
  | .mixed nodes => Node.applyEach policy parameter nodes
  | .whereClause body => writeClause .ofWhere (Node.apply policy parameter body)
  | .setClause body => writeClause .ofSet (Node.apply policy parameter body)
  | .trim trimming body => writeClause trimming (Node.apply policy parameter body)
  | .condition test _ body => fun draft =>
    if test.evalBool (draft.resolve parameter) then
      Step.enclosed (Node.apply policy parameter body) draft
    else (draft, none)
  | .choose branches otherwise =>
    Node.applyFirst policy parameter branches (Node.applyOption policy parameter otherwise)
  | .loop header body => fun draft =>
    writeLoop policy header (header.collection.eval (draft.resolve parameter))
      (Node.apply policy parameter body) draft
  | .bind name value => fun draft =>
    (draft.push name (value.eval (draft.resolve parameter)) .bind, none)

/-- Templates one after the other, up to the first fault. -/
def Node.applyEach (policy : EmptyCollection) (parameter : Value) : List Node → Step
  | [] => fun draft => (draft, none)
  | node :: rest =>
    Step.followedBy (Node.apply policy parameter node) (Node.applyEach policy parameter rest)

/-- The first branch whose test holds, or the step for when none does. -/
def Node.applyFirst (policy : EmptyCollection) (parameter : Value) :
    List (Expr × String × Node) → Step → Step
  | [], otherwise => otherwise
  | (test, _, body) :: rest, otherwise => fun draft =>
    if test.evalBool (draft.resolve parameter) then
      Step.enclosed (Node.apply policy parameter body) draft
    else Node.applyFirst policy parameter rest otherwise draft

/-- A template that may be missing, its names out of scope when it ends. -/
def Node.applyOption (policy : EmptyCollection) (parameter : Value) : Option Node → Step
  | none => fun draft => (draft, none)
  | some body => Step.enclosed (Node.apply policy parameter body)

end

/-- The text of a template, placeholders still in place, and the draft it left. -/
def Node.render (node : Node) (policy : EmptyCollection) (parameter : Value) :
    Draft × Except Error String :=
  match node.apply policy parameter .empty with
  | (draft, none) => (draft, .ok (String.ofList draft.text))
  | (draft, some fault) => (draft, .error (.of fault.cause))

end DynamicSql.Template
