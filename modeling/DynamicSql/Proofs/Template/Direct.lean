/-
This file evaluates templates directly. A placeholder is looked up where it is written, in the
innermost scope of the name its path begins with or else in the parameter, and becomes a hole that
holds the value. No names are generated, and what has been written is never read again: the markers
of the finished statement stand at the holes, and its arguments are what the holes hold.
-/

import DynamicSql.Execution
import DynamicSql.Proofs.Template.Sign

namespace DynamicSql.Template.Direct

/-! ### Sheets -/

/-- The names in scope with their values, the innermost first, and the signs written so far. -/
structure Sheet where
  names : Fields Value
  signs : List (Sign Value)

/-- What a path leads to: from the innermost name in scope, else in the parameter. -/
def resolve (parameter : Value) (names : Fields Value) (path : Path) : Option Value :=
  match Fields.get? path.root names with
  | some value => value.entry? path.tail
  | none => resolveParameter parameter path

namespace Sheet

/-- The sheet with one more name in scope. -/
def push (sheet : Sheet) (name : String) (value : Value) : Sheet :=
  { sheet with names := (name, value) :: sheet.names }

/-- The sheet with a name in scope if there is a name. -/
def pushNamed (sheet : Sheet) (name : Option String) (value : Value) : Sheet :=
  match name with
  | some name => sheet.push name value
  | none => sheet

end Sheet

/-- A step of the evaluation: the sheet after it, or the fault of a loop. -/
abbrev Step := Sheet → Except LoopFault Sheet

/-- One step, and a second one after it. -/
def followedBy (first second : Step) : Step := fun sheet =>
  match first sheet with
  | .error fault => .error fault
  | .ok next => second next

/-- A step whose names leave the scope when it ends. -/
def enclosed (step : Step) : Step := fun sheet =>
  match step sheet with
  | .error fault => .error fault
  | .ok next => .ok { next with names := sheet.names }

/-- The signs that a step writes onto nothing. -/
def aside (step : Step) (sheet : Sheet) : Except LoopFault (List (Sign Value)) :=
  match step { sheet with signs := [] } with
  | .error fault => .error fault
  | .ok next => .ok next.signs

/-! ### Texts and clauses -/

/-- The signs of a part of a text. -/
def signsOf (parameter : Value) (names : Fields Value) : TextPart → List (Sign Value)
  | .literal text => Sign.ofText text
  | .placeholder path _ _ => [.hole ((resolve parameter names path).getD .null)]

/-- A text, part by part. -/
def writeText (parameter : Value) (content : StaticText) (sheet : Sheet) : Sheet :=
  { sheet with signs := sheet.signs ++ content.parts.flatMap (signsOf parameter sheet.names) }

/-- The clause around what a step writes, if anything is left of it. -/
def writeClause (trimming : Trimming) (body : Step) : Step := fun sheet =>
  match aside body sheet with
  | .error fault => .error fault
  | .ok signs =>
    match Sign.wrap? trimming signs with
    | some clause => .ok { sheet with signs := Sign.appendClause sheet.signs clause }
    | none => .ok sheet

/-! ### Loops -/

/-- The trimmed signs of the repetitions that are not blank, or the first fault. -/
def repeatBody (header : Loop) (body : Step) (sheet : Sheet) :
    List (Value × Value) → Except LoopFault (List (List (Sign Value)))
  | [] => .ok []
  | entry :: rest =>
    match aside body ((sheet.pushNamed header.index entry.1).pushNamed header.item entry.2) with
    | .error fault => .error fault
    | .ok signs =>
      match repeatBody header body sheet rest with
      | .error fault => .error fault
      | .ok others =>
        let part := Sign.trim signs
        .ok (if part.isEmpty then others else part :: others)

/-- The signs of a loop with the given repetitions. -/
def assemble (header : Loop) (parts : List (List (Sign Value))) : List (Sign Value) :=
  Sign.ofText header.opening.toList ++
    List.intercalate (Sign.ofText header.separator.toList) parts ++
      Sign.ofText header.closing.toList

/-- A loop over a collection. -/
def writeLoop (policy : EmptyCollection) (header : Loop) (collection : Value) (body : Step) :
    Step := fun sheet =>
  match entriesOf header.collectionSource collection with
  | .error fault => .error fault
  | .ok entries =>
    if entries.isEmpty && policy == .error then .error (.empty header.collectionSource)
    else
      match repeatBody header body sheet entries with
      | .error fault => .error fault
      | .ok parts =>
        .ok { sheet with signs := Sign.appendClause sheet.signs (assemble header parts) }

/-! ### Templates -/

mutual

/-- The step that a template is. -/
def apply (policy : EmptyCollection) (parameter : Value) : Node → Step
  | .text content => fun sheet => .ok (writeText parameter content sheet)
  | .mixed nodes => applyEach policy parameter nodes
  | .whereClause body => writeClause .ofWhere (apply policy parameter body)
  | .setClause body => writeClause .ofSet (apply policy parameter body)
  | .trim trimming body => writeClause trimming (apply policy parameter body)
  | .condition test _ body => fun sheet =>
    if test.evalBool (resolve parameter sheet.names) then
      enclosed (apply policy parameter body) sheet
    else .ok sheet
  | .choose branches otherwise =>
    applyFirst policy parameter branches (applyOption policy parameter otherwise)
  | .loop header body => fun sheet =>
    writeLoop policy header (header.collection.eval (resolve parameter sheet.names))
      (apply policy parameter body) sheet
  | .bind name value => fun sheet =>
    .ok (sheet.push name (value.eval (resolve parameter sheet.names)))

/-- Templates one after the other. -/
def applyEach (policy : EmptyCollection) (parameter : Value) : List Node → Step
  | [] => .ok
  | node :: rest => followedBy (apply policy parameter node) (applyEach policy parameter rest)

/-- The first branch whose test holds, or the step for when none does. -/
def applyFirst (policy : EmptyCollection) (parameter : Value) :
    List (Expr × String × Node) → Step → Step
  | [], otherwise => otherwise
  | (test, _, body) :: rest, otherwise => fun sheet =>
    if test.evalBool (resolve parameter sheet.names) then
      enclosed (apply policy parameter body) sheet
    else applyFirst policy parameter rest otherwise sheet

/-- A template that may be missing, its names out of scope when it ends. -/
def applyOption (policy : EmptyCollection) (parameter : Value) : Option Node → Step
  | none => .ok
  | some body => enclosed (apply policy parameter body)

end

/-- The signs that a template comes to. -/
def render (node : Node) (policy : EmptyCollection) (parameter : Value) :
    Except LoopFault (List (Sign Value)) :=
  match apply policy parameter node ⟨[], []⟩ with
  | .error fault => .error fault
  | .ok sheet => .ok sheet.signs

/-! ### Statements -/

/-- What the holes hold, in order. -/
def arguments {Hole : Type} : List (Sign Hole) → List Hole
  | [] => []
  | .letter _ :: rest => arguments rest
  | .hole content :: rest => content :: arguments rest

/-- The text with markers at the holes; the next one has the given position. -/
def markedText {Hole : Type} (dialect : Dialect) (position : Nat) : List (Sign Hole) → List Char
  | [] => []
  | .letter character :: rest => character :: markedText dialect position rest
  | .hole _ :: rest => dialect.marker position ++ markedText dialect (position + 1) rest

/-- A statement evaluated for a parameter. -/
def bind (settings : Settings) (statement : Statement) (parameter : Value) :
    Except Error BoundStatement :=
  match render statement.root settings.emptyCollection parameter with
  | .error fault => .error (.of fault.cause)
  | .ok signs =>
    let tidied := Sign.tidy settings.shrinkBlanks signs
    .ok {
      sql := String.ofList (markedText settings.dialect 1 tidied)
      arguments := arguments tidied
      kind := statement.kind
      statementId := statement.qualifiedId
      resultMap := statement.resultMap
      resultType := statement.resultType
      timeout := statement.timeout
      keyProperties := (statement.generatedKeys.map GeneratedKeys.properties).getD []
      keyColumns := (statement.generatedKeys.map GeneratedKeys.columns).getD [] }

end DynamicSql.Template.Direct
