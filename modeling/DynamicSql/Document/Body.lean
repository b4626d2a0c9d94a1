/-
This file compiles the body of a statement, its includes expanded, to a template. Texts that stand
side by side are read as one text; a body of a single piece is the template of that piece, and
every other body the sequence of its pieces.
-/

import DynamicSql.Expr.Reader
import DynamicSql.Markup.Writer
import DynamicSql.Template.Node

namespace DynamicSql.Document

open Markup (Content Tag)
open Template (Node StaticText Trimming)

/-! ### Elements of a body -/

/-- What an element in a body stands for. -/
inductive Directive where
  | condition
  | whereClause
  | setClause
  | trim
  | loop
  | choose
  | branch
  | otherwise
  | bind
  deriving DecidableEq

/-- The element that stands for a directive. -/
def Directive.name : Directive → String
  | .condition => "if"
  | .whereClause => "where"
  | .setClause => "set"
  | .trim => "trim"
  | .loop => "foreach"
  | .choose => "choose"
  | .branch => "when"
  | .otherwise => "otherwise"
  | .bind => "bind"

/-- All directives. -/
def Directive.all : List Directive :=
  [.condition, .whereClause, .setClause, .trim, .loop, .choose, .branch, .otherwise, .bind]

/-- The directive that an element of a name stands for. -/
def Directive.ofName? (name : String) : Option Directive :=
  all.find? fun directive => directive.name == name

/-! ### Faults -/

/-- Why a body is no template. -/
inductive BodyFault where
  | missing (key : Markup.MissingAttribute)
  | inText (text : String) (fault : Template.TextFault)
  | textInBind (text : String)
  | textInChoice (text : String)
  | afterOtherwise (tag : Tag)
  | unexpectedInChoice (tag : Tag)
  | noBranch
  | outsideChoice (tag : Tag)
  | unknown (tag : Tag)
  deriving DecidableEq

/-- The error for a fault. A fault in a text is the cause of an error that quotes the text. -/
def BodyFault.error : BodyFault → Error
  | .missing key => .note key.message
  | .inText text fault =>
    (Error.of fault.cause).under (.note ("in text `" ++ Markup.abbreviate text ++ "`"))
  | .textInBind text =>
    .note ("`<bind>` cannot have a body; found `" ++ Markup.abbreviate text ++ "`")
  | .textInChoice text =>
    .note ("text directly inside `<choose>`: `" ++ Markup.abbreviate text ++ "`")
  | .afterOtherwise tag => .note ("`" ++ tag.snippet ++ "` after `<otherwise>` in `<choose>`")
  | .unexpectedInChoice tag => .note ("unexpected `" ++ tag.snippet ++ "` inside `<choose>`")
  | .noBranch => .note "`<choose>` requires at least one `<when>`"
  | .outsideChoice tag => .note ("`" ++ tag.snippet ++ "` outside of `<choose>`")
  | .unknown tag => .note ("unknown tag `" ++ tag.snippet ++ "`")

/-! ### Pieces -/

/-- An attribute that an element of a body must have. -/
def requireIn (tag : Tag) (key : String) : Except BodyFault String :=
  (tag.require key).mapError .missing

/-- The template of a text. -/
def textNode (text : String) : Except BodyFault Node :=
  match StaticText.read text.toList with
  | .ok content => .ok (.text content)
  | .error fault => .error (.inText text fault)

/-- The template of a text unless it is empty. -/
def textNodes (text : String) : Except BodyFault (List Node) :=
  if text.isEmpty then .ok [] else (textNode text).map fun node => [node]

/-- The template of a sequence. -/
def gather : List Node → Node
  | [node] => node
  | nodes => .mixed nodes

/-- The trimming that an element asks for. -/
def trimmingOf (tag : Tag) : Trimming where
  prefixText := tag.attribute? "prefix"
  suffixText := tag.attribute? "suffix"
  prefixOverrides := ((tag.attribute? "prefixOverrides").map Trimming.readOverrides).getD []
  suffixOverrides := ((tag.attribute? "suffixOverrides").map Trimming.readOverrides).getD []

/-- The loop over a collection that an element asks for. -/
def loopOf (tag : Tag) (collection : String) : Template.Loop where
  collection := Expr.read collection
  collectionSource := collection
  item := tag.attribute? "item"
  index := tag.attribute? "index"
  opening := tag.attributeOr "open" ""
  separator := tag.attributeOr "separator" ""
  closing := tag.attributeOr "close" ""

/-- The binding that an element without a body asks for. -/
def bindNode (tag : Tag) (children : List Content) : Except BodyFault Node :=
  match Markup.strayTextOf? children with
  | some text => .error (.textInBind text)
  | none => do
    let name ← requireIn tag "name"
    let value ← requireIn tag "value"
    return .bind name (Expr.read value)

/-! ### Bodies -/

mutual

/-- The templates of contents. `pending` is the text since the last element. -/
def compileEach (pending : String) : List Content → Except BodyFault (List Node)
  | [] => textNodes pending
  | content :: rest =>
    match content with
    | .text text => compileEach (pending ++ text) rest
    | .element _ _ => do
      let before ← textNodes pending
      let node ← compileContent content
      let after ← compileEach "" rest
      return before ++ node :: after

/-- The template of one content. -/
def compileContent : Content → Except BodyFault Node
  | .text text => textNode text
  | .element tag children =>
    match Directive.ofName? tag.name with
    | some .condition => do
      let test ← requireIn tag "test"
      let nodes ← compileEach "" children
      return .condition (Expr.read test) test (gather nodes)
    | some .whereClause => (compileEach "" children).map fun nodes => .whereClause (gather nodes)
    | some .setClause => (compileEach "" children).map fun nodes => .setClause (gather nodes)
    | some .trim =>
      (compileEach "" children).map fun nodes => .trim (trimmingOf tag) (gather nodes)
    | some .loop => do
      let collection ← requireIn tag "collection"
      let nodes ← compileEach "" children
      return .loop (loopOf tag collection) (gather nodes)
    | some .choose =>
      match Markup.strayTextOf? children with
      | some text => .error (.textInChoice text)
      | none => do
        let (branches, otherwise) ← compileBranches none children
        if branches.isEmpty then .error .noBranch else .ok (.choose branches otherwise)
    | some .bind => bindNode tag children
    | some .branch | some .otherwise => .error (.outsideChoice tag)
    | none => .error (.unknown tag)

/-- The branches of a choice, and what holds otherwise if that has been read already. -/
def compileBranches (otherwise : Option Node) :
    List Content → Except BodyFault (List (Expr × String × Node) × Option Node)
  | [] => .ok ([], otherwise)
  | .text _ :: rest => compileBranches otherwise rest
  | .element tag children :: rest =>
    match Directive.ofName? tag.name, otherwise with
    | some .branch, none => do
      let test ← requireIn tag "test"
      let nodes ← compileEach "" children
      let (branches, otherwise) ← compileBranches none rest
      return ((Expr.read test, test, gather nodes) :: branches, otherwise)
    | some .otherwise, none => do
      let nodes ← compileEach "" children
      compileBranches (some (gather nodes)) rest
    | some .branch, some _ | some .otherwise, some _ => .error (.afterOtherwise tag)
    | _, _ => .error (.unexpectedInChoice tag)

end

/-- The template of a body. -/
def compile (contents : List Content) : Except BodyFault Node :=
  (compileEach "" contents).map gather

end DynamicSql.Document
