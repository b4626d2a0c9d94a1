/-
This file reads a document into its root element: the lexemes of the text become events and these
the tree, one after the other, so that of several faults the first in the text is reported.
-/

import DynamicSql.Markup.Tree

namespace DynamicSql.Markup

/-- Why a text is no document. A malformed construct is reported with the number of bytes read and
the element it stands in. -/
inductive ReadFault where
  | malformed (place : Nat) (inside : Option Tag) (fault : SyntaxFault)
  | event (fault : EventFault)
  | tree (fault : TreeFault)
  deriving DecidableEq

/-- The message for a fault. -/
def ReadFault.message : ReadFault → String
  | .malformed place inside fault =>
    let element := match inside with
      | some tag => " inside `" ++ tag.snippet ++ "`"
      | none => ""
    "malformed markup at byte " ++ String.ofList (Number.decimal place) ++ element ++ ": " ++
      fault.message
  | .event fault => fault.message
  | .tree fault => fault.message

/-- The tree after some lexemes. -/
def Growth.read (growth : Growth) : List Lexeme → Except ReadFault Growth
  | [] => .ok growth
  | lexeme :: rest =>
    match Event.ofLexeme lexeme with
    | .error fault => .error (.event fault)
    | .ok event =>
      match growth.step event with
      | .error fault => .error (.tree fault)
      | .ok growth => growth.read rest

/-- The text without the byte order mark that it may begin with. -/
def withoutOrderMark : List Char → List Char
  | [] => []
  | first :: rest => if first = '\ufeff' then rest else first :: rest

/-- The root element of a document. -/
def Element.read (source : List Char) : Except ReadFault Element :=
  let (lexemes, fault) := lexemes (withoutOrderMark source)
  match Growth.empty.read lexemes with
  | .error fault => .error fault
  | .ok growth =>
    match fault with
    | some (fault, place) =>
      .error (.malformed place (growth.opened.head?.map (·.tag)) fault)
    | none =>
      match growth.result with
      | .ok root => .ok root
      | .error fault => .error (.tree fault)

end DynamicSql.Markup
