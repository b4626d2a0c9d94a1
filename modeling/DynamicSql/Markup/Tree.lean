/-
This file builds elements from events. The elements that are open lie on a stack, the innermost
first; when one ends it becomes a content of the one it stands in, or the root.
-/

import DynamicSql.Markup.Event
import DynamicSql.Markup.Writer

namespace DynamicSql.Markup

/-- Why events are no tree. `within` is the open element directly inside the root. -/
inductive TreeFault where
  | unexpectedClosing (name : String)
  | crossed (name : String) (opened : Tag) (within : Option Tag)
  | secondRoot (tag : Tag)
  | textOutside
  | unterminated (tag : Tag)
  | noRoot
  deriving DecidableEq

/-- The message for a fault. -/
def TreeFault.message : TreeFault → String
  | .unexpectedClosing name => "unexpected closing tag `</" ++ name ++ ">`"
  | .crossed name opened within =>
    let place := match within with
      | some tag => " in `" ++ tag.snippet ++ "`"
      | none => ""
    "`</" ++ name ++ ">` closes unterminated `" ++ opened.snippet ++ "`" ++ place
  | .secondRoot tag => "more than one root element; found `" ++ tag.snippet ++ "`"
  | .textOutside => "text outside of the root element"
  | .unterminated tag => "unterminated tag `" ++ tag.snippet ++ "`"
  | .noRoot => "document has no root element"

/-- A tree being built: the open elements with the contents they have so far, and the root once it
has ended. -/
structure Growth where
  opened : List Element
  root : Option Element

namespace Growth

/-- Nothing has been built yet. -/
def empty : Growth := ⟨[], none⟩

/-- The tree with one more element that has ended. -/
def add (growth : Growth) (element : Element) : Except TreeFault Growth :=
  match growth.opened with
  | parent :: outer =>
    let children := parent.children ++ [.element element.tag element.children]
    .ok { growth with opened := { parent with children } :: outer }
  | [] =>
    match growth.root with
    | none => .ok { growth with root := some element }
    | some _ => .error (.secondRoot element.tag)

/-- The tree with the innermost open element ended under a name. -/
def finish (growth : Growth) (name : String) : Except TreeFault Growth :=
  match growth.opened with
  | [] => .error (.unexpectedClosing name)
  | innermost :: outer =>
    if innermost.tag.name = name then add { growth with opened := outer } innermost
    else .error (.crossed name innermost.tag (outer.reverse[1]?.map (·.tag)))

/-- The tree with more text in the innermost open element. Outside of the root only blanks can
stand. -/
def addText (growth : Growth) (text : String) : Except TreeFault Growth :=
  match growth.opened with
  | innermost :: outer =>
    let children := appendText innermost.children text
    .ok { growth with opened := { innermost with children } :: outer }
  | [] => if Text.isAllBlank text.toList then .ok growth else .error .textOutside

/-- The tree after an event. -/
def step (growth : Growth) : Event → Except TreeFault Growth
  | .start tag => .ok { growth with opened := ⟨tag, []⟩ :: growth.opened }
  | .empty tag => growth.add ⟨tag, []⟩
  | .finish name => growth.finish name
  | .text text => growth.addText text
  | .skipped => .ok growth

/-- The root, if all elements have ended. -/
def result (growth : Growth) : Except TreeFault Element :=
  match growth.opened with
  | innermost :: _ => .error (.unterminated innermost.tag)
  | [] =>
    match growth.root with
    | some root => .ok root
    | none => .error .noRoot

/-- The tree after some events. -/
def run (growth : Growth) : List Event → Except TreeFault Growth
  | [] => .ok growth
  | event :: rest =>
    match growth.step event with
    | .ok growth => growth.run rest
    | .error fault => .error fault

end Growth

/-- The element that events describe. -/
def Element.ofEvents (events : List Event) : Except TreeFault Element :=
  match Growth.empty.run events with
  | .ok growth => growth.result
  | .error fault => .error fault

end DynamicSql.Markup
