/-
This file holds markup as trees. A tag is a name with attributes; an element is a tag with the
texts and elements inside it. The questions that the readers of documents ask of an element are
here as well: an attribute, the elements directly inside, text where none belongs.
-/

import DynamicSql.Text.Blank

namespace DynamicSql.Markup

/-- A name with attributes, in the order in which they are written. -/
structure Tag where
  name : String
  attributes : List (String × String)
  deriving DecidableEq

/-- What stands inside an element: text, or an element. -/
inductive Content where
  | text (text : String)
  | element (tag : Tag) (children : List Content)

/-- A tag with what stands inside it. -/
structure Element where
  tag : Tag
  children : List Content

/-! ### Attributes -/

/-- The value of an attribute. -/
def Tag.attribute? (tag : Tag) (name : String) : Option String :=
  tag.attributes.lookup name

/-- The value of an attribute, or nothing. -/
def Tag.attributeOr (tag : Tag) (name fallback : String) : String :=
  (tag.attribute? name).getD fallback

/-- An attribute that an element must have and has not, or has blank. -/
structure MissingAttribute where
  element : String
  key : String
  deriving DecidableEq

/-- The message for a missing attribute. -/
def MissingAttribute.message (missing : MissingAttribute) : String :=
  "`<" ++ missing.element ++ ">` is missing the `" ++ missing.key ++ "` attribute"

/-- The value of an attribute that must not be blank. -/
def Tag.require (tag : Tag) (name : String) : Except MissingAttribute String :=
  match tag.attribute? name with
  | some value =>
    if Text.isAllBlank value.toList then .error ⟨tag.name, name⟩ else .ok value
  | none => .error ⟨tag.name, name⟩

/-! ### Content -/

/-- The elements among contents, texts skipped. -/
def elementsOf (contents : List Content) : List Element :=
  contents.filterMap fun
    | .element tag children => some ⟨tag, children⟩
    | .text _ => none

/-- The first text among contents that is not blank, without the blanks around it. -/
def strayTextOf? (contents : List Content) : Option String :=
  contents.findSome? fun
    | .text text => if Text.isAllBlank text.toList then none else some (Text.trimmed text)
    | .element _ _ => none

/-- The elements directly inside an element. -/
def Element.elements (element : Element) : List Element :=
  elementsOf element.children

/-- Text directly inside an element that is not blank. -/
def Element.strayText? (element : Element) : Option String :=
  strayTextOf? element.children

/-- Contents with a text behind them, joined to a text at their end. -/
def appendText (contents : List Content) (text : String) : List Content :=
  match contents.getLast? with
  | some (.text last) => contents.dropLast ++ [.text (last ++ text)]
  | _ => contents ++ [.text text]

end DynamicSql.Markup
