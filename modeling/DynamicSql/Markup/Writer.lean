/-
This file writes markup: opening tags as messages quote them, and contents as a text that reads as
the same contents. An element with nothing inside is written as an empty tag.
-/

import DynamicSql.Markup.Element
import DynamicSql.Markup.Entity

namespace DynamicSql.Markup

/-- An attribute behind a space. -/
def attributeText (entry : String × String) : List Char :=
  ' ' :: entry.1.toList ++ ['=', '"'] ++ entry.2.toList.flatMap encodeInValue ++ ['"']

/-- The name and the attributes of a tag behind its bracket. -/
def Tag.text (tag : Tag) : List Char :=
  '<' :: tag.name.toList ++ tag.attributes.flatMap attributeText

/-- An opening tag, as messages quote it. -/
def Tag.snippet (tag : Tag) : String :=
  String.ofList (tag.text ++ ['>'])

/-- A closing tag. -/
def Tag.closing (tag : Tag) : List Char :=
  ['<', '/'] ++ tag.name.toList ++ ['>']

mutual

/-- The text of one content. -/
def Content.written : Content → List Char
  | .text text => text.toList.flatMap encodeInText
  | .element tag [] => tag.text ++ ['/', '>']
  | .element tag (first :: rest) =>
    tag.text ++ '>' :: (first.written ++ writtenContents rest) ++ tag.closing

/-- The text of contents one after the other. -/
def writtenContents : List Content → List Char
  | [] => []
  | content :: rest => content.written ++ writtenContents rest

end

/-- The text of contents as a string. -/
def toMarkup (contents : List Content) : String :=
  String.ofList (writtenContents contents)

/-- The words of a text as messages quote it: no more than sixty characters, and three points
where more have been left out. -/
def abbreviate (text : String) : String :=
  let collapsed := Text.collapse text.toList
  if collapsed.length ≤ 60 then String.ofList collapsed
  else String.ofList (collapsed.take 60 ++ ['.', '.', '.'])

end DynamicSql.Markup
