/-
This file dresses the text of a clause: it takes away a token that would be left over at either
end, puts a prefix and a suffix around what remains, and appends the result to the text before it
with a space between where none is.
-/

import DynamicSql.Text.Alphanumeric
import DynamicSql.Text.Blank
import DynamicSql.Text.LetterCase
import DynamicSql.Text.Split

namespace DynamicSql.Template

/-- What is put around a clause, and the tokens that are taken away from its ends first. -/
structure Trimming where
  prefixText : Option String
  suffixText : Option String
  prefixOverrides : List String
  suffixOverrides : List String
  deriving DecidableEq

namespace Trimming

/-- A clause of conditions loses one leading conjunction. -/
def ofWhere : Trimming where
  prefixText := some "WHERE"
  suffixText := none
  prefixOverrides := ["AND", "OR"]
  suffixOverrides := []

/-- A clause of assignments loses one comma at either end. -/
def ofSet : Trimming where
  prefixText := some "SET"
  suffixText := none
  prefixOverrides := [","]
  suffixOverrides := [","]

/-- The tokens of a list with bars between them, without blanks; empty ones are no tokens. -/
def readOverrides (text : String) : List String :=
  ((Text.splitOn '|' text.toList).map Text.trim).filterMap fun token =>
    if token.isEmpty then none else some (String.ofList token)

/-! ### Taking tokens away -/

/-- The text begins with a character of a word. -/
def startsWithWord (text : List Char) : Bool :=
  (text.head?.map Text.isWordCharacter).getD false

/-- The text ends with a character of a word. -/
def endsWithWord (text : List Char) : Bool :=
  (text.getLast?.map Text.isWordCharacter).getD false

/-- What stands behind a token that a text begins with, in any case of its letters and as a whole
word. -/
def behindToken? (text : List Char) (token : String) : Option (List Char) :=
  let token := Text.trim token.toList
  if token.isEmpty then none
  else
    (Text.dropPrefixIgnoringCase? token text).filter fun rest =>
      !(endsWithWord token && startsWithWord rest)

/-- What stands before a token that a text ends with, in any case of its letters and as a whole
word. -/
def beforeToken? (text : List Char) (token : String) : Option (List Char) :=
  let token := Text.trim token.toList
  if token.isEmpty then none
  else
    (Text.dropSuffixIgnoringCase? token text).filter fun rest =>
      !(startsWithWord token && endsWithWord rest)

/-- The text without one blank at its start. -/
def dropOneBlank : List Char → List Char
  | [] => []
  | character :: rest => if Text.isBlank character then rest else character :: rest

/-- The text without the first of the tokens that it begins with, and one blank behind it. -/
def withoutPrefix (tokens : List String) (text : List Char) : List Char :=
  match tokens.findSome? (behindToken? text) with
  | some rest => dropOneBlank rest
  | none => text

/-- The text without the first of the tokens that it ends with, and all blanks before it. -/
def withoutSuffix (tokens : List String) (text : List Char) : List Char :=
  match tokens.findSome? (beforeToken? text) with
  | some rest => Text.trimEnd rest
  | none => text

/-- The text of a clause between its tokens. -/
def core (trimming : Trimming) (body : List Char) : List Char :=
  withoutSuffix trimming.suffixOverrides (withoutPrefix trimming.prefixOverrides (Text.trim body))

/-! ### Putting texts around -/

/-- A prefix, with a space behind it if it ends in a word. -/
def opening : Option String → List Char
  | none => []
  | some text => if endsWithWord text.toList then text.toList ++ [' '] else text.toList

/-- A suffix, with a space before it if it begins with a word. -/
def closing : Option String → List Char
  | none => []
  | some text => if startsWithWord text.toList then ' ' :: text.toList else text.toList

/-- The text of a clause, if anything is left of its body. -/
def wrap? (trimming : Trimming) (body : List Char) : Option (List Char) :=
  let core := trimming.core body
  if core.isEmpty then none
  else some (opening trimming.prefixText ++ core ++ closing trimming.suffixText)

end Trimming

/-- A clause behind other text, with a space between them unless the text ends in a blank. An
empty clause changes nothing. -/
def appendClause (text clause : List Char) : List Char :=
  if clause.isEmpty then text
  else
    match text.getLast? with
    | none => text ++ clause
    | some last => if Text.isBlank last then text ++ clause else text ++ ' ' :: clause

end DynamicSql.Template
