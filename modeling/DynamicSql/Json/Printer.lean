/-
This file writes JSON documents compactly: no blanks, members in order, and in strings only the
quotation mark, the backslash and the control characters escaped.
-/

import DynamicSql.Json.Basic
import DynamicSql.Number.Notation

namespace DynamicSql.Json

open Number (signedDecimal FloatStyle)

/-- One of the sixteen hexadecimal digits, in small letters. -/
def hexDigit (value : Nat) : Char :=
  if value < 10 then Char.ofNat (48 + value) else Char.ofNat (87 + value)

/-- A character within a string. -/
def escape (character : Char) : List Char :=
  if character = '"' then ['\\', '"']
  else if character = '\\' then ['\\', '\\']
  else if character = '\x08' then ['\\', 'b']
  else if character = '\x0c' then ['\\', 'f']
  else if character = '\n' then ['\\', 'n']
  else if character = '\r' then ['\\', 'r']
  else if character = '\t' then ['\\', 't']
  else if character.toNat < 32 then
    ['\\', 'u', '0', '0', hexDigit (character.toNat / 16), hexDigit (character.toNat % 16)]
  else [character]

/-- A string between quotation marks. -/
def quoted (text : String) : List Char :=
  '"' :: text.toList.flatMap escape ++ ['"']

mutual

/-- The text of a document. -/
def text : Json → List Char
  | .null => "null".toList
  | .bool true => "true".toList
  | .bool false => "false".toList
  | .integer value => signedDecimal value.value
  | .float value => FloatStyle.json.write value
  | .string text => quoted text
  | .array items => '[' :: itemsText items
  | .object members => '{' :: membersText members

/-- The items of an array, behind its opening bracket. -/
def itemsText : List Json → List Char
  | [] => [']']
  | [item] => text item ++ [']']
  | item :: next :: rest => text item ++ ',' :: itemsText (next :: rest)

/-- The members of an object, behind its opening brace. -/
def membersText : List (String × Json) → List Char
  | [] => ['}']
  | [(name, value)] => quoted name ++ ':' :: text value ++ ['}']
  | (name, value) :: next :: rest =>
    quoted name ++ ':' :: text value ++ ',' :: membersText (next :: rest)

end

/-- The text of a document as a string. -/
def render (document : Json) : String :=
  String.ofList (text document)

end DynamicSql.Json
