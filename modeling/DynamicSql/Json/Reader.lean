/-
This file reads JSON texts. A name that an object has twice keeps its first place and its last
value. Numbers without a point and an exponent are integers while they fit into 64 bits. All
others are floating-point numbers, for which as many leading digits as fit into an unsigned word
are read, turned into a floating-point number and scaled by a power of ten, each step rounded.
-/

import DynamicSql.Json.Basic
import DynamicSql.Number.Decimal

namespace DynamicSql.Json

open Number (Binary64 Finite64 isDigit digitValue valueOf readDigits?)

/-! ### Blanks and strings -/

/-- The four characters that may stand between the parts of a JSON text. -/
def isSpace (character : Char) : Bool :=
  character == ' ' || character == '\t' || character == '\n' || character == '\r'

/-- The text without leading spaces. -/
def skipSpace (text : List Char) : List Char :=
  text.dropWhile isSpace

/-- The value of a hexadecimal digit. -/
def hexValue? (character : Char) : Option Nat :=
  if isDigit character then some (character.toNat - 48)
  else if 'a' ≤ character && character ≤ 'f' then some (character.toNat - 87)
  else if 'A' ≤ character && character ≤ 'F' then some (character.toNat - 55)
  else none

/-- The value of four hexadecimal digits. -/
def hexWord? (first second third fourth : Char) : Option Nat := do
  let first ← hexValue? first
  let second ← hexValue? second
  let third ← hexValue? third
  let fourth ← hexValue? fourth
  return ((first * 16 + second) * 16 + third) * 16 + fourth

/-- The character of a one-letter escape. -/
def shortEscape? (letter : Char) : Option Char :=
  if letter = '"' || letter = '\\' || letter = '/' then some letter
  else if letter = 'b' then some '\x08'
  else if letter = 'f' then some '\x0c'
  else if letter = 'n' then some '\n'
  else if letter = 'r' then some '\r'
  else if letter = 't' then some '\t'
  else none

/-- The characters of a string up to its closing mark, and the text behind that. Characters above
the first plane are escaped as a pair of words. -/
def stringRest? : List Char → Option (List Char × List Char)
  | [] => none
  | '"' :: rest => some ([], rest)
  | '\\' :: 'u' :: a :: b :: c :: d :: '\\' :: 'u' :: e :: f :: g :: h :: rest => do
    let high ← hexWord? a b c d
    if 0xD800 ≤ high && high < 0xDC00 then
      let low ← hexWord? e f g h
      if 0xDC00 ≤ low && low < 0xE000 then
        let (characters, rest) ← stringRest? rest
        return (Char.ofNat (0x10000 + (high - 0xD800) * 0x400 + (low - 0xDC00)) :: characters, rest)
      else none
    else if 0xDC00 ≤ high && high < 0xE000 then none
    else
      let (characters, rest) ← stringRest? ('\\' :: 'u' :: e :: f :: g :: h :: rest)
      return (Char.ofNat high :: characters, rest)
  | '\\' :: 'u' :: a :: b :: c :: d :: rest => do
    let code ← hexWord? a b c d
    if 0xD800 ≤ code && code < 0xE000 then none
    else
      let (characters, rest) ← stringRest? rest
      return (Char.ofNat code :: characters, rest)
  | '\\' :: letter :: rest => do
    let character ← shortEscape? letter
    let (characters, rest) ← stringRest? rest
    return (character :: characters, rest)
  | character :: rest =>
    if character.toNat < 32 then none
    else do
      let (characters, rest) ← stringRest? rest
      return (character :: characters, rest)

/-! ### Numbers -/

/-- The greatest unsigned word. -/
def greatestWord : Nat := UInt64.size - 1

/-- The word made of the leading digits that fit into one, read on from `word`, and the number of
digits left over. -/
def leadingWord (word : Nat) : List Char → Nat × Nat
  | [] => (word, 0)
  | character :: rest =>
    let longer := 10 * word + digitValue character
    if longer ≤ greatestWord then leadingWord longer rest else (word, rest.length + 1)

/-- A number divided by ten to the `308` as often as its exponent needs, with the exponent left. A
word is divided away in two steps. -/
def lowered (number : Finite64) (exponent : Int) : Nat → Option (Finite64 × Int)
  | 0 => some (number, exponent)
  | steps + 1 =>
    if exponent < -308 && number.units != 0 then
      match Binary64.ofDecimal false 1 308 with
      | .finite power =>
        match Binary64.quotient number power with
        | .finite smaller => lowered smaller (exponent + 308) steps
        | _ => none
      | _ => none
    else some (number, exponent)

/-- A word times a power of ten: the word is rounded to a floating-point number, then multiplied
or divided by the rounded power. No number beyond the range. -/
def scaled? (word : Nat) (exponent : Int) : Option Finite64 :=
  match Binary64.ofInt word with
  | .finite number =>
    match lowered number exponent 3 with
    | some (number, exponent) =>
      if number.units = 0 then some number
      else
        match Binary64.ofDecimal false 1 (Int.ofNat exponent.natAbs) with
        | .finite power =>
          match if exponent < 0 then Binary64.quotient number power
            else Binary64.product number power with
          | .finite result => some result
          | _ => none
        | _ => none
    | none => none
  | _ => none

/-- The exponent behind the digits of a number, and the text behind it. -/
def exponent? : List Char → Option (Option Int × List Char)
  | [] => some (none, [])
  | mark :: text =>
    if mark = 'e' || mark = 'E' then
      let (negative, text) := match text with
        | '-' :: rest => (true, rest)
        | '+' :: rest => (false, rest)
        | _ => (false, text)
      let digits := text.takeWhile isDigit
      if digits.isEmpty then none
      else
        let value := Int.ofNat (valueOf digits)
        some (some (if negative then -value else value), text.dropWhile isDigit)
    else some (none, mark :: text)

/-- The floating-point number with the given digits before and behind the point. -/
def float? (negative : Bool) (whole fraction : List Char) (exponent : Int) : Option Json :=
  let (word, dropped) := leadingWord 0 whole
  let (word, unread) := leadingWord word fraction
  let places := Int.ofNat dropped - Int.ofNat (fraction.length - unread)
  (scaled? word (places + exponent)).map fun number => .float { number with negative }

/-- The number that digits without a point and an exponent write. -/
def integer? (negative : Bool) (digits : List Char) : Option Json :=
  let value := Int.ofNat (valueOf digits)
  match if negative then (if value = 0 then none else JsonInteger.ofInt? (-value))
    else JsonInteger.ofInt? value with
  | some whole => some (.integer whole)
  | none => float? negative digits [] 0

/-- A number without its sign, and the text behind it. -/
def magnitude? (negative : Bool) (text : List Char) : Option (Json × List Char) :=
  let whole := text.takeWhile isDigit
  let rest := text.dropWhile isDigit
  if whole.isEmpty || (whole.head? == some '0' && whole.length != 1) then none
  else
    match rest with
    | '.' :: rest => do
      let fraction := rest.takeWhile isDigit
      if fraction.isEmpty then none
      else
        let (exponent, rest) ← exponent? (rest.dropWhile isDigit)
        let number ← float? negative whole fraction (exponent.getD 0)
        return (number, rest)
    | _ => do
      let (exponent, rest) ← exponent? rest
      let number ← match exponent with
        | some exponent => float? negative whole [] exponent
        | none => integer? negative whole
      return (number, rest)

/-! ### Documents -/

/-- A word of the notation at the start of a text, and the text behind it. -/
def literal? (word : String) (document : Json) (text : List Char) : Option (Json × List Char) :=
  let letters := word.toList
  if text.take letters.length = letters then some (document, text.drop letters.length) else none

mutual

/-- A document behind spaces, and the text behind it. Each level of nesting and each item spends
one of `fuel`. -/
def value? (fuel : Nat) (text : List Char) : Option (Json × List Char) :=
  match fuel with
  | 0 => none
  | fuel + 1 =>
    match skipSpace text with
    | [] => none
    | '"' :: rest => (stringRest? rest).map fun (characters, rest) =>
        (.string (String.ofList characters), rest)
    | '[' :: rest =>
      match skipSpace rest with
      | ']' :: rest => some (.array [], rest)
      | rest => (items? fuel rest).map fun (items, rest) => (.array items, rest)
    | '{' :: rest =>
      match skipSpace rest with
      | '}' :: rest => some (.object [], rest)
      | rest => (members? fuel [] rest).map fun (members, rest) => (.object members, rest)
    | '-' :: rest => magnitude? true rest
    | 'n' :: rest => literal? "null" .null ('n' :: rest)
    | 't' :: rest => literal? "true" (.bool true) ('t' :: rest)
    | 'f' :: rest => literal? "false" (.bool false) ('f' :: rest)
    | text => magnitude? false text

/-- The items of an array up to its closing bracket, and the text behind that. -/
def items? (fuel : Nat) (text : List Char) : Option (List Json × List Char) :=
  match fuel with
  | 0 => none
  | fuel + 1 => do
    let (item, rest) ← value? fuel text
    match skipSpace rest with
    | ',' :: rest =>
      let (items, rest) ← items? fuel rest
      return (item :: items, rest)
    | ']' :: rest => return ([item], rest)
    | _ => none

/-- The members of an object up to its closing brace, put in behind those read already, and the
text behind that. -/
def members? (fuel : Nat) (members : List (String × Json)) (text : List Char) :
    Option (List (String × Json) × List Char) :=
  match fuel with
  | 0 => none
  | fuel + 1 =>
    match skipSpace text with
    | '"' :: rest => do
      let (name, rest) ← stringRest? rest
      match skipSpace rest with
      | ':' :: rest =>
        let (value, rest) ← value? fuel rest
        let members := Fields.put (String.ofList name) value members
        match skipSpace rest with
        | ',' :: rest => members? fuel members rest
        | '}' :: rest => return (members, rest)
        | _ => none
      | _ => none
    | _ => none

end

/-- The document that a text writes, spaces around it allowed. -/
def read? (text : List Char) : Option Json :=
  match value? (2 * text.length + 2) text with
  | some (document, rest) => if (skipSpace rest).isEmpty then some document else none
  | none => none

end DynamicSql.Json
