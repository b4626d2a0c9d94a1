/-
This file holds the tokens of expressions and cuts a text into them. Keywords stand for signs, a
word followed by an empty pair of parentheses is a call on the path before its last point, and a
minus belongs to a number where an operand can begin. A text with anything else in it has no
tokens.
-/

import DynamicSql.Expr.Basic

namespace DynamicSql

open Number (Binary64 isDigit)

/-- A token of an expression. -/
inductive Token where
  | and
  | or
  | not
  | plus
  | open
  | close
  | compare (comparison : Comparison)
  | null
  | bool (value : Bool)
  | integer (value : Int64)
  | float (value : Binary64)
  | string (text : String)
  | path (path : Path)
  | call (method : String)
  deriving DecidableEq

namespace Token

/-! ### Words -/

/-- The tokens that are written as words. -/
def ofKeyword? (word : String) : Option Token :=
  if word = "and" then some .and
  else if word = "or" then some .or
  else if word = "not" then some .not
  else if word = "null" then some .null
  else if word = "true" then some (.bool true)
  else if word = "false" then some (.bool false)
  else if word = "eq" then some (.compare .equal)
  else if word = "neq" || word = "ne" then some (.compare .notEqual)
  else if word = "lt" then some (.compare .less)
  else if word = "lte" || word = "le" then some (.compare .lessOrEqual)
  else if word = "gt" then some (.compare .greater)
  else if word = "gte" || word = "ge" then some (.compare .greaterOrEqual)
  else none

/-- A character of a word: those of names, points and brackets. -/
def isWordPart (character : Char) : Bool :=
  Text.isNameCharacter character || character == '.' || character == '[' || character == ']'

/-- The text behind an empty pair of parentheses, blanks allowed before and in it. -/
def behindCall? (text : List Char) : Option (Option (List Char)) :=
  match Text.trimStart text with
  | '(' :: inside =>
    match Text.trimStart inside with
    | ')' :: rest => some (some rest)
    | _ => none
  | _ => some none

/-- The tokens of a word that is no keyword, and the text behind them: a path, or behind a path
the call that its last name is. -/
def ofWord? (word rest : List Char) : Option (List Token × List Char) :=
  match behindCall? rest with
  | none => none
  | some none => (Path.read? word).map fun path => ([.path path], rest)
  | some (some rest) =>
    match Text.cutLast? '.' word with
    | none => none
    | some (target, method) =>
      (Path.read? target).map fun path => ([.path path, .call (String.ofList method)], rest)

/-! ### Literals -/

/-- The characters of a string up to its closing mark, and the text behind that. A backslash takes
the next character as it is, but for the letters of line feed and tabulator. -/
def stringRest? (mark : Char) : List Char → Option (List Char × List Char)
  | [] => none
  | ['\\'] => none
  | '\\' :: escaped :: rest =>
    let character := if escaped = 'n' then '\n' else if escaped = 't' then '\t' else escaped
    (stringRest? mark rest).map fun (characters, rest) => (character :: characters, rest)
  | character :: rest =>
    if character = mark then some ([], rest)
    else (stringRest? mark rest).map fun (characters, rest) => (character :: characters, rest)

/-- The number at the start of a text, and the text behind it: an integer of 64 bits, or a
floating-point number if a point with a digit behind it follows the digits. -/
def number? (negative : Bool) (text : List Char) : Option (Token × List Char) :=
  let whole := text.takeWhile isDigit
  let rest := text.dropWhile isDigit
  let fraction := match rest with
    | '.' :: digits => digits.takeWhile isDigit
    | _ => []
  if fraction.isEmpty then
    (Number.readSigned? Value.leastInt64 Value.greatestInt64 whole).map fun value =>
      (.integer (Int64.ofInt (if negative then -value else value)), rest)
  else
    (Binary64.read? (whole ++ '.' :: fraction)).map fun value =>
      (.float (if negative then value.negate else value), rest.drop (fraction.length + 1))

/-- The tokens behind which an operand has ended. -/
def endsOperand : Token → Bool
  | .path _ => true
  | .integer _ => true
  | .float _ => true
  | .string _ => true
  | .null => true
  | .bool _ => true
  | .close => true
  | .call _ => true
  | _ => false

/-! ### Cutting -/

/-- A sign at the start of a text, and the text behind it. -/
def sign? : List Char → Option (Token × List Char)
  | '&' :: '&' :: rest => some (.and, rest)
  | '|' :: '|' :: rest => some (.or, rest)
  | '=' :: '=' :: rest => some (.compare .equal, rest)
  | '!' :: '=' :: rest => some (.compare .notEqual, rest)
  | '<' :: '=' :: rest => some (.compare .lessOrEqual, rest)
  | '>' :: '=' :: rest => some (.compare .greaterOrEqual, rest)
  | '(' :: rest => some (.open, rest)
  | ')' :: rest => some (.close, rest)
  | '+' :: rest => some (.plus, rest)
  | '!' :: rest => some (.not, rest)
  | '<' :: rest => some (.compare .less, rest)
  | '>' :: rest => some (.compare .greater, rest)
  | _ => none

/-- The tokens at the start of a text that does not begin with a blank, and the text behind them.
`afterOperand` says that an operand has just ended. -/
def next? (afterOperand : Bool) (text : List Char) : Option (List Token × List Char) :=
  match sign? text with
  | some (token, rest) => some ([token], rest)
  | none =>
    match text with
    | [] => none
    | character :: rest =>
      if character = '\'' || character = '"' then
        (stringRest? character rest).map fun (characters, rest) =>
          ([.string (String.ofList characters)], rest)
      else if character = '-' then
        if !afterOperand && (rest.head?.map isDigit).getD false then
          (number? true rest).map fun (token, rest) => ([token], rest)
        else none
      else if isDigit character then
        (number? false text).map fun (token, rest) => ([token], rest)
      else if Text.isNameCharacter character then
        let word := text.takeWhile isWordPart
        let rest := text.dropWhile isWordPart
        match ofKeyword? (String.ofList word) with
        | some token => some ([token], rest)
        | none => ofWord? word rest
      else none

/-- The tokens of a text, each spending at least one of `fuel`. -/
def listFrom? (fuel : Nat) (afterOperand : Bool) (text : List Char) : Option (List Token) :=
  match fuel with
  | 0 => none
  | fuel + 1 =>
    match Text.trimStart text with
    | [] => some []
    | text => do
      let (tokens, rest) ← next? afterOperand text
      let later ← listFrom? fuel ((tokens.getLast?.map endsOperand).getD afterOperand) rest
      return tokens ++ later

/-- The tokens of a text, if all of it is made of tokens. -/
def list? (text : List Char) : Option (List Token) :=
  listFrom? (text.length + 1) false text

end Token

end DynamicSql
