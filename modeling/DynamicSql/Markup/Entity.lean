/-
This file decodes the references in texts and attribute values, five names and the numbers of
characters, and encodes the characters that would be read as markup. Places are counted in bytes
from the start of the text.
-/

import DynamicSql.Number.Decimal
import DynamicSql.Text.Split

namespace DynamicSql.Markup

/-- How many bytes a text takes. -/
def byteCount : List Char → Nat
  | [] => 0
  | character :: rest => character.utf8Size + byteCount rest

/-! ### References -/

/-- What is wrong with the number of a character. -/
inductive NumberFault where
  | signed
  | noDigits
  | invalidDigit
  | tooLarge
  | zero
  | notACharacter (code : Nat)
  deriving DecidableEq

/-- What is wrong with a reference. -/
inductive EntityFault where
  | unrecognized (start stop : Nat) (name : String)
  | unterminated (start stop : Nat)
  | number (fault : NumberFault)
  deriving DecidableEq

/-- The message for a fault in a number. -/
def NumberFault.message : NumberFault → String
  | .signed => "unexpected number sign"
  | .noDigits => "cannot parse integer from empty string"
  | .invalidDigit => "invalid digit found in string"
  | .tooLarge => "number too large to fit in target type"
  | .zero => "0x0 character is not permitted in XML"
  | .notACharacter code =>
    "`" ++ String.ofList (Number.decimal code) ++ "` is not a valid codepoint"

/-- A range of bytes in messages. -/
def rangeText (start stop : Nat) : String :=
  String.ofList (Number.decimal start ++ ['.', '.'] ++ Number.decimal stop)

/-- The message for a fault in a reference. -/
def EntityFault.message : EntityFault → String
  | .unrecognized start stop name =>
    "at " ++ rangeText start stop ++ ": unrecognized entity `" ++ name ++ "`"
  | .unterminated start stop =>
    "Error while escaping character at range " ++ rangeText start stop ++
      ": Cannot find ';' after '&'"
  | .number fault => "invalid character reference: " ++ fault.message

/-- The value of a digit in base ten or sixteen. -/
def digitIn? (base : Nat) (character : Char) : Option Nat :=
  let value :=
    if '0' ≤ character && character ≤ '9' then character.toNat - 48
    else if 'a' ≤ character && character ≤ 'f' then character.toNat - 87
    else if 'A' ≤ character && character ≤ 'F' then character.toNat - 55
    else base
  if value < base then some value else none

/-- The number written by digits, read on from `value`, as long as it is below `2 ^ 32`. -/
def readCode (base value : Nat) : List Char → Except NumberFault Nat
  | [] => .ok value
  | character :: rest =>
    match digitIn? base character with
    | none => .error .invalidDigit
    | some digit =>
      let longer := value * base + digit
      if longer < UInt32.size then readCode base longer rest else .error .tooLarge

/-- The number written by one or more digits without a sign. -/
def readUnsignedCode (base : Nat) : List Char → Except NumberFault Nat
  | [] => .error .noDigits
  | first :: rest =>
    if first = '+' || first = '-' then .error .signed else readCode base 0 (first :: rest)

/-- The character with a number. -/
def characterAt (code : Nat) : Except NumberFault Char :=
  if code = 0 then .error .zero
  else if code.isValidChar then .ok (Char.ofNat code)
  else .error (.notACharacter code)

/-- The character whose number is written in decimal digits, or behind an `x` in hexadecimal
ones. -/
def numberedCharacter (text : List Char) : Except NumberFault Char := do
  let code ← match text with
    | 'x' :: digits => readUnsignedCode 16 digits
    | digits => readUnsignedCode 10 digits
  characterAt code

/-- The characters that have names. -/
def namedCharacter? (name : List Char) : Option Char :=
  if name = ['l', 't'] then some '<'
  else if name = ['g', 't'] then some '>'
  else if name = ['a', 'm', 'p'] then some '&'
  else if name = ['a', 'p', 'o', 's'] then some '\''
  else if name = ['q', 'u', 'o', 't'] then some '"'
  else none

/-- The character that a reference stands for; `start` and `stop` are the places of its name. -/
def referenced (start stop : Nat) (name : List Char) : Except EntityFault Char :=
  match name with
  | '#' :: number =>
    match numberedCharacter number with
    | .ok character => .ok character
    | .error fault => .error (.number fault)
  | name =>
    match namedCharacter? name with
    | some character => .ok character
    | none => .error (.unrecognized start stop (String.ofList name))

/-! ### Decoding -/

/-- The name of a reference, up to its semicolon, and the text behind that. An ampersand ends the
search. -/
def referenceName? : List Char → Option (List Char × List Char)
  | [] => none
  | character :: rest =>
    if character = ';' then some ([], rest)
    else if character = '&' then none
    else (referenceName? rest).map fun (name, rest) => (character :: name, rest)

theorem referenceName?_length {text name rest : List Char}
    (found : referenceName? text = some (name, rest)) : rest.length < text.length := by
  induction text generalizing name with
  | nil => simp [referenceName?] at found
  | cons character later inductionHypothesis =>
    unfold referenceName? at found
    split at found
    · obtain ⟨rfl, rfl⟩ : [] = name ∧ later = rest := by simpa using found
      simp
    · split at found
      · simp at found
      · obtain ⟨⟨name', rest'⟩, found', equal⟩ := Option.map_eq_some_iff.1 found
        obtain ⟨rfl, rfl⟩ : character :: name' = name ∧ rest' = rest := by simpa using equal
        have shorter := inductionHypothesis found'
        simp
        omega

/-- The decoded text, of which the part from `place` on is given; `total` is the size of all of
it. -/
def decodeFrom (total place : Nat) (text : List Char) : Except EntityFault (List Char) :=
  match text with
  | [] => .ok []
  | '&' :: rest =>
    match found : referenceName? rest with
    | none => .error (.unterminated place total)
    | some (name, after) =>
      have := referenceName?_length found
      let stop := place + 1 + byteCount name
      match referenced (place + 1) stop name with
      | .error fault => .error fault
      | .ok character =>
        match decodeFrom total (stop + 1) after with
        | .error fault => .error fault
        | .ok decoded => .ok (character :: decoded)
  | character :: rest =>
    match decodeFrom total (place + character.utf8Size) rest with
    | .error fault => .error fault
    | .ok decoded => .ok (character :: decoded)
termination_by text.length
decreasing_by
  · exact Nat.lt_succ_of_lt this
  · simp

/-- The text with every reference replaced by its character. -/
def decode (text : List Char) : Except EntityFault (List Char) :=
  decodeFrom (byteCount text) 0 text

/-! ### Encoding -/

/-- A character within text. -/
def encodeInText (character : Char) : List Char :=
  if character = '<' then "&lt;".toList
  else if character = '>' then "&gt;".toList
  else if character = '&' then "&amp;".toList
  else [character]

/-- A character within an attribute value. -/
def encodeInValue (character : Char) : List Char :=
  if character = '\'' then "&apos;".toList
  else if character = '"' then "&quot;".toList
  else encodeInText character

end DynamicSql.Markup
