/-
This file reads the inside of an opening tag: its name and its attributes. An attribute is a key,
an equals sign and a value in quotation marks of either kind; a key may not come twice. Places are
counted in bytes from the first character of the tag's name.
-/

import DynamicSql.Markup.Element
import DynamicSql.Markup.Entity

namespace DynamicSql.Markup

/-- The blanks of markup. -/
def isSpace (character : Char) : Bool :=
  character == ' ' || character == '\t' || character == '\r' || character == '\n'

/-! ### Faults -/

/-- What is wrong with the form of an attribute, and where. -/
inductive AttributeFault where
  | noEquals (place : Nat)
  | noValue (place : Nat)
  | unquoted (place : Nat)
  | unclosed (place : Nat) (mark : Char)
  | duplicate (place previous : Nat)
  deriving DecidableEq

/-- A place in messages. -/
def placeText (place : Nat) : String :=
  "position " ++ String.ofList (Number.decimal place)

/-- The message for a fault. -/
def AttributeFault.message : AttributeFault → String
  | .noEquals place =>
    placeText place ++ ": attribute key must be directly followed by `=` or space"
  | .noValue place => placeText place ++ ": `=` must be followed by an attribute value"
  | .unquoted place => placeText place ++ ": attribute value must be enclosed in `\"` or `'`"
  | .unclosed place mark =>
    placeText place ++ ": missing closing quote `" ++ String.ofList [mark] ++
      "` in attribute value"
  | .duplicate place previous =>
    placeText place ++ ": duplicated attribute, previous declaration at " ++ placeText previous

/-- What is wrong with an opening tag: the form of an attribute, or a reference in its value. -/
inductive TagFault where
  | form (tagName : String) (fault : AttributeFault)
  | value (tagName key : String) (fault : EntityFault)
  deriving DecidableEq

/-- The message for a fault. -/
def TagFault.message : TagFault → String
  | .form tagName fault =>
    "invalid attribute in `<" ++ tagName ++ ">`: " ++ fault.message
  | .value tagName key fault =>
    "invalid attribute `" ++ key ++ "` in `<" ++ tagName ++ ">`: " ++ fault.message

/-! ### Reading -/

/-- A character of a key behind its first. -/
def isKeyPart (character : Char) : Bool :=
  character != '=' && !isSpace character

/-- The text behind the equals sign that a key is followed by. `total` is the size of the inside
of the tag. -/
def behindEquals (total : Nat) (text : List Char) : Except AttributeFault (List Char) :=
  match text.dropWhile isSpace with
  | [] => .error (.noEquals total)
  | '=' :: rest => .ok rest
  | rest => .error (.noEquals (total - byteCount rest))

/-- A value in quotation marks and the text behind it. -/
def quotedValue (total : Nat) (text : List Char) :
    Except AttributeFault (List Char × List Char) :=
  match text.dropWhile isSpace with
  | [] => .error (.noValue total)
  | mark :: rest =>
    if mark = '"' || mark = '\'' then
      match Text.cutFirst? mark rest with
      | some parts => .ok parts
      | none => .error (.unclosed total mark)
    else .error (.unquoted (total - byteCount (mark :: rest)))

/-- The attributes of a tag from a place on, their values still encoded. `seen` holds the places
of the keys read so far. Each attribute spends one of `fuel`. The fault, if there is one, comes
behind the attributes before it. -/
def rawAttributes (fuel total : Nat) (seen : List (List Char × Nat)) (text : List Char) :
    List (List Char × List Char) × Option AttributeFault :=
  match fuel with
  | 0 => ([], none)
  | fuel + 1 =>
    match text.dropWhile isSpace with
    | [] => ([], none)
    | first :: rest =>
      let place := total - byteCount (first :: rest)
      let key := first :: rest.takeWhile isKeyPart
      match behindEquals total (rest.dropWhile isKeyPart) with
      | .error fault => ([], some fault)
      | .ok afterEquals =>
        match seen.lookup key with
        | some previous => ([], some (.duplicate place previous))
        | none =>
          match quotedValue total afterEquals with
          | .error fault => ([], some fault)
          | .ok (value, after) =>
            let (attributes, fault) := rawAttributes fuel total ((key, place) :: seen) after
            ((key, value) :: attributes, fault)

/-- Attributes with their values decoded. -/
def decodeAttributes (tagName : String) :
    List (List Char × List Char) → Except TagFault (List (String × String))
  | [] => .ok []
  | (key, value) :: rest =>
    match decode value with
    | .error fault => .error (.value tagName (String.ofList key) fault)
    | .ok decoded =>
      match decodeAttributes tagName rest with
      | .error fault => .error fault
      | .ok attributes => .ok ((String.ofList key, String.ofList decoded) :: attributes)

/-- The tag that the inside of an opening tag writes. -/
def Tag.read (inside : List Char) : Except TagFault Tag :=
  let name := String.ofList (inside.takeWhile fun character => !isSpace character)
  let rest := inside.dropWhile fun character => !isSpace character
  let (raw, fault) := rawAttributes (inside.length + 1) (byteCount inside) [] rest
  match decodeAttributes name raw, fault with
  | .error fault, _ => .error fault
  | .ok _, some fault => .error (.form name fault)
  | .ok attributes, none => .ok ⟨name, attributes⟩

end DynamicSql.Markup
