/-
This file holds property paths such as `user.address.city` or `items[0].id`: a name, then any
number of steps, each a name behind a point or a position in brackets. `Path.read?` reads a path
with blanks around it and around the positions, `Path.text` writes one.
-/

import DynamicSql.Number.Decimal
import DynamicSql.Text.Alphanumeric
import DynamicSql.Text.Blank
import DynamicSql.Text.Split

namespace DynamicSql

/-- One step of a path: a name, or a position in a list. -/
inductive Segment where
  | field (name : String)
  | index (position : Nat)
  deriving DecidableEq

/-- A path: the segments to follow from a value. -/
structure Path where
  segments : List Segment
  deriving DecidableEq

/-- Positions are words of 64 bits. -/
def positionLimit : Nat := UInt64.size

namespace Path

/-! ### Parts -/

/-- The name that a path begins with; a path that begins with a position has the empty name. -/
def root (path : Path) : String :=
  match path.segments with
  | .field name :: _ => name
  | _ => ""

/-- The path without its first segment. -/
def tail (path : Path) : Path :=
  ⟨path.segments.tail⟩

/-- The path with its first segment replaced by a name. -/
def withRoot (name : String) (path : Path) : Path :=
  ⟨.field name :: path.segments.tail⟩

/-! ### Writing -/

/-- A segment behind others. -/
def stepText : Segment → List Char
  | .field name => '.' :: name.toList
  | .index position => '[' :: Number.decimal position ++ [']']

/-- A segment at the start of a path. -/
def headText : Segment → List Char
  | .field name => name.toList
  | .index position => stepText (.index position)

/-- The text of a path. -/
def text (path : Path) : List Char :=
  match path.segments with
  | [] => []
  | first :: rest => headText first ++ rest.flatMap stepText

/-- The text of a path as a string. -/
def render (path : Path) : String :=
  String.ofList path.text

/-! ### Reading -/

/-- The steps of a path behind its first name, up to the end of the text. -/
def steps? (text : List Char) : Option (List Segment) :=
  match text with
  | [] => some []
  | '.' :: rest =>
    let name := rest.takeWhile Text.isNameCharacter
    if name.isEmpty then none
    else
      (steps? (rest.dropWhile Text.isNameCharacter)).map (.field (String.ofList name) :: ·)
  | '[' :: rest =>
    match cut : Text.cutFirst? ']' rest with
    | none => none
    | some (inside, after) =>
      have := Text.cutFirst?_length cut
      match Number.readUnsigned? positionLimit (Text.trim inside) with
      | none => none
      | some position => (steps? after).map (.index position :: ·)
  | _ => none
termination_by text.length
decreasing_by
  · have shorter := (List.dropWhile_sublist Text.isNameCharacter (l := rest)).length_le
    simp
    omega
  · exact Nat.lt_succ_of_lt this

/-- The path that a text writes. -/
def read? (text : List Char) : Option Path :=
  let text := Text.trim text
  let name := text.takeWhile Text.isNameCharacter
  if name.isEmpty then none
  else
    (steps? (text.dropWhile Text.isNameCharacter)).map fun steps =>
      ⟨.field (String.ofList name) :: steps⟩

/-- A path of one name. -/
def ofName (name : String) : Path :=
  ⟨[.field name]⟩

end Path

end DynamicSql
