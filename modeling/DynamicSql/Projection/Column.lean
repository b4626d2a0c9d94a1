/-
This file finds the columns of rows by name and makes names for properties out of them. A column is
found by its exact name or else by its name in any case of the Latin letters.
-/

import DynamicSql.Text.LetterCase
import DynamicSql.Value.Basic

namespace DynamicSql

/-- A row: the columns with their values. -/
abbrev Row := Fields Value

namespace Projection

/-! ### Finding columns -/

/-- The first column whose name differs from the wanted one at most in case. -/
def columnIgnoringCase? (row : Row) (wanted : String) : Option (String × Value) :=
  row.find? fun column => Text.sameIgnoringCase column.1.toList wanted.toList

/-- The column of a name: its name as the row has it, and its value. -/
def column? (row : Row) (wanted : String) : Option (String × Value) :=
  match Fields.get? wanted row with
  | some value => some (wanted, value)
  | none => columnIgnoringCase? row wanted

/-- What stands behind a prefix in the name of a column, in any case of the letters. Behind a prefix
there must be something. -/
def behindPrefix? (start column : String) : Option String :=
  if start.isEmpty then some column
  else
    match Text.dropPrefixIgnoringCase? start.toList column.toList with
    | none | some [] => none
    | some rest => some (String.ofList rest)

/-- Some column of the rows has a prefix. -/
def anyCarries (rows : List Row) (start : String) : Bool :=
  rows.any fun row => row.any fun column => (behindPrefix? start column.1).isSome

/-- The length of the longest name of a column. -/
def longestName (rows : List Row) : Nat :=
  (rows.flatMap fun row => row.map fun column => column.1.length).foldl max 0

/-! ### Names of properties -/

/-- The rest of a name in camel case; `started` says that something has been written, `raised` that
the next letter is a capital. -/
def camelFrom (started raised : Bool) : List Char → List Char
  | [] => []
  | character :: rest =>
    if character = '_' then camelFrom started started rest
    else
      (if raised then Text.toUpper character else Text.toLower character) ++
        camelFrom true false rest

/-- A name with its words in small letters and each but the first with a capital, instead of
underscores between them. -/
def camelCase (name : String) : String :=
  String.ofList (camelFrom false false name.toList)

/-- The property that a column without a mapping becomes. -/
def propertyName (camel : Bool) (name : String) : String :=
  if camel then camelCase name else name

end Projection

end DynamicSql
