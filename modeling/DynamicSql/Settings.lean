/-
This file holds the settings of a registry: the positional markers of the database, what loops do
with empty collections, whether blanks in statements are collapsed, and whether columns get names
in camel case. Settings can be read from a JSON document.
-/

import DynamicSql.Json.Extraction
import DynamicSql.Number.Decimal
import DynamicSql.Template.Rendering

namespace DynamicSql

open Template (EmptyCollection)

/-! ### Dialects -/

/-- A dialect of SQL, as far as it concerns the markers of arguments. -/
inductive Dialect where
  | mysql
  | postgresql
  | sqlite
  deriving DecidableEq

namespace Dialect

/-- The name of a dialect in settings. -/
def name : Dialect → String
  | .mysql => "mysql"
  | .postgresql => "postgresql"
  | .sqlite => "sqlite"

/-- The dialect of a name. -/
def ofName? (name : String) : Option Dialect :=
  [mysql, postgresql, sqlite].find? fun dialect => dialect.name == name

/-- The marker of the argument at a position, counted from one. -/
def marker : Dialect → Nat → List Char
  | .mysql, _ => ['?']
  | .postgresql, position => '$' :: Number.decimal position
  | .sqlite, position => '?' :: Number.decimal position

end Dialect

/-! ### Settings -/

/-- The settings of a registry. -/
structure Settings where
  dialect : Dialect
  emptyCollection : EmptyCollection
  shrinkBlanks : Bool
  camelCase : Bool
  deriving DecidableEq

namespace Settings

/-- The settings where nothing else is said. -/
def standard : Settings := ⟨.mysql, .error, false, false⟩

/-- The name of a policy for empty collections in settings. -/
def policyName : EmptyCollection → String
  | .error => "error"
  | .render => "render"

/-- The policy of a name. -/
def policyOfName? (name : String) : Option EmptyCollection :=
  [EmptyCollection.error, .render].find? fun policy => policyName policy == name

/-! ### Reading -/

/-- The name that a choice between names is written as: a string, or an object whose only member
has that name and is null. -/
def choiceName? : Json → Option String
  | .string name => some name
  | .object [(name, .null)] => some name
  | _ => none

/-- How many settings there are. -/
def settingCount : Nat := 4

/-- A document that can hold settings: an object, or an array of no more items than settings. -/
def holdsSettings : Json → Bool
  | .object _ => true
  | .array items => items.length ≤ settingCount
  | _ => false

/-- The document for a setting: a member of an object, or an item of an array. -/
def settingIn (document : Json) (name : String) (position : Nat) : Option Json :=
  match document with
  | .object members => Fields.get? name members
  | .array items => items[position]?
  | _ => none

/-- The setting that a document gives, or the standard one where there is no document. -/
def readSetting {Setting : Type} (read : Json → Option Setting) (standard : Setting) :
    Option Json → Option Setting
  | none => some standard
  | some document => read document

/-- The settings that a document gives. -/
def ofJson? (document : Json) : Option Settings :=
  if holdsSettings document then do
    let dialect ← readSetting (fun choice => (choiceName? choice).bind Dialect.ofName?)
      standard.dialect (settingIn document "flavor" 0)
    let emptyCollection ← readSetting (fun choice => (choiceName? choice).bind policyOfName?)
      standard.emptyCollection (settingIn document "empty_collection" 1)
    let shrinkBlanks ← readSetting Json.toBool? standard.shrinkBlanks
      (settingIn document "shrink_whitespace" 2)
    let camelCase ← readSetting Json.toBool? standard.camelCase
      (settingIn document "map_underscore_to_camel_case" 3)
    return ⟨dialect, emptyCollection, shrinkBlanks, camelCase⟩
  else none

end Settings

end DynamicSql
