/-
This file reads the attributes whose values are not taken as plain text: flags, numbers and lists.
-/

import DynamicSql.Markup.Element
import DynamicSql.Number.Decimal
import DynamicSql.Text.Split

namespace DynamicSql.Document

open Markup (Tag)

/-- What is wrong with an attribute: it is missing, or its value is no flag or no number. -/
inductive SettingFault where
  | missing (key : Markup.MissingAttribute)
  | noFlag (key value : String)
  | noNumber (key value : String)
  deriving DecidableEq

/-- The message for a fault. -/
def SettingFault.message : SettingFault → String
  | .missing key => key.message
  | .noFlag key value => "`" ++ key ++ "` must be `true` or `false`, found `" ++ value ++ "`"
  | .noNumber key value =>
    "`" ++ key ++ "` must be a non-negative integer, found `" ++ value ++ "`"

/-- The value of an attribute that must not be blank. -/
def requireSetting (tag : Tag) (key : String) : Except SettingFault String :=
  (tag.require key).mapError .missing

/-- The flag that an attribute sets, if it is there. -/
def flagSetting (tag : Tag) (key : String) : Except SettingFault (Option Bool) :=
  match tag.attribute? key with
  | none => .ok none
  | some value =>
    if Text.trimmed value = "true" then .ok (some true)
    else if Text.trimmed value = "false" then .ok (some false)
    else .error (.noFlag key value)

/-- Numbers in attributes are words of 64 bits. -/
def numberLimit : Nat := UInt64.size

/-- The number that an attribute gives, if it is there. -/
def numberSetting (tag : Tag) (key : String) : Except SettingFault (Option Nat) :=
  match tag.attribute? key with
  | none => .ok none
  | some value =>
    match Number.readUnsigned? numberLimit (Text.trim value.toList) with
    | some number => .ok (some number)
    | none => .error (.noNumber key value)

/-- The items that an attribute lists with commas between them; blank ones are no items. -/
def listSetting (tag : Tag) (key : String) : List String :=
  match tag.attribute? key with
  | none => []
  | some value =>
    ((Text.splitOn ',' value.toList).map Text.trim).filterMap fun item =>
      if item.isEmpty then none else some (String.ofList item)

end DynamicSql.Document
