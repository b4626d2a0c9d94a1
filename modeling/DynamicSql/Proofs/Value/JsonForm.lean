/-
This file proves that values survive being turned into JSON documents up to their JSON form. In this
form integers are wide, dates and times are texts, a floating-point number without a finite value is
null and records are maps, at any depth. A value that is turned into a document and back comes back
in its JSON form (`ofJson_toJson`), and its document stays the same (`toJson_jsonForm`). Values
in JSON form are exactly those that documents become, and exactly those that come back unchanged, so
that a second conversion changes nothing.

A JSON integer that needs the 64th bit becomes a floating-point number. It stays one, since the
number nearest to it is finite.
-/

import DynamicSql.Proofs.Number.Rounding
import DynamicSql.Value.Conversion

namespace DynamicSql.Value

open Number (Binary64)

/-! ### The JSON form -/

/-- A floating-point number as a document keeps it. -/
def floatForm : Binary64 → Value
  | .finite number => .float (.finite number)
  | .infinite _ => .null
  | .nan => .null

mutual

/-- A value as a document keeps it. -/
def jsonForm : Value → Value
  | .null => .null
  | .bool value => .bool value
  | .int32 value => .int64 value.toInt64
  | .int64 value => .int64 value
  | .float number => floatForm number
  | .string text => .string text
  | .date day => .string (String.ofList day.text)
  | .dateTime moment => .string (String.ofList (moment.text 'T'))
  | .list items => .list (formOfItems items)
  | .map entries => .map (formOfEntries entries)
  | .record _ fields => .map (formOfEntries fields)

/-- The items of a list as a document keeps them. -/
def formOfItems : List Value → List Value
  | [] => []
  | item :: rest => jsonForm item :: formOfItems rest

/-- The entries of a map or record as a document keeps them, under the same names. -/
def formOfEntries : Fields Value → Fields Value
  | [] => []
  | (name, value) :: rest => (name, jsonForm value) :: formOfEntries rest

end

mutual

/-- A value in JSON form: no narrow integers, dates, times and records, and no floating-point number
that is not finite, at any depth. -/
def isJsonForm : Value → Bool
  | .null => true
  | .bool _ => true
  | .int32 _ => false
  | .int64 _ => true
  | .float (.finite _) => true
  | .float (.infinite _) => false
  | .float .nan => false
  | .string _ => true
  | .date _ => false
  | .dateTime _ => false
  | .list items => areJsonForms items
  | .map entries => holdJsonForms entries
  | .record _ _ => false

/-- Items in JSON form. -/
def areJsonForms : List Value → Bool
  | [] => true
  | item :: rest => isJsonForm item && areJsonForms rest

/-- Entries whose values are in JSON form. -/
def holdJsonForms : Fields Value → Bool
  | [] => true
  | (_, value) :: rest => isJsonForm value && holdJsonForms rest

end

@[simp]
theorem names_formOfEntries (entries : Fields Value) :
    Fields.names (formOfEntries entries) = Fields.names entries := by
  induction entries with
  | nil => rfl
  | cons entry rest inductionHypothesis =>
    unfold Fields.names at inductionHypothesis ⊢
    rw [formOfEntries, List.map_cons, inductionHypothesis, List.map_cons]

/-! ### There and back -/

/-- A signed word is read back from its JSON integer. -/
@[simp]
theorem ofJsonInteger_ofInt64 (value : Int64) :
    ofJsonInteger (.ofInt64 value) = .int64 value := by
  have fits : (JsonInteger.ofInt64 value).value ≤ Int64.maxValue.toInt := Int64.toInt_le value
  rw [ofJsonInteger, if_pos fits, JsonInteger.ofInt64, Int64.ofInt_toInt]

@[simp]
theorem ofJson_floatToJson (number : Binary64) :
    ofJson (floatToJson number) = floatForm number := by
  cases number <;> rfl

mutual

/-- A value comes back from its document in its JSON form. -/
@[simp]
theorem ofJson_toJson (value : Value) : ofJson value.toJson = value.jsonForm := by
  cases value with
  | null | bool | string | date | dateTime => rfl
  | int32 value => exact ofJsonInteger_ofInt64 value.toInt64
  | int64 value => exact ofJsonInteger_ofInt64 value
  | float number => exact ofJson_floatToJson number
  | list items => rw [toJson, ofJson, jsonForm, itemsOfJson_itemsToJson]
  | map entries => rw [toJson, ofJson, jsonForm, entriesOfJson_entriesToJson]
  | record typeName fields => rw [toJson, ofJson, jsonForm, entriesOfJson_entriesToJson]

@[simp]
theorem itemsOfJson_itemsToJson (items : List Value) :
    itemsOfJson (itemsToJson items) = formOfItems items := by
  cases items with
  | nil => rfl
  | cons item rest =>
    rw [itemsToJson, itemsOfJson, formOfItems, ofJson_toJson, itemsOfJson_itemsToJson]

@[simp]
theorem entriesOfJson_entriesToJson (entries : Fields Value) :
    entriesOfJson (entriesToJson entries) = formOfEntries entries := by
  cases entries with
  | nil => rfl
  | cons entry rest =>
    rw [entriesToJson, entriesOfJson, formOfEntries, ofJson_toJson, entriesOfJson_entriesToJson]

end

@[simp]
theorem toJson_floatForm (number : Binary64) : (floatForm number).toJson = floatToJson number := by
  cases number <;> rfl

mutual

/-- The JSON form of a value has the document of the value. -/
@[simp]
theorem toJson_jsonForm (value : Value) : value.jsonForm.toJson = value.toJson := by
  cases value with
  | null | bool | int32 | int64 | string | date | dateTime => rfl
  | float number => exact toJson_floatForm number
  | list items => rw [jsonForm, toJson, toJson, itemsToJson_formOfItems]
  | map entries => rw [jsonForm, toJson, toJson, entriesToJson_formOfEntries]
  | record typeName fields => rw [jsonForm, toJson, toJson, entriesToJson_formOfEntries]

@[simp]
theorem itemsToJson_formOfItems (items : List Value) :
    itemsToJson (formOfItems items) = itemsToJson items := by
  cases items with
  | nil => rfl
  | cons item rest =>
    rw [formOfItems, itemsToJson, itemsToJson, toJson_jsonForm, itemsToJson_formOfItems]

@[simp]
theorem entriesToJson_formOfEntries (entries : Fields Value) :
    entriesToJson (formOfEntries entries) = entriesToJson entries := by
  cases entries with
  | nil => rfl
  | cons entry rest =>
    rw [formOfEntries, entriesToJson, entriesToJson, toJson_jsonForm, entriesToJson_formOfEntries]

end

/-! ### Values in JSON form -/

mutual

/-- A value in JSON form is its own. -/
theorem jsonForm_of_isJsonForm {value : Value} (isForm : value.isJsonForm = true) :
    value.jsonForm = value := by
  cases value with
  | null | bool | int64 | string => rfl
  | int32 | date | dateTime | record => cases isForm
  | float number =>
    cases number with
    | finite number => rfl
    | infinite | nan => cases isForm
  | list items => rw [jsonForm, formOfItems_of_areJsonForms isForm]
  | map entries => rw [jsonForm, formOfEntries_of_holdJsonForms isForm]

theorem formOfItems_of_areJsonForms {items : List Value} (areForms : areJsonForms items = true) :
    formOfItems items = items := by
  cases items with
  | nil => rfl
  | cons item rest =>
    obtain ⟨isForm, others⟩ := Bool.and_eq_true_iff.1 areForms
    rw [formOfItems, jsonForm_of_isJsonForm isForm, formOfItems_of_areJsonForms others]

theorem formOfEntries_of_holdJsonForms {entries : Fields Value}
    (holdForms : holdJsonForms entries = true) : formOfEntries entries = entries := by
  cases entries with
  | nil => rfl
  | cons entry rest =>
    obtain ⟨isForm, others⟩ := Bool.and_eq_true_iff.1 holdForms
    rw [formOfEntries, jsonForm_of_isJsonForm isForm, formOfEntries_of_holdJsonForms others]

end

@[simp]
theorem isJsonForm_ofJsonInteger (integer : JsonInteger) :
    (ofJsonInteger integer).isJsonForm = true := by
  unfold ofJsonInteger
  split
  · rfl
  · next beyond =>
    have small : integer.value.natAbs < UInt64.size := by
      have greatest := integer.greatest
      have positive : 0 ≤ Int64.maxValue.toInt := by decide
      have size : Int.ofNat UInt64.size = (UInt64.size : Int) := rfl
      omega
    obtain ⟨number, finite⟩ := Binary64.exists_ofInt_eq_finite small
    rw [finite]
    rfl

mutual

/-- What a document becomes is in JSON form. -/
@[simp]
theorem isJsonForm_ofJson (document : Json) : (ofJson document).isJsonForm = true := by
  cases document with
  | null | bool | float | string => rfl
  | integer integer => exact isJsonForm_ofJsonInteger integer
  | array items => exact areJsonForms_itemsOfJson items
  | object members => exact holdJsonForms_entriesOfJson members

@[simp]
theorem areJsonForms_itemsOfJson (items : List Json) : areJsonForms (itemsOfJson items) = true := by
  cases items with
  | nil => rfl
  | cons item rest =>
    exact Bool.and_eq_true_iff.2 ⟨isJsonForm_ofJson item, areJsonForms_itemsOfJson rest⟩

@[simp]
theorem holdJsonForms_entriesOfJson (members : List (String × Json)) :
    holdJsonForms (entriesOfJson members) = true := by
  cases members with
  | nil => rfl
  | cons member rest =>
    exact Bool.and_eq_true_iff.2 ⟨isJsonForm_ofJson member.2, holdJsonForms_entriesOfJson rest⟩

end

/-- A document becomes a value that comes back unchanged. -/
theorem ofJson_toJson_ofJson (document : Json) :
    ofJson (ofJson document).toJson = ofJson document := by
  rw [ofJson_toJson, jsonForm_of_isJsonForm (isJsonForm_ofJson document)]

/-- Converting to JSON and back is a retraction onto the values in JSON form: a value comes back in
its JSON form, under the same names in the same order and with the same document, and what a
document has become comes back unchanged. -/
theorem json_retraction :
    (∀ value : Value, ofJson value.toJson = value.jsonForm ∧
        (ofJson value.toJson).toJson = value.toJson) ∧
      (∀ entries : Fields Value, Fields.names (formOfEntries entries) = Fields.names entries) ∧
      (∀ document : Json, ofJson (ofJson document).toJson = ofJson document) ∧
      ∀ value : Value, (value.isJsonForm = true ↔ ofJson value.toJson = value) ∧
        (value.isJsonForm = true ↔ ∃ document, ofJson document = value) := by
  refine ⟨fun value => ⟨ofJson_toJson value, ?_⟩, names_formOfEntries, ofJson_toJson_ofJson,
    fun value => ?_⟩
  · rw [ofJson_toJson, toJson_jsonForm]
  have comesBack (isForm : value.isJsonForm = true) : ofJson value.toJson = value := by
    rw [ofJson_toJson, jsonForm_of_isJsonForm isForm]
  have isForm {document : Json} (same : ofJson document = value) : value.isJsonForm = true :=
    same ▸ isJsonForm_ofJson document
  exact ⟨⟨comesBack, isForm⟩, fun form => ⟨_, comesBack form⟩, fun ⟨_, same⟩ => isForm same⟩

end DynamicSql.Value
