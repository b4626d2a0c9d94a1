/-
This file proves what a text keeps when the case of its Latin letters is changed: its length, what
is no letter, and whether it begins or ends within a word. A text without its beginning is what the
text is put together from with something spelled alike (`dropPrefixIgnoringCase?_eq_some_iff`), and
so is a text without its ending.
-/

import DynamicSql.Text.Alphanumeric
import DynamicSql.Text.LetterCase

namespace DynamicSql.Text

/-! ### Characters -/

/-- Only the code of a capital letter changes. -/
theorem lowerAscii_cases (character : Char) :
    lowerAscii character = character ∨
      (65 ≤ character.toNat ∧ character.toNat ≤ 90 ∧
        (lowerAscii character).toNat = character.toNat + 32) := by
  unfold lowerAscii Char.toLower
  split
  · next capital =>
    refine Or.inr ⟨capital.1, capital.2, ?_⟩
    have high : character.toNat ≤ 90 := capital.2
    show (character.val + ('a'.val - 'A'.val)).toNat = character.toNat + 32
    rw [UInt32.toNat_add]
    exact Nat.mod_eq_of_lt (by show character.toNat + 32 < 2 ^ 32; omega)
  · exact Or.inl rfl

/-- A sign other than a small letter is the lower-case form of nothing but itself. -/
theorem eq_of_lowerAscii_eq {character sign : Char}
    (noLetter : sign.toNat < 97 ∨ 122 < sign.toNat)
    (same : lowerAscii character = sign) : character = sign := by
  rcases lowerAscii_cases character with unchanged | ⟨low, high, code⟩
  · rw [← same, unchanged]
  · rw [same] at code
    omega

theorem isAlphanum_of_letter {character : Char}
    (letter : (65 ≤ character.toNat ∧ character.toNat ≤ 90) ∨
      (97 ≤ character.toNat ∧ character.toNat ≤ 122)) : character.isAlphanum = true := by
  have cased : character.isUpper = true ∨ character.isLower = true := by
    rcases letter with capital | ⟨low, high⟩
    · exact Or.inl (decide_eq_true capital)
    · exact Or.inr (Bool.and_eq_true_iff.mpr ⟨decide_eq_true low, decide_eq_true high⟩)
  exact Bool.or_eq_true_iff.mpr (Or.inl (Bool.or_eq_true_iff.mpr cased))

@[simp]
theorem isWordCharacter_lowerAscii (character : Char) :
    isWordCharacter (lowerAscii character) = isWordCharacter character := by
  rcases lowerAscii_cases character with unchanged | ⟨low, high, code⟩
  · rw [unchanged]
  · have capital : character.isAlphanum = true := isAlphanum_of_letter (Or.inl ⟨low, high⟩)
    have small : (lowerAscii character).isAlphanum = true :=
      isAlphanum_of_letter (Or.inr ⟨by omega, by omega⟩)
    rw [isWordCharacter, isWordCharacter, isAlphanumeric_of_isAlphanum capital,
      isAlphanumeric_of_isAlphanum small, Bool.true_or, Bool.true_or]

/-! ### Texts -/

variable {text other rest token : List Char}

theorem sameIgnoringCase_iff :
    sameIgnoringCase text other = true ↔ text.map lowerAscii = other.map lowerAscii :=
  beq_iff_eq

theorem sameIgnoringCase_reverse :
    sameIgnoringCase text.reverse other = sameIgnoringCase text other.reverse := by
  rw [Bool.eq_iff_iff, sameIgnoringCase_iff, sameIgnoringCase_iff, List.map_reverse,
    List.map_reverse, List.reverse_eq_iff]

theorem ne_nil_of_sameIgnoringCase (same : sameIgnoringCase text other = true)
    (filled : other ≠ []) : text ≠ [] := by
  rintro rfl
  exact filled (List.map_eq_nil_iff.1 (sameIgnoringCase_iff.1 same).symm)

theorem exists_of_sameIgnoringCase_cons {character expected : Char} {found : List Char}
    (parts : character :: text = found ++ rest)
    (same : sameIgnoringCase found (expected :: token) = true) :
    ∃ others, found = character :: others ∧ text = others ++ rest ∧
      lowerAscii character = lowerAscii expected ∧ sameIgnoringCase others token = true := by
  cases found with
  | nil => exact absurd rfl (ne_nil_of_sameIgnoringCase same (List.cons_ne_nil _ _))
  | cons first others =>
    obtain ⟨rfl, rfl⟩ := List.cons.inj parts
    obtain ⟨alike, later⟩ := List.cons.inj (sameIgnoringCase_iff.1 same)
    exact ⟨others, rfl, rfl, alike, sameIgnoringCase_iff.2 later⟩

theorem dropPrefixIgnoringCase?_eq_some_iff :
    dropPrefixIgnoringCase? token text = some rest ↔
      ∃ found, text = found ++ rest ∧ sameIgnoringCase found token = true := by
  induction token generalizing text with
  | nil =>
    rw [dropPrefixIgnoringCase?]
    constructor
    · rintro ⟨⟩
      exact ⟨[], rfl, rfl⟩
    · rintro ⟨found, rfl, same⟩
      obtain rfl := List.map_eq_nil_iff.1 (sameIgnoringCase_iff.1 same)
      rfl
  | cons expected token inductionHypothesis =>
    cases text with
    | nil =>
      refine iff_of_false nofun ?_
      rintro ⟨found, parts, same⟩
      exact ne_nil_of_sameIgnoringCase same (List.cons_ne_nil _ _)
        (List.append_eq_nil_iff.1 parts.symm).1
    | cons character text =>
      rw [dropPrefixIgnoringCase?]
      split
      · next alike =>
        rw [inductionHypothesis]
        constructor
        · rintro ⟨found, rfl, same⟩
          refine ⟨character :: found, rfl, sameIgnoringCase_iff.2 ?_⟩
          rw [List.map_cons, List.map_cons, alike, sameIgnoringCase_iff.1 same]
        · rintro ⟨found, parts, same⟩
          obtain ⟨found, rfl, rfl, -, others⟩ := exists_of_sameIgnoringCase_cons parts same
          exact ⟨found, rfl, others⟩
      · next different =>
        refine iff_of_false nofun ?_
        rintro ⟨found, parts, same⟩
        obtain ⟨-, -, -, alike, -⟩ := exists_of_sameIgnoringCase_cons parts same
        exact different alike

theorem dropSuffixIgnoringCase?_eq_some_iff :
    dropSuffixIgnoringCase? token text = some rest ↔
      ∃ found, text = rest ++ found ∧ sameIgnoringCase found token = true := by
  unfold dropSuffixIgnoringCase?
  rw [Option.map_eq_some_iff]
  constructor
  · rintro ⟨front, dropped, rfl⟩
    obtain ⟨found, parts, same⟩ := dropPrefixIgnoringCase?_eq_some_iff.1 dropped
    refine ⟨found.reverse, ?_, by rw [sameIgnoringCase_reverse]; exact same⟩
    rw [← List.reverse_append, ← parts, List.reverse_reverse]
  · rintro ⟨found, rfl, same⟩
    refine ⟨rest.reverse, dropPrefixIgnoringCase?_eq_some_iff.2 ⟨found.reverse, ?_, ?_⟩,
      List.reverse_reverse rest⟩
    · exact List.reverse_append
    · rw [sameIgnoringCase_reverse, List.reverse_reverse]
      exact same

end DynamicSql.Text
