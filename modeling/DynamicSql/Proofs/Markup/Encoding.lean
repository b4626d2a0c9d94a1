/-
This file says that decoding undoes encoding. Each character is written as itself or as a reference
by name, and each of these decodes to the character, whatever comes behind it. The faults that
decoding can end with carry places, so what is said of one character is said from any place on.
-/

import DynamicSql.Markup.Entity

namespace DynamicSql.Markup

/-! ### One character -/

/-- A text writes a character: decoding finds the character first, and goes on behind the text. -/
def Encodes (written : List Char) (character : Char) : Prop :=
  ∀ total place rest, ∃ later, ∀ decoded, decodeFrom total later rest = .ok decoded →
    decodeFrom total place (written ++ rest) = .ok (character :: decoded)

theorem encodes_self {character : Char} (noReference : character ≠ '&') :
    Encodes [character] character := by
  intro total place rest
  refine ⟨place + character.utf8Size, fun decoded done => ?_⟩
  rw [List.singleton_append, decodeFrom, done]
  exact noReference

/-- A name without an ampersand and a semicolon is read up to the semicolon. -/
theorem referenceName?_append {name : List Char} (noEnd : ';' ∉ name) (noStart : '&' ∉ name)
    (rest : List Char) : referenceName? (name ++ ';' :: rest) = some (name, rest) := by
  induction name with
  | nil => rw [List.nil_append, referenceName?, if_pos rfl]
  | cons character later inductionHypothesis =>
    simp only [List.mem_cons, not_or] at noEnd noStart
    rw [List.cons_append, referenceName?, if_neg (Ne.symm noEnd.1), if_neg (Ne.symm noStart.1),
      inductionHypothesis noEnd.2 noStart.2]
    rfl

theorem referenced_of_named {name : List Char} {character : Char} (noNumber : '#' ∉ name)
    (named : namedCharacter? name = some character) (start stop : Nat) :
    referenced start stop name = .ok character := by
  unfold referenced
  split
  · exact absurd List.mem_cons_self noNumber
  · rw [named]

theorem encodes_reference {name : List Char} {character : Char} (noEnd : ';' ∉ name)
    (noStart : '&' ∉ name) (noNumber : '#' ∉ name) (named : namedCharacter? name = some character) :
    Encodes ('&' :: (name ++ [';'])) character := by
  intro total place rest
  refine ⟨place + 1 + byteCount name + 1, fun decoded done => ?_⟩
  have cut : referenceName? (name ++ [';'] ++ rest) = some (name, rest) := by
    rw [List.append_assoc]
    exact referenceName?_append noEnd noStart rest
  rw [List.cons_append, decodeFrom]
  split
  · next none =>
    rw [cut] at none
    cases none
  · next found =>
    obtain ⟨rfl, rfl⟩ := Prod.mk.inj (Option.some.inj (cut.symm.trans found))
    simp only [referenced_of_named noNumber named, done]

/-! ### Texts and values -/

theorem encodes_encodeInText (character : Char) :
    Encodes (encodeInText character) character := by
  unfold encodeInText
  split
  · next same =>
    subst same
    exact @encodes_reference ['l', 't'] '<' (by decide) (by decide) (by decide) rfl
  · split
    · next same =>
      subst same
      exact @encodes_reference ['g', 't'] '>' (by decide) (by decide) (by decide) rfl
    · split
      · next same =>
        subst same
        exact @encodes_reference ['a', 'm', 'p'] '&' (by decide) (by decide) (by decide) rfl
      · next plain => exact encodes_self plain

theorem encodes_encodeInValue (character : Char) :
    Encodes (encodeInValue character) character := by
  unfold encodeInValue
  split
  · next same =>
    subst same
    exact @encodes_reference ['a', 'p', 'o', 's'] '\'' (by decide) (by decide) (by decide) rfl
  · split
    · next same =>
      subst same
      exact @encodes_reference ['q', 'u', 'o', 't'] '"' (by decide) (by decide) (by decide) rfl
    · exact encodes_encodeInText character

/-- A text is decoded to what each of its characters has been encoded from. -/
theorem decode_flatMap {encode : Char → List Char}
    (encodes : ∀ character, Encodes (encode character) character) (text : List Char) :
    decode (text.flatMap encode) = .ok text := by
  have decodes : ∀ total place, decodeFrom total place (text.flatMap encode) = .ok text := by
    intro total
    induction text with
    | nil => exact fun place => by rw [List.flatMap_nil, decodeFrom]
    | cons character rest inductionHypothesis =>
      intro place
      obtain ⟨later, continues⟩ := encodes character total place (rest.flatMap encode)
      exact continues rest (inductionHypothesis later)
  exact decodes _ _

/-! ### Characters of markup -/

theorem not_mem_encodeInText (character : Char) : '<' ∉ encodeInText character := by
  unfold encodeInText
  split
  · decide
  · next different =>
    split
    · decide
    · split
      · decide
      · exact fun inside => different (List.mem_singleton.1 inside).symm

theorem not_mem_encodeInValue (character : Char) : '"' ∉ encodeInValue character := by
  unfold encodeInValue
  split
  · decide
  · split
    · decide
    · next different =>
      unfold encodeInText
      split
      · decide
      · split
        · decide
        · split
          · decide
          · exact fun inside => different (List.mem_singleton.1 inside).symm

theorem encodeInText_ne_nil (character : Char) : encodeInText character ≠ [] := by
  unfold encodeInText
  split
  · decide
  · split
    · decide
    · split
      · decide
      · exact List.cons_ne_nil character []

theorem not_mem_flatMap {encode : Char → List Char} {mark : Char}
    (absent : ∀ character, mark ∉ encode character) (text : List Char) :
    mark ∉ text.flatMap encode := by
  intro member
  obtain ⟨character, -, inside⟩ := List.mem_flatMap.1 member
  exact absent character inside

end DynamicSql.Markup
