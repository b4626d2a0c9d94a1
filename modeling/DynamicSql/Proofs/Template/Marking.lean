/-
This file proves that markers go through the tidying of a statement untouched: no marker is empty
or has a blank in it, so blanks can be taken away from the signs before the markers are put at the
holes as well as from the text with the markers. The marker of each hole has the position of the
value that the hole holds among the arguments.
-/

import DynamicSql.Proofs.Path.Writing
import DynamicSql.Proofs.Template.Direct

namespace DynamicSql

/-! ### Markers -/

namespace Dialect

theorem marker_ne_nil (dialect : Dialect) (position : Nat) : dialect.marker position ≠ [] := by
  cases dialect <;> simp [marker]

theorem not_blank_of_mem_decimal {number : Nat} {character : Char}
    (member : character ∈ Number.decimal number) : Text.isBlank character = false :=
  Text.isBlank_of_isNameCharacter (Text.isNameCharacter_of_isDigit
    (List.all_eq_true.1 (Number.all_isDigit_decimal number) character member))

theorem not_blank_of_mem_marker {dialect : Dialect} {position : Nat} {character : Char}
    (member : character ∈ dialect.marker position) : Text.isBlank character = false := by
  cases dialect with
  | mysql =>
    obtain rfl := List.mem_singleton.1 member
    decide
  | postgresql =>
    rcases List.mem_cons.1 member with rfl | digit
    · decide
    · exact not_blank_of_mem_decimal digit
  | sqlite =>
    rcases List.mem_cons.1 member with rfl | digit
    · decide
    · exact not_blank_of_mem_decimal digit

end Dialect

namespace Template.Direct

variable {Hole : Type} {dialect : Dialect}

@[simp]
theorem arguments_append (first second : List (Sign Hole)) :
    arguments (first ++ second) = arguments first ++ arguments second := by
  induction first with
  | nil => rfl
  | cons sign rest inductionHypothesis =>
    cases sign <;> simp [arguments, inductionHypothesis]

@[simp]
theorem markedText_append (position : Nat) (first second : List (Sign Hole)) :
    markedText dialect position (first ++ second) =
      markedText dialect position first ++
        markedText dialect (position + (arguments first).length) second := by
  induction first generalizing position with
  | nil => rfl
  | cons sign rest inductionHypothesis =>
    cases sign with
    | letter character => simp [markedText, arguments, inductionHypothesis]
    | hole value =>
      simp [markedText, arguments, inductionHypothesis, Nat.add_assoc, Nat.add_comm]

@[simp]
theorem isEmpty_markedText (position : Nat) (signs : List (Sign Hole)) :
    (markedText dialect position signs).isEmpty = signs.isEmpty := by
  cases signs with
  | nil => rfl
  | cons sign rest =>
    cases sign with
    | letter character => rfl
    | hole content => simp [markedText, dialect.marker_ne_nil]

/-! ### Trimming -/

@[simp]
theorem trimStart_markedText (position : Nat) (signs : List (Sign Hole)) :
    Text.trimStart (markedText dialect position signs) =
      markedText dialect position (Sign.trimStart signs) := by
  induction signs with
  | nil => rfl
  | cons sign rest inductionHypothesis =>
    unfold Text.trimStart Sign.trimStart at *
    cases sign with
    | letter character =>
      rw [markedText, List.dropWhile_cons, List.dropWhile_cons, Sign.isBlank]
      split
      · exact inductionHypothesis
      · rfl
    | hole content =>
      obtain ⟨first, others, marker⟩ := List.exists_cons_of_ne_nil (dialect.marker_ne_nil position)
      have ink : Text.isBlank first = false :=
        Dialect.not_blank_of_mem_marker (marker ▸ List.mem_cons_self)
      simp [markedText, marker, ink, Sign.isBlank]

@[simp]
theorem trimEnd_markedText (position : Nat) (signs : List (Sign Hole)) :
    Text.trimEnd (markedText dialect position signs) =
      markedText dialect position (Sign.trimEnd signs) := by
  induction signs using List.reverseRecOn with
  | nil => rfl
  | append_singleton front last inductionHypothesis =>
    unfold Text.trimEnd Sign.trimEnd at *
    rw [markedText_append]
    cases last with
    | letter character =>
      cases blank : Text.isBlank character with
      | true => simpa [markedText, Sign.isBlank, blank] using inductionHypothesis
      | false => simp [markedText, Sign.isBlank, blank]
    | hole content =>
      obtain ⟨others, final, marker⟩ := (List.eq_nil_or_concat'
        (dialect.marker (position + (arguments front).length))).resolve_left
          (dialect.marker_ne_nil _)
      have ink : Text.isBlank final = false :=
        Dialect.not_blank_of_mem_marker (marker ▸ List.mem_append_right _ List.mem_cons_self)
      simp [markedText, Sign.isBlank, marker, ink]

@[simp]
theorem arguments_trimStart (signs : List (Sign Hole)) :
    arguments (Sign.trimStart signs) = arguments signs := by
  induction signs with
  | nil => rfl
  | cons sign rest inductionHypothesis =>
    unfold Sign.trimStart at *
    rw [List.dropWhile_cons]
    cases sign with
    | letter character =>
      split
      · exact inductionHypothesis
      · rfl
    | hole content => rfl

@[simp]
theorem arguments_trimEnd (signs : List (Sign Hole)) :
    arguments (Sign.trimEnd signs) = arguments signs := by
  induction signs using List.reverseRecOn with
  | nil => rfl
  | append_singleton front last inductionHypothesis =>
    unfold Sign.trimEnd at *
    cases last with
    | letter character =>
      cases blank : Text.isBlank character with
      | true => simpa [Sign.isBlank, blank, arguments] using inductionHypothesis
      | false => simp [Sign.isBlank, blank]
    | hole content => simp [Sign.isBlank]

/-! ### Words -/

/-- The words with markers at their holes; the next one has the given position. -/
def markedWords (dialect : Dialect) (position : Nat) : List (List (Sign Hole)) → List (List Char)
  | [] => []
  | word :: rest =>
    markedText dialect position word ::
      markedWords dialect (position + (arguments word).length) rest

theorem wordsFrom_append_of_not_blank {front : List Char}
    (ink : ∀ character ∈ front, Text.isBlank character = false) (current rest : List Char) :
    Text.wordsFrom current (front ++ rest) = Text.wordsFrom (front.reverse ++ current) rest := by
  induction front generalizing current with
  | nil => rfl
  | cons character front inductionHypothesis =>
    obtain ⟨first, others⟩ := List.forall_mem_cons.1 ink
    rw [List.cons_append, Text.wordsFrom, if_neg (by simp [first]), inductionHypothesis others]
    simp

/-- The words of a marked text are the marked words, also with a word begun before it. -/
theorem wordsFrom_markedText (position : Nat) (current signs : List (Sign Hole)) :
    Text.wordsFrom (markedText dialect position current.reverse).reverse
        (markedText dialect (position + (arguments current.reverse).length) signs) =
      markedWords dialect position (Sign.wordsFrom current signs) := by
  have sameEmpty (position : Nat) (current : List (Sign Hole)) :
      (markedText dialect position current.reverse).reverse.isEmpty = current.isEmpty := by
    simp
  induction signs generalizing position current with
  | nil =>
    rw [markedText, Text.wordsFrom, Sign.wordsFrom, sameEmpty]
    split
    · rfl
    · rw [List.reverse_reverse]
      rfl
  | cons sign rest inductionHypothesis =>
    cases sign with
    | letter character =>
      rw [markedText, Text.wordsFrom, Sign.wordsFrom, sameEmpty, Sign.isBlank]
      split
      · split
        · next isEmpty =>
          obtain rfl := List.isEmpty_iff.1 isEmpty
          exact inductionHypothesis position []
        · rw [List.reverse_reverse, markedWords]
          exact congrArg _ (inductionHypothesis _ [])
      · have later := inductionHypothesis position (.letter character :: current)
        rw [← later]
        simp [markedText, arguments]
    | hole content =>
      have later := inductionHypothesis position (.hole content :: current)
      rw [markedText, wordsFrom_append_of_not_blank fun _ => Dialect.not_blank_of_mem_marker,
        Sign.wordsFrom, if_neg (by simp [Sign.isBlank]), ← later]
      simp [markedText, arguments, Nat.add_assoc]

theorem markedText_intercalate (position : Nat) (words : List (List (Sign Hole))) :
    markedText dialect position (List.intercalate [.letter ' '] words) =
      List.intercalate [' '] (markedWords dialect position words) := by
  induction words generalizing position with
  | nil => rfl
  | cons word rest inductionHypothesis =>
    cases rest with
    | nil => simp [markedWords]
    | cons second rest =>
      rw [List.intercalate_cons_cons, markedText_append, markedText_append, inductionHypothesis]
      simp [markedWords, List.intercalate_cons_cons, markedText, arguments]

@[simp]
theorem arguments_intercalate (words : List (List (Sign Hole))) :
    arguments (List.intercalate [.letter ' '] words) = words.flatMap arguments := by
  induction words with
  | nil => rfl
  | cons word rest inductionHypothesis =>
    cases rest with
    | nil => simp
    | cons second rest =>
      rw [List.intercalate_cons_cons]
      simp [inductionHypothesis, arguments]

theorem arguments_wordsFrom (current signs : List (Sign Hole)) :
    (Sign.wordsFrom current signs).flatMap arguments = arguments (current.reverse ++ signs) := by
  induction signs generalizing current with
  | nil =>
    rw [Sign.wordsFrom]
    split
    · next isEmpty =>
      obtain rfl := List.isEmpty_iff.1 isEmpty
      rfl
    · simp
  | cons sign rest inductionHypothesis =>
    rw [Sign.wordsFrom]
    split
    · next blank =>
      cases sign with
      | hole content => cases blank
      | letter character =>
        split
        · next isEmpty =>
          obtain rfl := List.isEmpty_iff.1 isEmpty
          exact inductionHypothesis []
        · simp [inductionHypothesis, arguments]
    · rw [inductionHypothesis, List.reverse_cons, List.append_assoc]
      rfl

/-! ### Tidying -/

@[simp]
theorem tidy_markedText (shrink : Bool) (position : Nat) (signs : List (Sign Hole)) :
    Execution.tidy shrink (markedText dialect position signs) =
      markedText dialect position (Sign.tidy shrink signs) := by
  unfold Execution.tidy Sign.tidy
  split
  · rw [markedText_intercalate, ← wordsFrom_markedText]
    rfl
  · simp [Text.trim, Sign.trim]

@[simp]
theorem arguments_tidy (shrink : Bool) (signs : List (Sign Hole)) :
    arguments (Sign.tidy shrink signs) = arguments signs := by
  unfold Sign.tidy
  split
  · rw [arguments_intercalate, arguments_wordsFrom]
    rfl
  · simp [Sign.trim]

end Template.Direct

end DynamicSql
