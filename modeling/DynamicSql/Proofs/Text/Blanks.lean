/-
This file proves what is left of a text when blanks are taken away. Trimming takes away nothing but
blanks, and what remains begins and ends with ink, where ink is any character that is not blank; a
text that ends with ink is all blank only if it is empty. Collapsing a text is trimming it and
writing one space for every run of blanks (`collapse_eq_squeeze`).
-/

import DynamicSql.Text.Blank
import Mathlib.Data.List.DropRight

namespace DynamicSql.Text

/-! ### Ends -/

/-- The first character of the text, if there is one, is not blank. -/
def StartsWithInk (text : List Char) : Prop :=
  ∀ character ∈ text.head?, isBlank character = false

/-- The last character of the text, if there is one, is not blank. -/
def EndsWithInk (text : List Char) : Prop :=
  ∀ character ∈ text.getLast?, isBlank character = false

instance (text : List Char) : Decidable (EndsWithInk text) :=
  decidable_of_iff (text.getLast?.all fun character => !isBlank character)
    (by simp [EndsWithInk, Option.all_eq_true])

variable {text front back : List Char} {character : Char}

theorem StartsWithInk.of_append (starts : StartsWithInk (front ++ back)) :
    StartsWithInk front := by
  intro character isHead
  refine starts character ?_
  rw [List.head?_append, Option.mem_def.1 isHead]
  rfl

theorem EndsWithInk.of_append (ends : EndsWithInk (front ++ back)) : EndsWithInk back := by
  intro character isLast
  refine ends character ?_
  rw [List.getLast?_append, Option.mem_def.1 isLast]
  rfl

theorem EndsWithInk.append (ends : EndsWithInk back) (filled : back ≠ []) (front : List Char) :
    EndsWithInk (front ++ back) := by
  intro character isLast
  rw [List.getLast?_append_of_ne_nil front filled] at isLast
  exact ends character isLast

theorem EndsWithInk.isAllBlank (ends : EndsWithInk text) (filled : text ≠ []) :
    isAllBlank text = false := by
  have ink := ends (text.getLast filled) (List.getLast?_eq_some_getLast filled)
  rw [Text.isAllBlank, List.all_eq_false]
  exact ⟨text.getLast filled, List.getLast_mem filled, by rw [ink]; decide⟩

/-! ### Trimming -/

theorem trimEnd_append (text : List Char) :
    ∃ back, text = trimEnd text ++ back ∧ isAllBlank back = true := by
  refine ⟨text.rtakeWhile isBlank, List.rdropWhile_append_rtakeWhile.symm, ?_⟩
  exact List.all_eq_true.2 fun character member => List.mem_rtakeWhile_imp member

theorem append_trimStart (text : List Char) :
    ∃ front, text = front ++ trimStart text ∧ isAllBlank front = true :=
  ⟨text.takeWhile isBlank, List.takeWhile_append_dropWhile.symm, List.all_takeWhile⟩

theorem endsWithInk_trimEnd (text : List Char) : EndsWithInk (trimEnd text) := by
  intro character isLast
  obtain ⟨filled, rfl⟩ := List.mem_getLast?_eq_getLast isLast
  exact Bool.eq_false_iff.2 (List.rdropWhile_last_not isBlank text filled)

theorem startsWithInk_trimStart (text : List Char) : StartsWithInk (trimStart text) := by
  induction text with
  | nil => exact fun _ isHead => (nomatch isHead)
  | cons character rest inductionHypothesis =>
    cases blank : isBlank character with
    | true => rw [trimStart_cons_of_blank blank]; exact inductionHypothesis
    | false =>
      rw [trimStart_cons_of_not_blank blank]
      rintro _ ⟨⟩
      exact blank

/-- The middle of a text: what is left of it without the blanks at its ends. -/
structure IsMiddle (text middle : List Char) : Prop where
  within : ∃ front back, text = front ++ middle ++ back ∧ isAllBlank front = true ∧
    isAllBlank back = true
  starts : StartsWithInk middle
  ends : EndsWithInk middle

theorem isMiddle_trim (text : List Char) : IsMiddle text (trim text) := by
  obtain ⟨front, parts, blankFront⟩ := append_trimStart text
  obtain ⟨back, innerParts, blankBack⟩ := trimEnd_append (trimStart text)
  refine ⟨⟨front, back, ?_, blankFront, blankBack⟩, ?_, endsWithInk_trimEnd (trimStart text)⟩
  · rw [List.append_assoc, trim, ← innerParts]
    exact parts
  · have starts := startsWithInk_trimStart text
    rw [innerParts] at starts
    exact starts.of_append

theorem trimEnd_cons (character : Char) (rest : List Char) :
    trimEnd (character :: rest) =
      if isBlank character && (trimEnd rest).isEmpty then [] else character :: trimEnd rest := by
  unfold trimEnd
  rw [List.reverse_cons, List.dropWhile_append]
  cases dropped : rest.reverse.dropWhile isBlank with
  | nil => cases blank : isBlank character <;> simp [blank]
  | cons first others => simp

theorem trimEnd_eq_nil_iff : trimEnd text = [] ↔ trim text = [] := by
  rw [trim_eq_nil_iff, isAllBlank, List.all_eq_true]
  exact List.rdropWhile_eq_nil_iff

theorem trimEnd_cons_of_filled (character : Char) {rest : List Char} (filled : trim rest ≠ []) :
    trimEnd (character :: rest) = character :: trimEnd rest := by
  have kept : (trimEnd rest).isEmpty = false := by
    rw [List.isEmpty_eq_false_iff, Ne, trimEnd_eq_nil_iff]
    exact filled
  rw [trimEnd_cons, kept, Bool.and_false, if_neg Bool.false_ne_true]

theorem trimEnd_cons_of_not_blank (ink : isBlank character = false) (rest : List Char) :
    trimEnd (character :: rest) = character :: trimEnd rest := by
  rw [trimEnd_cons, ink]
  rfl

/-! ### Collapsing -/

/-- The text with one space for every run of blanks: a blank is left out if another one follows,
else it becomes a space. -/
def squeeze : List Char → List Char
  | [] => []
  | character :: rest =>
    if isBlank character then
      if (rest.head?.map isBlank).getD false then squeeze rest else ' ' :: squeeze rest
    else character :: squeeze rest

/-- A run of blanks before ink becomes one space. -/
theorem squeeze_cons_of_blank (blank : isBlank character = true) {rest : List Char}
    (filled : trim rest ≠ []) :
    squeeze (character :: trimEnd rest) = ' ' :: squeeze (trim rest) := by
  induction rest generalizing character with
  | nil => exact absurd rfl filled
  | cons next rest inductionHypothesis =>
    cases blankNext : isBlank next with
    | false =>
      rw [trim, trimStart_cons_of_not_blank blankNext, trimEnd_cons_of_not_blank blankNext, squeeze,
        if_pos blank]
      simp [blankNext]
    | true =>
      have start : trim (next :: rest) = trim rest := by
        rw [trim, trimStart_cons_of_blank blankNext, trim]
      rw [start] at filled ⊢
      rw [trimEnd_cons_of_filled next filled, squeeze, if_pos blank,
        if_pos (by simpa using blankNext)]
      exact inductionHypothesis blankNext filled

theorem squeeze_ne_nil (filled : text ≠ []) : squeeze text ≠ [] := by
  induction text with
  | nil => exact absurd rfl filled
  | cons character rest inductionHypothesis =>
    rw [squeeze]
    split
    · split
      · next again =>
        refine inductionHypothesis ?_
        rintro rfl
        cases again
      · exact List.cons_ne_nil _ _
    · exact List.cons_ne_nil _ _

theorem wordsFrom_nil (nothing : trim text = []) : wordsFrom [] text = [] := by
  rw [trim_eq_nil_iff] at nothing
  induction text with
  | nil => rfl
  | cons character rest inductionHypothesis =>
    obtain ⟨blank, later⟩ := Bool.and_eq_true_iff.1 nothing
    rw [wordsFrom, if_pos blank, if_pos List.isEmpty_nil]
    exact inductionHypothesis later

/-- Words behind one that has been begun, or behind none. -/
theorem intercalate_wordsFrom (text : List Char) :
    List.intercalate [' '] (wordsFrom [] text) = squeeze (trim text) ∧
      ∀ current, current ≠ [] → List.intercalate [' '] (wordsFrom current text) =
        current.reverse ++ squeeze (trimEnd text) := by
  induction text with
  | nil =>
    refine ⟨rfl, fun current begun => ?_⟩
    rw [wordsFrom, if_neg (by simpa using begun)]
    simp [trimEnd, squeeze]
  | cons character rest inductionHypothesis =>
    obtain ⟨between, within⟩ := inductionHypothesis
    cases blank : isBlank character with
    | false =>
      have goesOn : ∀ current,
          wordsFrom current (character :: rest) = wordsFrom (character :: current) rest :=
        fun current => by rw [wordsFrom, if_neg (by simp [blank])]
      refine ⟨?_, fun current _ => ?_⟩
      · rw [goesOn, within [character] (by simp), trim, trimStart_cons_of_not_blank blank,
          trimEnd_cons_of_not_blank blank, squeeze, if_neg (by simp [blank])]
        rfl
      · rw [goesOn, within _ (by simp), trimEnd_cons_of_not_blank blank, squeeze,
          if_neg (by simp [blank])]
        simp
    | true =>
      have start : trim (character :: rest) = trim rest := by
        rw [trim, trimStart_cons_of_blank blank, trim]
      refine ⟨?_, fun current begun => ?_⟩
      · rw [wordsFrom, if_pos blank, start]
        exact between
      · have ended : wordsFrom current (character :: rest) =
            current.reverse :: wordsFrom [] rest := by
          rw [wordsFrom, if_pos blank, if_neg (by simpa using begun)]
        rw [ended]
        by_cases nothing : trim rest = []
        · have nothingLeft : trimEnd (character :: rest) = [] := by
            rw [trimEnd_eq_nil_iff, start]
            exact nothing
          rw [wordsFrom_nil nothing, nothingLeft]
          simp [squeeze]
        · rw [trimEnd_cons_of_filled character nothing, squeeze_cons_of_blank blank nothing,
            ← between]
          cases later : wordsFrom [] rest with
          | nil =>
            rw [later] at between
            exact absurd between.symm (squeeze_ne_nil nothing)
          | cons word others => simp [List.intercalate_cons_cons]

/-- Collapsing writes one space for every run of blanks between those at the ends. -/
theorem collapse_eq_squeeze (text : List Char) : collapse text = squeeze (trim text) :=
  (intercalate_wordsFrom text).1

end DynamicSql.Text
