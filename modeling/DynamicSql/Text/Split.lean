/-
This file cuts texts at characters: at the first or the last place where a character stands, and
at every such place. A cut loses exactly the character it is made at.
-/

namespace DynamicSql.Text

/-- What stands before and after the first `separator`. -/
def cutFirst? (separator : Char) : List Char → Option (List Char × List Char)
  | [] => none
  | character :: rest =>
    if character = separator then some ([], rest)
    else (cutFirst? separator rest).map fun parts => (character :: parts.1, parts.2)

/-- What stands before and after the last `separator`. -/
def cutLast? (separator : Char) : List Char → Option (List Char × List Char)
  | [] => none
  | character :: rest =>
    match cutLast? separator rest with
    | some parts => some (character :: parts.1, parts.2)
    | none => if character = separator then some ([], rest) else none

/-- The parts between the separators: one more than there are separators. -/
def splitOn (separator : Char) : List Char → List (List Char)
  | [] => [[]]
  | character :: rest =>
    if character = separator then [] :: splitOn separator rest
    else
      match splitOn separator rest with
      | [] => [[character]]
      | part :: parts => (character :: part) :: parts

/-- The rest of a text that begins with `start`. -/
def dropPrefix? : List Char → List Char → Option (List Char)
  | [], text => some text
  | _ :: _, [] => none
  | expected :: start, character :: text =>
    if character = expected then dropPrefix? start text else none

theorem cutFirst?_eq {separator : Char} {text before after : List Char}
    (cut : cutFirst? separator text = some (before, after)) :
    text = before ++ separator :: after ∧ separator ∉ before := by
  induction text generalizing before with
  | nil => simp [cutFirst?] at cut
  | cons character rest inductionHypothesis =>
    unfold cutFirst? at cut
    split at cut
    case isTrue same =>
      obtain ⟨rfl, rfl⟩ : [] = before ∧ rest = after := by simpa using cut
      exact ⟨by simp [same], by simp⟩
    case isFalse different =>
      obtain ⟨⟨before', after'⟩, cut', equal⟩ := Option.map_eq_some_iff.1 cut
      obtain ⟨rfl, rfl⟩ : character :: before' = before ∧ after' = after := by simpa using equal
      obtain ⟨whole, absent⟩ := inductionHypothesis cut'
      refine ⟨by simp [whole], ?_⟩
      simp only [List.mem_cons, not_or]
      exact ⟨fun same => different same.symm, absent⟩

theorem cutFirst?_append {separator : Char} {before : List Char} (absent : separator ∉ before)
    (after : List Char) :
    cutFirst? separator (before ++ separator :: after) = some (before, after) := by
  induction before with
  | nil => simp [cutFirst?]
  | cons character rest inductionHypothesis =>
    simp only [List.mem_cons, not_or] at absent
    rw [List.cons_append, cutFirst?, if_neg (Ne.symm absent.1), inductionHypothesis absent.2]
    rfl

theorem cutFirst?_length {separator : Char} {text before after : List Char}
    (cut : cutFirst? separator text = some (before, after)) : after.length < text.length := by
  rw [(cutFirst?_eq cut).1]
  simp
  omega

theorem cutLast?_eq {separator : Char} {text before after : List Char}
    (cut : cutLast? separator text = some (before, after)) :
    text = before ++ separator :: after := by
  induction text generalizing before with
  | nil => simp [cutLast?] at cut
  | cons character rest inductionHypothesis =>
    unfold cutLast? at cut
    split at cut
    · next parts later =>
      obtain ⟨rfl, rfl⟩ : character :: parts.1 = before ∧ parts.2 = after := by simpa using cut
      simp [inductionHypothesis later]
    · split at cut
      · next same =>
        obtain ⟨rfl, rfl⟩ : [] = before ∧ rest = after := by simpa using cut
        simp [same]
      · simp at cut

/-- There is no last separator exactly if there is none at all. -/
theorem cutLast?_eq_none_iff {separator : Char} {text : List Char} :
    cutLast? separator text = none ↔ separator ∉ text := by
  induction text with
  | nil => simp [cutLast?]
  | cons character rest inductionHypothesis =>
    rw [List.mem_cons, not_or, ← inductionHypothesis, cutLast?]
    split
    · next parts later => simp [later]
    · next none => simp [none, eq_comm]

theorem cutLast?_append {separator : Char} {after : List Char} (absent : separator ∉ after)
    (before : List Char) :
    cutLast? separator (before ++ separator :: after) = some (before, after) := by
  induction before with
  | nil => rw [List.nil_append, cutLast?, cutLast?_eq_none_iff.2 absent, if_pos rfl]
  | cons character rest inductionHypothesis =>
    rw [List.cons_append, cutLast?, inductionHypothesis]

theorem not_mem_of_cutLast? {separator : Char} {text before after : List Char}
    (cut : cutLast? separator text = some (before, after)) : separator ∉ after := by
  induction text generalizing before with
  | nil => cases cut
  | cons character rest inductionHypothesis =>
    unfold cutLast? at cut
    split at cut
    · next parts later =>
      obtain ⟨rfl, rfl⟩ : character :: parts.1 = before ∧ parts.2 = after := by simpa using cut
      exact inductionHypothesis later
    · next none =>
      split at cut
      · obtain ⟨rfl, rfl⟩ : [] = before ∧ rest = after := by simpa using cut
        exact cutLast?_eq_none_iff.1 none
      · cases cut

end DynamicSql.Text
