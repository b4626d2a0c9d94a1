/-
This file cuts statement text at its placeholders. A placeholder is `#` with braces around a
property and its options; the same with a dollar sign is a raw substitution. Both end at the first
closing brace. What is cut apart loses nothing: `flatMap_written_scan` writes the pieces back.
-/

import DynamicSql.Text.Blank
import DynamicSql.Text.Split

namespace DynamicSql.Template

/-- A piece of statement text: literal text, the inside of a placeholder, the inside of a raw
substitution, or everything from an opening that is never closed. -/
inductive Piece where
  | literal (text : List Char)
  | placeholder (inside : List Char)
  | raw (inside : List Char)
  | unterminated (text : List Char)
  deriving DecidableEq

namespace Piece

/-- The text that a piece was cut from. -/
def written : Piece → List Char
  | .literal text => text
  | .placeholder inside => '#' :: '{' :: inside ++ ['}']
  | .raw inside => '$' :: '{' :: inside ++ ['}']
  | .unterminated text => text

/-- Pieces behind one more literal character. -/
def literalBefore (character : Char) : List Piece → List Piece
  | .literal text :: pieces => .literal (character :: text) :: pieces
  | pieces => .literal [character] :: pieces

@[simp]
theorem flatMap_written_literalBefore (character : Char) (pieces : List Piece) :
    (literalBefore character pieces).flatMap written = character :: pieces.flatMap written := by
  unfold literalBefore
  split <;> simp [written]

/-- The pieces of a text, from left to right. -/
def scan (text : List Char) : List Piece :=
  match text with
  | [] => []
  | '#' :: '{' :: rest =>
    match cut : Text.cutFirst? '}' rest with
    | none => [.unterminated ('#' :: '{' :: rest)]
    | some (inside, after) =>
      have := Text.cutFirst?_length cut
      .placeholder inside :: scan after
  | '$' :: '{' :: rest =>
    match cut : Text.cutFirst? '}' rest with
    | none => [.unterminated ('$' :: '{' :: rest)]
    | some (inside, after) =>
      have := Text.cutFirst?_length cut
      .raw inside :: scan after
  | character :: rest => literalBefore character (scan rest)
termination_by text.length
decreasing_by
  · exact Nat.lt_of_lt_of_le this (Nat.le_add_right _ 2)
  · exact Nat.lt_of_lt_of_le this (Nat.le_add_right _ 2)
  · simp

/-- The pieces written back are the text. -/
@[simp]
theorem flatMap_written_scan (text : List Char) : (scan text).flatMap written = text := by
  fun_induction scan text with
  | case1 => rfl
  | case2 rest cut => simp [written]
  | case3 rest inside after cut smaller inductionHypothesis =>
    obtain ⟨whole, _⟩ := Text.cutFirst?_eq cut
    simp [written, inductionHypothesis, whole]
  | case4 rest cut => simp [written]
  | case5 rest inside after cut smaller inductionHypothesis =>
    obtain ⟨whole, _⟩ := Text.cutFirst?_eq cut
    simp [written, inductionHypothesis, whole]
  | case6 character rest _ _ inductionHypothesis =>
    rw [flatMap_written_literalBefore, inductionHypothesis]

/-- The property of a placeholder and its options, which stand behind the first comma. -/
def splitOptions (inside : List Char) : List Char × Option (List Char) :=
  match Text.cutFirst? ',' inside with
  | some (property, options) => (Text.trim property, some (Text.trim options))
  | none => (Text.trim inside, none)

end Piece

end DynamicSql.Template
