/-
This file holds statement text that has been checked: its placeholders name paths, and it has no
raw substitution and no opening that is never closed.
-/

import DynamicSql.Error
import DynamicSql.Path
import DynamicSql.Template.Placeholder

namespace DynamicSql.Template

/-- What is wrong with a text that is no static text. -/
inductive TextFault where
  | invalid (inside : List Char)
  | raw (inside : List Char)
  | unterminated (text : List Char)
  deriving DecidableEq

/-- The text of a placeholder as messages quote it. -/
def quotedPiece (piece : Piece) : String :=
  "`" ++ String.ofList piece.written ++ "`"

/-- The cause that a fault is. -/
def TextFault.cause : TextFault → Cause
  | .invalid inside => .note ("invalid placeholder " ++ quotedPiece (.placeholder inside))
  | .raw inside =>
    .unsupportedFeature ("raw substitution " ++ quotedPiece (.raw inside) ++
      " is not supported; use " ++ quotedPiece (.placeholder inside))
  | .unterminated text => .note ("unterminated placeholder `" ++ String.ofList text ++ "`")

/-- A part of a static text. A placeholder keeps its inside as it was written. -/
inductive TextPart where
  | literal (text : List Char)
  | placeholder (path : Path) (options : Option (List Char)) (inside : List Char)
  deriving DecidableEq

/-- Statement text with its placeholders read. -/
structure StaticText where
  parts : List TextPart
  deriving DecidableEq

namespace StaticText

/-- The part that a piece is. -/
def partOf : Piece → Except TextFault TextPart
  | .literal text => .ok (.literal text)
  | .placeholder inside =>
    match Path.read? (Piece.splitOptions inside).1 with
    | some path => .ok (.placeholder path (Piece.splitOptions inside).2 inside)
    | none => .error (.invalid inside)
  | .raw inside => .error (.raw inside)
  | .unterminated text => .error (.unterminated text)

/-- The parts that pieces are, or the first fault among them. -/
def partsOf : List Piece → Except TextFault (List TextPart)
  | [] => .ok []
  | piece :: rest =>
    match partOf piece with
    | .error fault => .error fault
    | .ok part =>
      match partsOf rest with
      | .error fault => .error fault
      | .ok parts => .ok (part :: parts)

/-- The static text of a text. -/
def read (text : List Char) : Except TextFault StaticText :=
  match partsOf (Piece.scan text) with
  | .error fault => .error fault
  | .ok parts => .ok ⟨parts⟩

/-- A part that is literal text. -/
def isLiteral : TextPart → Bool
  | .literal _ => true
  | .placeholder .. => false

/-- A text without placeholders. -/
def isStatic (text : StaticText) : Bool :=
  text.parts.all isLiteral

/-- The piece that a part was read from. -/
def pieceOf : TextPart → Piece
  | .literal text => .literal text
  | .placeholder _ _ inside => .placeholder inside

/-- The text as it was written. -/
def written (text : StaticText) : List Char :=
  text.parts.flatMap fun part => (pieceOf part).written

theorem pieceOf_partOf {piece : Piece} {part : TextPart} (read : partOf piece = .ok part) :
    pieceOf part = piece := by
  unfold partOf at read
  split at read
  · obtain rfl : TextPart.literal _ = part := by simpa using read
    rfl
  · split at read
    · obtain rfl : TextPart.placeholder _ _ _ = part := by simpa using read
      rfl
    · simp at read
  · simp at read
  · simp at read

theorem map_pieceOf_partsOf {pieces : List Piece} {parts : List TextPart}
    (read : partsOf pieces = .ok parts) : parts.map pieceOf = pieces := by
  induction pieces generalizing parts with
  | nil =>
    obtain rfl : [] = parts := by simpa [partsOf] using read
    rfl
  | cons piece rest inductionHypothesis =>
    unfold partsOf at read
    split at read
    · simp at read
    · next part readPart =>
      split at read
      · simp at read
      · next others readOthers =>
        obtain rfl : part :: others = parts := by simpa using read
        simp [pieceOf_partOf readPart, inductionHypothesis readOthers]

/-- A static text writes what it was read from. -/
theorem written_read {source : List Char} {text : StaticText} (isText : read source = .ok text) :
    text.written = source := by
  unfold read at isText
  split at isText
  · simp at isText
  · next parts readParts =>
    obtain rfl : (⟨parts⟩ : StaticText) = text := by simpa using isText
    have pieces := map_pieceOf_partsOf readParts
    have back := Piece.flatMap_written_scan source
    rw [← pieces, List.flatMap_map] at back
    exact back

end StaticText

end DynamicSql.Template
