/-
This file reads rendered text back. Characters that spell signs are cut exactly at the placeholders
that stand at the holes, whatever has been joined or taken away between them: no letter is an
opening brace, so nothing but a placeholder can open one. The markers and paths read from the text
are those of the holes.
-/

import DynamicSql.Proofs.Template.Direct
import DynamicSql.Proofs.Template.Requirement

namespace DynamicSql.Template

/-! ### Cutting -/

namespace Piece

theorem scan_cons {character : Char} {rest : List Char}
    (unopened : character = '#' ∨ character = '$' → rest.head? ≠ some '{') :
    scan (character :: rest) = literalBefore character (scan rest) := by
  rw [scan]
  · rintro after rfl rfl
    exact unopened (Or.inl rfl) rfl
  · rintro after rfl rfl
    exact unopened (Or.inr rfl) rfl

theorem scan_placeholder {inside : List Char} (closed : '}' ∉ inside) (rest : List Char) :
    scan ((Piece.placeholder inside).written ++ rest) = .placeholder inside :: scan rest := by
  have shape : (Piece.placeholder inside).written ++ rest =
      '#' :: '{' :: (inside ++ '}' :: rest) := by simp [written]
  rw [shape, scan]
  split
  · next uncut =>
    rw [Text.cutFirst?_append closed] at uncut
    cases uncut
  · next front after cut =>
    rw [Text.cutFirst?_append closed] at cut
    obtain ⟨rfl, rfl⟩ : inside = front ∧ rest = after := by simpa using cut
    rfl

end Piece

namespace StaticText

/-! ### Reading the pieces -/

/-- Parts behind one more literal character. -/
def letterBefore (character : Char) : List TextPart → List TextPart
  | .literal text :: parts => .literal (character :: text) :: parts
  | parts => .literal [character] :: parts

theorem partsOf_literalBefore {pieces : List Piece} {parts : List TextPart}
    (read : partsOf pieces = .ok parts) (character : Char) :
    partsOf (Piece.literalBefore character pieces) = .ok (letterBefore character parts) := by
  cases pieces with
  | nil =>
    obtain rfl := Except.ok.inj read
    rfl
  | cons piece others =>
    obtain ⟨part, later, first, rest, rfl⟩ := exists_of_partsOf_cons read
    cases piece with
    | literal text =>
      obtain rfl := Except.ok.inj first
      exact partsOf_cons rfl rest
    | placeholder inside =>
      obtain ⟨path, _, rfl⟩ := exists_of_partOf_placeholder first
      exact partsOf_cons rfl read
    | raw inside => cases first
    | unterminated text => cases first

@[simp]
theorem markedText_letterBefore (dialect : Dialect) (position : Nat) (character : Char)
    (parts : List TextPart) :
    Execution.markedText dialect position (letterBefore character parts) =
      character :: Execution.markedText dialect position parts := by
  unfold letterBefore
  split <;> rfl

@[simp]
theorem placeholderPaths_letterBefore (character : Char) (parts : List TextPart) :
    Execution.placeholderPaths (letterBefore character parts) =
      Execution.placeholderPaths parts := by
  unfold letterBefore
  split <;> rfl

end StaticText

/-! ### Reading what spells signs -/

/-- What is read from a text that spells signs: the text with markers at the holes, and a path for
each hole, whose placeholder stands for the hole. -/
structure ReadsAs {Hole : Type} (stands : Hole → List Char → Prop) (signs : List (Sign Hole))
    (parts : List TextPart) : Prop where
  marked : ∀ dialect position, Execution.markedText dialect position parts =
    Direct.markedText dialect position signs
  paths : List.Forall₂ (fun path content => ∃ inside, Names path inside ∧ stands content inside)
    (Execution.placeholderPaths parts) (Direct.arguments signs)

variable {Hole : Type} {stands : Hole → List Char → Prop}

/-- No character that begins the spelling of signs is an opening brace. -/
theorem Spells.head?_ne {signs : List (Sign Hole)} {text : List Char}
    (spells : Spells stands signs text) : text.head? ≠ some '{' := by
  cases spells with
  | nil => simp
  | letter plain _ => simpa using plain
  | hole _ _ _ =>
    intro equal
    cases equal

theorem Spells.read {signs : List (Sign Hole)} {text : List Char}
    (spells : Spells stands signs text)
    (names : ∀ content inside, stands content inside → ∃ path, Names path inside) :
    ∃ parts, StaticText.read text = .ok ⟨parts⟩ ∧ ReadsAs stands signs parts := by
  suffices cut : ∃ parts, StaticText.partsOf (Piece.scan text) = .ok parts ∧
      ReadsAs stands signs parts by
    obtain ⟨parts, read, readsAs⟩ := cut
    exact ⟨parts, by rw [StaticText.read, read], readsAs⟩
  induction spells with
  | nil =>
    refine ⟨[], ?_, fun _ _ => rfl, .nil⟩
    rw [Piece.scan]
    rfl
  | @letter character signs text plain rest inductionHypothesis =>
    obtain ⟨parts, read, readsAs⟩ := inductionHypothesis
    refine ⟨StaticText.letterBefore character parts, ?_, fun dialect position => ?_, ?_⟩
    · rw [Piece.scan_cons fun _ => rest.head?_ne]
      exact StaticText.partsOf_literalBefore read character
    · rw [StaticText.markedText_letterBefore, readsAs.marked]
      rfl
    · rw [StaticText.placeholderPaths_letterBefore]
      exact readsAs.paths
  | @hole content inside signs text standing closed rest inductionHypothesis =>
    obtain ⟨parts, read, readsAs⟩ := inductionHypothesis
    obtain ⟨path, isPath⟩ := names content inside standing
    refine ⟨.placeholder path (Piece.splitOptions inside).2 inside :: parts, ?_,
      fun dialect position => ?_, ?_⟩
    · rw [Piece.scan_placeholder closed]
      exact StaticText.partsOf_cons (StaticText.partOf_placeholder isPath) read
    · show dialect.marker position ++ _ = dialect.marker position ++ _
      rw [readsAs.marked]
    · exact .cons ⟨inside, isPath, standing⟩ readsAs.paths

end DynamicSql.Template
