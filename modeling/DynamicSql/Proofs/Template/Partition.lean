/-
This file says that cutting a text at its placeholders partitions it. The pieces write the text
back, literal pieces are as long as they can be, and what stands in braces ends at the first closing
brace. A text can be cut in this way only once: scanning what such pieces write finds the pieces
again, by induction on the pieces. A static text is therefore read again from what it writes.
-/

import DynamicSql.Proofs.Template.Placement
import Mathlib.Data.List.Chain

namespace DynamicSql

theorem Text.cutFirst?_eq_none_iff {separator : Char} {text : List Char} :
    cutFirst? separator text = none ↔ separator ∉ text := by
  refine ⟨fun uncut member => ?_, cutFirst?_eq_none⟩
  obtain ⟨before, after, rfl, absent⟩ := List.eq_append_cons_of_mem member
  rw [cutFirst?_append absent] at uncut
  cases uncut

namespace Template

/-! ### Openings -/

/-- A text begins with the opening of a placeholder or of a raw substitution. -/
def BeginsOpen (text : List Char) : Prop :=
  ['#', '{'] <+: text ∨ ['$', '{'] <+: text

/-- Somewhere in a text a placeholder or a raw substitution is opened. -/
def HasOpening (text : List Char) : Prop :=
  ['#', '{'] <:+: text ∨ ['$', '{'] <:+: text

theorem beginsOpen_cons {character : Char} {text : List Char} :
    BeginsOpen (character :: text) ↔
      (character = '#' ∨ character = '$') ∧ text.head? = some '{' := by
  have opens (mark : Char) : [mark, '{'] <+: character :: text ↔
      character = mark ∧ text.head? = some '{' := by
    rw [List.cons_prefix_cons, List.singleton_prefix_iff_head?_eq_some, eq_comm (a := mark)]
  unfold BeginsOpen
  rw [opens, opens, or_and_right]

theorem hasOpening_cons {character : Char} {text : List Char} :
    HasOpening (character :: text) ↔ BeginsOpen (character :: text) ∨ HasOpening text := by
  unfold HasOpening BeginsOpen
  rw [List.infix_cons_iff, List.infix_cons_iff, or_or_or_comm]

theorem not_hasOpening_nil : ¬ HasOpening [] := by
  rintro (opened | opened) <;> cases List.eq_nil_of_infix_nil opened

namespace Piece

/-! ### Partitions -/

/-- What a piece is in a partition. A literal text has something in it and nothing is opened there;
what stands in braces has no closing brace; what is not terminated is opened and has no closing
brace either. -/
def IsSound : Piece → Prop
  | .literal text => text ≠ [] ∧ ¬ HasOpening text
  | .placeholder inside => '}' ∉ inside
  | .raw inside => '}' ∉ inside
  | .unterminated text => BeginsOpen text ∧ '}' ∉ text

/-- One piece can stand before another one: no literal text before a literal text, and what is not
terminated before nothing. -/
def MayPrecede : Piece → Piece → Prop
  | .literal _, next => ∀ text, next ≠ .literal text
  | .placeholder _, _ => True
  | .raw _, _ => True
  | .unterminated _, _ => False

/-- Pieces that partition what they write. -/
structure IsPartition (pieces : List Piece) : Prop where
  sound : ∀ piece ∈ pieces, piece.IsSound
  chained : pieces.IsChain MayPrecede

variable {piece : Piece} {pieces : List Piece} {character : Char} {text : List Char}

theorem isPartition_nil : IsPartition [] :=
  ⟨fun _ member => absurd member List.not_mem_nil, .nil⟩

theorem isPartition_cons : IsPartition (piece :: pieces) ↔
    piece.IsSound ∧ (∀ next ∈ pieces.head?, piece.MayPrecede next) ∧ IsPartition pieces := by
  constructor
  · rintro ⟨sound, chained⟩
    obtain ⟨first, others⟩ := List.forall_mem_cons.1 sound
    obtain ⟨precedes, rest⟩ := List.isChain_cons.1 chained
    exact ⟨first, precedes, others, rest⟩
  · rintro ⟨first, precedes, others, rest⟩
    exact ⟨List.forall_mem_cons.2 ⟨first, others⟩, List.isChain_cons.2 ⟨precedes, rest⟩⟩

/-- What is not terminated stands alone, or last. -/
theorem isPartition_unterminated (opened : BeginsOpen text) (unclosed : '}' ∉ text) :
    IsPartition [.unterminated text] :=
  isPartition_cons.2 ⟨⟨opened, unclosed⟩, nofun, isPartition_nil⟩

/-! ### Scanning partitions -/

/-- A character that opens nothing makes a literal piece longer, or a new one before all others. -/
theorem IsPartition.literalBefore (isPartition : IsPartition pieces)
    (unopened : ¬ BeginsOpen (character :: pieces.flatMap written)) :
    IsPartition (literalBefore character pieces) := by
  unfold Piece.literalBefore
  split
  · next text rest =>
    obtain ⟨⟨filled, noOpening⟩, precedes, others⟩ := isPartition_cons.1 isPartition
    refine isPartition_cons.2 ⟨⟨List.cons_ne_nil _ _, ?_⟩, precedes, others⟩
    rw [hasOpening_cons, not_or, beginsOpen_cons]
    refine ⟨fun opened => unopened (beginsOpen_cons.2 ⟨opened.1, ?_⟩), noOpening⟩
    rw [List.flatMap_cons, written, List.head?_append_of_ne_nil _ filled]
    exact opened.2
  · next noLiteral =>
    refine isPartition_cons.2 ⟨⟨List.cons_ne_nil _ _, ?_⟩, fun next isNext => ?_, isPartition⟩
    · rw [hasOpening_cons, not_or, beginsOpen_cons]
      exact ⟨by simp, not_hasOpening_nil⟩
    · obtain ⟨rest, rfl⟩ := List.head?_eq_some_iff.1 isNext
      rintro text rfl
      exact noLiteral text rest rfl

theorem isPartition_scan (text : List Char) : IsPartition (scan text) := by
  fun_induction scan text with
  | case1 => exact isPartition_nil
  | case2 rest uncut =>
    refine isPartition_unterminated (.inl ⟨rest, rfl⟩) ?_
    simpa using Text.cutFirst?_eq_none_iff.1 uncut
  | case3 rest inside after cut smaller inductionHypothesis =>
    exact isPartition_cons.2 ⟨(Text.cutFirst?_eq cut).2, fun _ _ => trivial, inductionHypothesis⟩
  | case4 rest uncut =>
    refine isPartition_unterminated (.inr ⟨rest, rfl⟩) ?_
    simpa using Text.cutFirst?_eq_none_iff.1 uncut
  | case5 rest inside after cut smaller inductionHypothesis =>
    exact isPartition_cons.2 ⟨(Text.cutFirst?_eq cut).2, fun _ _ => trivial, inductionHypothesis⟩
  | case6 character rest noPlaceholder noRaw inductionHypothesis =>
    refine inductionHypothesis.literalBefore fun opened => ?_
    rw [flatMap_written_scan, beginsOpen_cons, List.head?_eq_some_iff] at opened
    obtain ⟨rfl | rfl, after, rfl⟩ := opened
    · exact noPlaceholder after rfl rfl
    · exact noRaw after rfl rfl

/-! ### No other partition -/

theorem scan_raw {inside : List Char} (closed : '}' ∉ inside) (rest : List Char) :
    scan ((Piece.raw inside).written ++ rest) = .raw inside :: scan rest := by
  have shape : (Piece.raw inside).written ++ rest = '$' :: '{' :: (inside ++ '}' :: rest) := by
    simp [written]
  rw [shape, scan]
  split
  · next uncut =>
    rw [Text.cutFirst?_append closed] at uncut
    cases uncut
  · next front after cut =>
    rw [Text.cutFirst?_append closed] at cut
    obtain ⟨rfl, rfl⟩ : inside = front ∧ rest = after := by simpa using cut
    rfl

theorem scan_unterminated (opened : BeginsOpen text) (unclosed : '}' ∉ text) :
    scan text = [.unterminated text] := by
  obtain ⟨rest, rfl⟩ | ⟨rest, rfl⟩ := opened
  all_goals
    have uncut : Text.cutFirst? '}' rest = none := Text.cutFirst?_eq_none (by simpa using unclosed)
    rw [List.cons_append, List.cons_append, List.nil_append, scan]
    split
    · rfl
    · next cut =>
      rw [uncut] at cut
      cases cut

/-- Behind a literal text the next piece begins with an opening, so not with a brace. -/
theorem head?_flatMap_written_ne (isPartition : IsPartition (.literal text :: pieces)) :
    (pieces.flatMap written).head? ≠ some '{' := by
  obtain ⟨-, precedes, rest⟩ := isPartition_cons.1 isPartition
  cases pieces with
  | nil => exact nofun
  | cons next others =>
    have sound := (isPartition_cons.1 rest).1
    have apart := precedes next rfl
    cases next with
    | literal more => exact absurd rfl (apart more)
    | placeholder inside => simp [written]
    | raw inside => simp [written]
    | unterminated more =>
      obtain ⟨⟨behind, rfl⟩ | ⟨behind, rfl⟩, -⟩ := sound <;> simp [written]

/-- A literal text before pieces that do not begin with one is cut as one piece. -/
theorem scan_literal (isPartition : IsPartition (.literal text :: pieces))
    (scanned : scan (pieces.flatMap written) = pieces) :
    scan (text ++ pieces.flatMap written) = .literal text :: pieces := by
  induction text with
  | nil => exact absurd rfl (isPartition_cons.1 isPartition).1.1
  | cons character rest inductionHypothesis =>
    obtain ⟨⟨-, noOpening⟩, precedes, others⟩ := isPartition_cons.1 isPartition
    rw [hasOpening_cons, not_or, beginsOpen_cons] at noOpening
    obtain ⟨unopened, noOpeningRest⟩ := noOpening
    cases rest with
    | nil =>
      rw [List.singleton_append, scan_cons fun _ => head?_flatMap_written_ne isPartition, scanned]
      cases pieces with
      | nil => rfl
      | cons next others =>
        cases next with
        | literal more => exact absurd rfl (precedes _ rfl more)
        | placeholder inside => rfl
        | raw inside => rfl
        | unterminated more => rfl
    | cons second rest =>
      have scannedRest := inductionHypothesis
        (isPartition_cons.2 ⟨⟨List.cons_ne_nil _ _, noOpeningRest⟩, precedes, others⟩)
      rw [List.cons_append, scan_cons, scannedRest]
      · rfl
      · exact fun isMark opens => unopened ⟨isMark, opens⟩

/-- Scanning what the pieces of a partition write finds the pieces. -/
theorem scan_flatMap_written (isPartition : IsPartition pieces) :
    scan (pieces.flatMap written) = pieces := by
  induction pieces with
  | nil => rw [List.flatMap_nil, scan]
  | cons piece rest inductionHypothesis =>
    obtain ⟨sound, precedes, others⟩ := isPartition_cons.1 isPartition
    rw [List.flatMap_cons]
    cases piece with
    | literal text => exact scan_literal isPartition (inductionHypothesis others)
    | placeholder inside => rw [scan_placeholder sound, inductionHypothesis others]
    | raw inside => rw [scan_raw sound, inductionHypothesis others]
    | unterminated text =>
      obtain rfl : rest = [] := by
        cases rest with
        | nil => rfl
        | cons next later => exact (precedes next rfl).elim
      rw [List.flatMap_nil, List.append_nil, written, scan_unterminated sound.1 sound.2]

/-! ### Static texts -/

/-- A piece of a static text: literal text, or a placeholder whose property is a path. -/
def IsReadable : Piece → Prop
  | .literal _ => True
  | .placeholder inside => ∃ path, Path.read? (splitOptions inside).1 = some path
  | .raw _ => False
  | .unterminated _ => False

theorem exists_partOf_iff : (∃ part, StaticText.partOf piece = .ok part) ↔ piece.IsReadable := by
  cases piece with
  | literal text => exact iff_of_true ⟨_, rfl⟩ trivial
  | placeholder inside =>
    constructor
    · rintro ⟨part, read⟩
      obtain ⟨path, names, -⟩ := StaticText.exists_of_partOf_placeholder read
      exact ⟨path, names⟩
    · rintro ⟨path, names⟩
      exact ⟨_, StaticText.partOf_placeholder names⟩
  | raw inside => exact iff_of_false nofun id
  | unterminated text => exact iff_of_false nofun id

theorem exists_partsOf_iff :
    (∃ parts, StaticText.partsOf pieces = .ok parts) ↔ ∀ piece ∈ pieces, piece.IsReadable := by
  induction pieces with
  | nil => exact iff_of_true ⟨[], rfl⟩ fun _ member => absurd member List.not_mem_nil
  | cons piece rest inductionHypothesis =>
    rw [List.forall_mem_cons, ← inductionHypothesis, ← exists_partOf_iff]
    constructor
    · rintro ⟨parts, read⟩
      obtain ⟨part, others, first, later, -⟩ := StaticText.exists_of_partsOf_cons read
      exact ⟨⟨part, first⟩, others, later⟩
    · rintro ⟨⟨part, first⟩, others, later⟩
      exact ⟨_, StaticText.partsOf_cons first later⟩

end Piece

/-- Every text is partitioned by its pieces, which write it back, and by no others. It is a static
text exactly if no piece is a raw substitution or not terminated and every placeholder names a path;
the static text writes the text, and is read again from what it writes. -/
theorem scan_partitions (text : List Char) :
    (∀ pieces, Piece.scan text = pieces ↔
      Piece.IsPartition pieces ∧ pieces.flatMap Piece.written = text) ∧
    ((∃ content, StaticText.read text = .ok content) ↔
      ∀ piece ∈ Piece.scan text, piece.IsReadable) ∧
    ∀ content, StaticText.read text = .ok content →
      content.written = text ∧ StaticText.read content.written = .ok content := by
  refine ⟨fun pieces => ⟨?_, ?_⟩, ?_, fun content isText => ?_⟩
  · rintro rfl
    exact ⟨Piece.isPartition_scan text, Piece.flatMap_written_scan text⟩
  · rintro ⟨isPartition, rfl⟩
    exact Piece.scan_flatMap_written isPartition
  · rw [← Piece.exists_partsOf_iff]
    constructor
    · rintro ⟨content, isText⟩
      exact ⟨content.parts, StaticText.partsOf_scan isText⟩
    · rintro ⟨parts, read⟩
      exact ⟨⟨parts⟩, by rw [StaticText.read, read]⟩
  · have back := StaticText.written_read isText
    exact ⟨back, back.symm ▸ isText⟩

end Template

end DynamicSql
