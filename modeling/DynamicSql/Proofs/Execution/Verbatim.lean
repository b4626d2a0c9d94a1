/-
This file proves that a statement of one text is bound as it is written. The text is read twice,
when it is accepted and again after it has been rendered; no name is in scope in between, so it is
rendered as it was written, and both readings find the same placeholders.

What they find is said without cutting the text into pieces: `Shows` puts a hole where a placeholder
stands and keeps every other character, braces included. What a placeholder stands for is said by
the first name of its path and what is followed from there.
-/

import DynamicSql.Proofs.Outcome
import DynamicSql.Proofs.Template.Placement
import DynamicSql.Proofs.Text.Blanks
import Mathlib.Data.List.Forall2

namespace DynamicSql

theorem Text.takeWhile_ne_separator (separator : Char) (text : List Char) :
    text.takeWhile (· != separator) = ((cutFirst? separator text).map Prod.fst).getD text := by
  induction text with
  | nil => rfl
  | cons character rest inductionHypothesis =>
    rw [cutFirst?, List.takeWhile_cons]
    by_cases same : character = separator
    · simp [same]
    · simp only [bne_iff_ne, ne_eq, same, not_false_eq_true, if_true, if_false,
        inductionHypothesis]
      cases cutFirst? separator rest <;> rfl

namespace Template

/-! ### Placeholders of a text -/

/-- The text shows the signs: a hole with its inside for each placeholder, which ends at the first
closing brace, and a letter for every other character. -/
inductive Shows : List Char → List (Sign (List Char)) → Prop
  | nil : Shows [] []
  | letter {character : Char} {rest : List Char} {signs : List (Sign (List Char))}
      (unopened : character = '#' ∨ character = '$' → rest.head? ≠ some '{')
      (shows : Shows rest signs) : Shows (character :: rest) (.letter character :: signs)
  | placeholder {inside rest : List Char} {signs : List (Sign (List Char))}
      (closed : '}' ∉ inside) (shows : Shows rest signs) :
      Shows ((Piece.placeholder inside).written ++ rest) (.hole inside :: signs)

/-- The signs of a piece. -/
def Piece.signs : Piece → List (Sign (List Char))
  | .literal text => Sign.ofText text
  | .placeholder inside => [.hole inside]
  | .raw inside => Sign.ofText (Piece.raw inside).written
  | .unterminated text => Sign.ofText text

theorem Piece.flatMap_signs_literalBefore (character : Char) (pieces : List Piece) :
    (literalBefore character pieces).flatMap signs =
      .letter character :: pieces.flatMap signs := by
  unfold literalBefore
  split <;> simp [signs, Sign.ofText]

/-- A text shows the signs of its pieces and no others. -/
theorem Shows.eq_flatMap_signs {text : List Char} {signs : List (Sign (List Char))}
    (shows : Shows text signs) : signs = (Piece.scan text).flatMap Piece.signs := by
  induction shows with
  | nil =>
    rw [Piece.scan]
    rfl
  | letter unopened _ inductionHypothesis =>
    rw [Piece.scan_cons unopened, Piece.flatMap_signs_literalBefore, inductionHypothesis]
  | placeholder closed _ inductionHypothesis =>
    rw [Piece.scan_placeholder closed, List.flatMap_cons, inductionHypothesis]
    rfl

/-- A text that can be read shows signs, and is read as they are. -/
theorem exists_shows_of_partsOf {text : List Char} {parts : List TextPart}
    (read : StaticText.partsOf (Piece.scan text) = .ok parts) :
    ∃ signs, Shows text signs ∧ ReadsAs Eq signs parts := by
  fun_induction Piece.scan text generalizing parts with
  | case1 =>
    obtain rfl := Except.ok.inj read
    exact ⟨[], .nil, fun _ _ => rfl, .nil⟩
  | case2 rest uncut =>
    obtain ⟨part, others, readPiece, -⟩ := StaticText.exists_of_partsOf_cons read
    cases readPiece
  | case3 rest inside after cut smaller inductionHypothesis =>
    obtain ⟨part, others, readPiece, readOthers, rfl⟩ := StaticText.exists_of_partsOf_cons read
    obtain ⟨path, names, rfl⟩ := StaticText.exists_of_partOf_placeholder readPiece
    obtain ⟨whole, closed⟩ := Text.cutFirst?_eq cut
    obtain ⟨signs, shows, readsAs⟩ := inductionHypothesis readOthers
    have shape : '#' :: '{' :: rest = (Piece.placeholder inside).written ++ after := by
      simp [Piece.written, whole]
    refine ⟨.hole inside :: signs, shape ▸ .placeholder closed shows, fun dialect position => ?_,
      .cons ⟨inside, names, rfl⟩ readsAs.paths⟩
    show dialect.marker position ++ _ = dialect.marker position ++ _
    rw [readsAs.marked]
  | case4 rest uncut =>
    obtain ⟨part, others, readPiece, -⟩ := StaticText.exists_of_partsOf_cons read
    cases readPiece
  | case5 rest inside after cut smaller inductionHypothesis =>
    obtain ⟨part, others, readPiece, -⟩ := StaticText.exists_of_partsOf_cons read
    cases readPiece
  | case6 character rest noPlaceholder noRaw inductionHypothesis =>
    obtain ⟨others, readOthers⟩ := StaticText.exists_of_partsOf_literalBefore read
    obtain rfl : StaticText.letterBefore character others = parts :=
      Except.ok.inj ((StaticText.partsOf_literalBefore readOthers character).symm.trans read)
    obtain ⟨signs, shows, readsAs⟩ := inductionHypothesis readOthers
    refine ⟨.letter character :: signs, .letter ?_ shows, fun dialect position => ?_, ?_⟩
    · intro opening opened
      obtain ⟨after, rfl⟩ : ∃ after, rest = '{' :: after := List.head?_eq_some_iff.1 opened
      rcases opening with rfl | rfl
      · exact noPlaceholder after rfl rfl
      · exact noRaw after rfl rfl
    · rw [StaticText.markedText_letterBefore, readsAs.marked]
      rfl
    · rw [StaticText.placeholderPaths_letterBefore]
      exact readsAs.paths

/-! ### What a placeholder stands for -/

theorem Piece.splitOptions_fst (inside : List Char) :
    (splitOptions inside).1 = Text.trim (inside.takeWhile (· != ',')) := by
  rw [Text.takeWhile_ne_separator, splitOptions]
  split <;> simp [*]

/-- What the first name of a path stands for: the whole parameter if it is the name of the
parameter or if the parameter has no entries of its own, else the entry of that name. -/
def rootValue? (name : String) : Value → Option Value
  | .map entries => if name = "_parameter" then some (.map entries) else Fields.get? name entries
  | .record typeName fields =>
    if name = "_parameter" then some (.record typeName fields) else Fields.get? name fields
  | parameter => some parameter

theorem resolveParameter_eq {path : Path} (readable : path.IsReadable) (parameter : Value) :
    resolveParameter parameter path =
      (rootValue? path.root parameter).bind (Value.entry? path.tail) := by
  obtain ⟨name, steps, segments, -, -⟩ := readable
  have root : path.root = name := by rw [Path.root, segments]
  have first : Value.entry? path parameter =
      (Value.step? (.field name) parameter).bind (Value.entry? path.tail) := by
    rw [Value.entry?, segments, Value.follow?]
    unfold Value.entry? Path.tail
    rw [segments]
    rfl
  unfold resolveParameter rootValue? parameterName
  rw [root, first]
  by_cases whole : name = "_parameter"
  · cases parameter <;> simp [whole]
  · cases parameter <;> simp [whole, Value.isMap, Value.isRecord, Value.step?, Value.get?]

/-- The placeholder with the inside stands for the value: what its property, which is all before
the first comma, leads to in the parameter, or null. -/
def StandsFor (parameter : Value) (inside : List Char) (value : Value) : Prop :=
  ∃ path, Path.read? (Text.trim (inside.takeWhile (· != ','))) = some path ∧
    value = ((rootValue? path.root parameter).bind (Value.entry? path.tail)).getD .null

theorem standsFor_iff {inside : List Char} {path : Path}
    (names : Path.read? (Text.trim (inside.takeWhile (· != ','))) = some path)
    (parameter value : Value) : StandsFor parameter inside value ↔
      value = ((rootValue? path.root parameter).bind (Value.entry? path.tail)).getD .null := by
  rw [StandsFor, names]
  constructor
  · rintro ⟨_, ⟨⟩, isValue⟩
    exact isValue
  · exact fun isValue => ⟨path, rfl, isValue⟩

/-! ### Rendering -/

/-- Without names in scope a text is rendered as it was written. -/
theorem writeText_of_scopes_eq_nil (content : StaticText) {draft : Draft}
    (nothing : draft.scopes = []) : writeText content draft = draft.write content.written := by
  obtain ⟨parts⟩ := content
  show parts.foldl writePart draft = draft.write (parts.flatMap fun part => _)
  induction parts generalizing draft with
  | nil => simp [Draft.write]
  | cons part rest inductionHypothesis =>
    have first : writePart draft part = draft.write (StaticText.pieceOf part).written := by
      cases part with
      | literal text => rfl
      | placeholder path options inside =>
        have unbound : draft.bindingFor path.root = none := by
          rw [Draft.bindingFor, nothing, List.find?_nil]
        simp only [writePart, writePlaceholder, unbound, StaticText.pieceOf]
    have nothingLater : (draft.write (StaticText.pieceOf part).written).scopes = [] := nothing
    rw [List.foldl_cons, first, inductionHypothesis nothingLater]
    simp [Draft.write]

end Template

namespace Execution

open Template (Shows StandsFor StaticText Sign)

/-- The text is rendered as it was written, and what is not bound is looked up in the parameter. -/
theorem bind_eq_bindText (settings : Settings) {statement : Statement} (parameter : Value)
    {source : List Char} {content : StaticText} (isRead : StaticText.read source = .ok content)
    (isRoot : statement.root = .text content) :
    bind settings statement parameter =
      bindText settings statement (Template.resolveParameter parameter)
        (String.ofList source) := by
  have rendered : Template.writeText content .empty =
      { Template.Draft.empty with text := source } := by
    rw [Template.writeText_of_scopes_eq_nil content rfl, StaticText.written_read isRead]
    rfl
  simp only [bind, Template.Node.render, isRoot, Template.Node.apply, rendered]
  rfl

/-- A statement of one text is bound, whatever the parameter. Its text is the one that was written,
with the marker of each position at the placeholder of that position, without the blanks around it
and on request with one space for every run of blanks; its arguments are what the placeholders stand
for, in the same order. -/
theorem exists_bind_text (settings : Settings) (statement : Statement) (parameter : Value)
    {source : List Char} {content : StaticText} (isRead : StaticText.read source = .ok content)
    (isRoot : statement.root = .text content) :
    ∃ signs bound, (∀ others, Shows source others ↔ others = signs) ∧
      bind settings statement parameter = .ok bound ∧
      (let marked := Text.trim (Template.Direct.markedText settings.dialect 1 signs)
       bound.sql.toList = if settings.shrinkBlanks then Text.squeeze marked else marked) ∧
      List.Forall₂ (StandsFor parameter) (Template.Direct.arguments signs) bound.arguments := by
  obtain ⟨signs, shows, readsAs⟩ :=
    Template.exists_shows_of_partsOf (StaticText.partsOf_scan isRead)
  have only : ∀ others, Shows source others ↔ others = signs := fun others =>
    ⟨fun showsOthers => showsOthers.eq_flatMap_signs.trans shows.eq_flatMap_signs.symm,
      fun same => same ▸ shows⟩
  have isBound := bind_eq_bindText settings parameter isRead isRoot
  unfold bindText at isBound
  rw [String.toList_ofList, isRead] at isBound
  refine ⟨signs, _, only, isBound, ?_, ?_⟩
  · show (String.ofList _).toList = _
    rw [String.toList_ofList, tidy, readsAs.marked, Text.collapse_eq_squeeze]
  · refine List.forall₂_map_right_iff.2 (List.Forall₂.flip (readsAs.paths.imp ?_))
    rintro path _ ⟨inside, names, rfl⟩
    rw [Template.Names, Template.Piece.splitOptions_fst] at names
    refine (Template.standsFor_iff names _ _).2 ?_
    rw [Template.resolveParameter_eq (Path.isReadable_of_read? names)]

/-- A text with a placeholder that has an opening in its options, one for the whole parameter, and
braces and signs that belong to neither. -/
def braced : List Char :=
  "\x7b #\x7buser.name, type=#\x7bX\x7d \x7d # $ #\x7b_parameter\x7d ".toList

/-- A parameter with a name in it. -/
def userParameter : Value :=
  .map [("user", .map [("name", .string "first")])]

/-- The options end with the first closing brace; the one behind it belongs to the text. -/
theorem exists_bind_text_braced :
    ∃ content signs bound, StaticText.read braced = .ok content ∧
      (∀ others, Shows braced others ↔ others = signs) ∧
      Template.Direct.arguments signs = ["user.name, type=#\x7bX".toList, "_parameter".toList] ∧
      bind .standard (Template.statementOf (.text content)) userParameter = .ok bound ∧
      bound.sql = "\x7b ? \x7d # $ ?" ∧ bound.arguments = [.string "first", userParameter] := by
  have accepted : (StaticText.read braced).isOk = true := by decide +kernel
  obtain ⟨content, isRead⟩ := isOk_iff_exists.1 accepted
  obtain ⟨signs, bound, only, isBound, isText, areArguments⟩ :=
    exists_bind_text .standard (Template.statementOf (.text content)) userParameter isRead rfl
  obtain rfl := ((only signs).2 rfl).eq_flatMap_signs
  have insides : Template.Direct.arguments
      ((Template.Piece.scan braced).flatMap Template.Piece.signs) =
        ["user.name, type=#\x7bX".toList, "_parameter".toList] := by
    decide +kernel
  have marked : Text.trim (Template.Direct.markedText .mysql 1
      ((Template.Piece.scan braced).flatMap Template.Piece.signs)) =
        "\x7b ? \x7d # $ ?".toList := by
    decide +kernel
  refine ⟨content, _, bound, isRead, only, insides, isBound,
    String.toList_inj.1 (isText.trans marked), ?_⟩
  have name : Path.read? (Text.trim ("user.name, type=#\x7bX".toList.takeWhile (· != ','))) =
      some ⟨[.field "user", .field "name"]⟩ := by
    decide +kernel
  have whole : Path.read? (Text.trim ("_parameter".toList.takeWhile (· != ','))) =
      some ⟨[.field "_parameter"]⟩ := by
    decide +kernel
  rw [insides] at areArguments
  generalize bound.arguments = arguments at areArguments ⊢
  obtain _ | ⟨isName, _ | ⟨isWhole, ⟨⟩⟩⟩ := areArguments
  rw [Template.standsFor_iff name] at isName
  rw [Template.standsFor_iff whole] at isWhole
  rw [isName, isWhole]
  rfl

end Execution

end DynamicSql
