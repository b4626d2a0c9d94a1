/-
This file says where placeholders are well placed in a text, without cutting the text: each opening
begins a placeholder that is closed and names a path, and there is no raw substitution. Exactly
these texts can be read. Rendering a plain template whose texts have been read gives such a text,
for every parameter: whatever clauses cut away and loops join, the text goes on spelling signs.
-/

import DynamicSql.Proofs.Template.Bindings
import DynamicSql.Proofs.Template.Reading
import DynamicSql.Template.Rendering

namespace DynamicSql.Template

/-! ### Well placed placeholders -/

/-- The openings of a text are those of placeholders that are closed and name paths. -/
inductive WellPlaced : List Char → Prop
  | nil : WellPlaced []
  | letter {character : Char} {rest : List Char}
      (unopened : character = '#' ∨ character = '$' → rest.head? ≠ some '{')
      (wellPlaced : WellPlaced rest) : WellPlaced (character :: rest)
  | placeholder {inside rest : List Char} (closed : '}' ∉ inside)
      (names : ∃ path, Names path inside) (wellPlaced : WellPlaced rest) :
      WellPlaced ((Piece.placeholder inside).written ++ rest)

/-- Pieces can be read if they can be read behind a letter. -/
theorem StaticText.exists_of_partsOf_literalBefore {character : Char} {pieces : List Piece}
    {parts : List TextPart}
    (read : partsOf (Piece.literalBefore character pieces) = .ok parts) :
    ∃ others, partsOf pieces = .ok others := by
  unfold Piece.literalBefore at read
  split at read
  · obtain ⟨part, others, -, readOthers, -⟩ := exists_of_partsOf_cons read
    exact ⟨_, partsOf_cons rfl readOthers⟩
  · obtain ⟨part, others, -, readOthers, -⟩ := exists_of_partsOf_cons read
    exact ⟨others, readOthers⟩

theorem wellPlaced_of_partsOf {text : List Char} {parts : List TextPart}
    (read : StaticText.partsOf (Piece.scan text) = .ok parts) : WellPlaced text := by
  fun_induction Piece.scan text generalizing parts with
  | case1 => exact .nil
  | case2 rest uncut =>
    obtain ⟨part, others, readPiece, -⟩ := StaticText.exists_of_partsOf_cons read
    cases readPiece
  | case3 rest inside after cut smaller inductionHypothesis =>
    obtain ⟨part, others, readPiece, readOthers, -⟩ := StaticText.exists_of_partsOf_cons read
    obtain ⟨path, names, -⟩ := StaticText.exists_of_partOf_placeholder readPiece
    obtain ⟨whole, closed⟩ := Text.cutFirst?_eq cut
    have shape : '#' :: '{' :: rest = (Piece.placeholder inside).written ++ after := by
      simp [Piece.written, whole]
    rw [shape]
    exact .placeholder closed ⟨path, names⟩ (inductionHypothesis readOthers)
  | case4 rest uncut =>
    obtain ⟨part, others, readPiece, -⟩ := StaticText.exists_of_partsOf_cons read
    cases readPiece
  | case5 rest inside after cut smaller inductionHypothesis =>
    obtain ⟨part, others, readPiece, -⟩ := StaticText.exists_of_partsOf_cons read
    cases readPiece
  | case6 character rest noPlaceholder noRaw inductionHypothesis =>
    obtain ⟨others, readOthers⟩ := StaticText.exists_of_partsOf_literalBefore read
    refine .letter ?_ (inductionHypothesis readOthers)
    intro opening opened
    obtain ⟨after, rfl⟩ : ∃ after, rest = '{' :: after := List.head?_eq_some_iff.1 opened
    rcases opening with rfl | rfl
    · exact noPlaceholder after rfl rfl
    · exact noRaw after rfl rfl

theorem WellPlaced.partsOf {text : List Char} (wellPlaced : WellPlaced text) :
    ∃ parts, StaticText.partsOf (Piece.scan text) = .ok parts := by
  induction wellPlaced with
  | nil => exact ⟨[], by rw [Piece.scan]; rfl⟩
  | @letter character rest unopened _ inductionHypothesis =>
    obtain ⟨parts, read⟩ := inductionHypothesis
    rw [Piece.scan_cons unopened]
    exact ⟨_, StaticText.partsOf_literalBefore read character⟩
  | @placeholder inside rest closed names _ inductionHypothesis =>
    obtain ⟨parts, read⟩ := inductionHypothesis
    obtain ⟨path, names⟩ := names
    rw [Piece.scan_placeholder closed]
    exact ⟨_, StaticText.partsOf_cons (StaticText.partOf_placeholder names) read⟩

/-- The texts that can be read are those whose placeholders are well placed. -/
theorem exists_read_iff (text : List Char) :
    (∃ content, StaticText.read text = .ok content) ↔ WellPlaced text := by
  constructor
  · rintro ⟨content, read⟩
    exact wellPlaced_of_partsOf (StaticText.partsOf_scan read)
  · intro wellPlaced
    obtain ⟨parts, read⟩ := wellPlaced.partsOf
    exact ⟨⟨parts⟩, by rw [StaticText.read, read]⟩

/-! ### Texts that spell signs -/

/-- The text spells some signs, a placeholder that names a path at each hole. -/
def Spelled (text : List Char) : Prop :=
  ∃ signs : List (Sign Unit), Spells (fun _ inside => ∃ path, Names path inside) signs text

namespace Spelled

variable {text : List Char}

theorem nil : Spelled [] :=
  ⟨[], .nil⟩

theorem wellPlaced (spelled : Spelled text) : WellPlaced text := by
  obtain ⟨signs, spells⟩ := spelled
  obtain ⟨parts, read, -⟩ := spells.read fun _ _ => id
  exact (exists_read_iff text).1 ⟨_, read⟩

theorem append {more : List Char} (first : Spelled text) (second : Spelled more) :
    Spelled (text ++ more) := by
  obtain ⟨signs, spells⟩ := first
  obtain ⟨others, spellsMore⟩ := second
  exact ⟨_, spells.append spellsMore⟩

theorem ofText (plain : '{' ∉ text) : Spelled text :=
  ⟨_, .ofText plain⟩

theorem placeholder {inside : List Char} {path : Path} (names : Names path inside)
    (closed : '}' ∉ inside) : Spelled (Piece.placeholder inside).written := by
  refine ⟨[.hole ()], ?_⟩
  rw [← List.append_nil (Piece.written _)]
  exact .hole ⟨path, names⟩ closed .nil

theorem trim (spelled : Spelled text) : Spelled (Text.trim text) := by
  obtain ⟨signs, spells⟩ := spelled
  exact ⟨_, spells.trim⟩

theorem wrap? {trimming : Trimming} (plain : trimming.IsPlain) (spelled : Spelled text)
    {clause : List Char} (wrapped : trimming.wrap? text = some clause) : Spelled clause := by
  obtain ⟨signs, spells⟩ := spelled
  have related := spells.wrap? plain
  rw [wrapped] at related
  generalize Sign.wrap? trimming signs = signsOfClause at related
  cases related with
  | some spellsClause => exact ⟨_, spellsClause⟩

theorem appendClause {clause : List Char} (spelled : Spelled text) (ofClause : Spelled clause) :
    Spelled (Template.appendClause text clause) := by
  obtain ⟨signs, spells⟩ := spelled
  obtain ⟨others, spellsClause⟩ := ofClause
  exact ⟨_, spells.appendClause spellsClause⟩

theorem assemble {header : Loop} (plain : header.IsPlain) {texts : List (List Char)}
    (spelled : ∀ text ∈ texts, Spelled text) : Spelled (header.assemble texts) := by
  have parts : ∃ parts : List (List (Sign Unit)),
      List.Forall₂ (Spells fun _ inside => ∃ path, Names path inside) parts texts := by
    induction texts with
    | nil => exact ⟨[], .nil⟩
    | cons text rest inductionHypothesis =>
      obtain ⟨⟨signs, spells⟩, others⟩ := List.forall_mem_cons.1 spelled
      obtain ⟨parts, spellsRest⟩ := inductionHypothesis others
      exact ⟨signs :: parts, .cons spells spellsRest⟩
  obtain ⟨parts, spells⟩ := parts
  exact ((ofText plain.opening).append ⟨_, .intercalate plain.separator spells⟩).append
    (ofText plain.closing)

end Spelled

/-! ### Rendering keeps texts spelled -/

/-- A draft whose generated names are sound and whose text spells signs. -/
structure Draft.IsSpelled (draft : Draft) : Prop where
  sound : draft.Sound
  text : Spelled draft.text

/-- A step that keeps drafts spelled, whatever it ends in. -/
def Keeps (step : Step) : Prop :=
  ∀ draft, draft.IsSpelled → (step draft).1.IsSpelled

namespace Draft.IsSpelled

variable {draft : Draft}

theorem empty : Draft.empty.IsSpelled :=
  ⟨sound_empty, .nil⟩

theorem write (isSpelled : draft.IsSpelled) {text : List Char} (spelled : Spelled text) :
    (draft.write text).IsSpelled :=
  ⟨isSpelled.sound.withText _, isSpelled.text.append spelled⟩

theorem pushNamed (isSpelled : draft.IsSpelled) (name : Option String) (value : Value)
    (origin : Origin) : (draft.pushNamed name value origin).IsSpelled := by
  refine ⟨isSpelled.sound.pushNamed name value origin, ?_⟩
  cases name with
  | none => exact isSpelled.text
  | some name => exact isSpelled.text

theorem keepScopes (isSpelled : draft.IsSpelled) (count : Nat) :
    (draft.keepScopes count).IsSpelled :=
  ⟨isSpelled.sound.keepScopes count, isSpelled.text⟩

theorem withText (isSpelled : draft.IsSpelled) {text : List Char} (spelled : Spelled text) :
    { draft with text }.IsSpelled :=
  ⟨isSpelled.sound.withText text, spelled⟩

theorem writePart (isSpelled : draft.IsSpelled) {content : StaticText} (isRead : content.IsRead)
    (plain : content.IsPlain) {part : TextPart} (member : part ∈ content.parts) :
    (Template.writePart draft part).IsSpelled := by
  cases part with
  | literal text => exact isSpelled.write (.ofText (plain text member))
  | placeholder path options inside =>
    obtain ⟨names, rfl, closed⟩ := isRead.placeholder member
    show (writePlaceholder path (Piece.splitOptions inside).2 inside draft).IsSpelled
    unfold writePlaceholder
    split
    · next generated later isBound =>
      have bound := isSpelled.sound.bindingFor isBound
      have renamed := bound.isReadable (Path.isReadable_of_read? names)
      refine write ⟨bound.sound, by rw [bound.text]; exact isSpelled.text⟩ ?_
      exact .placeholder (names_renamedInside renamed _) (not_mem_renamedInside renamed closed)
    · exact isSpelled.write (.placeholder names closed)

theorem writeText (isSpelled : draft.IsSpelled) {content : StaticText} (isRead : content.IsRead)
    (plain : content.IsPlain) : (Template.writeText content draft).IsSpelled := by
  have each : ∀ parts : List TextPart, parts ⊆ content.parts → ∀ draft : Draft,
      draft.IsSpelled → (parts.foldl Template.writePart draft).IsSpelled := by
    intro parts
    induction parts with
    | nil => exact fun _ _ isSpelled => isSpelled
    | cons part rest inductionHypothesis =>
      intro among draft isSpelled
      exact inductionHypothesis (List.subset_of_cons_subset among) _
        (isSpelled.writePart isRead plain (among List.mem_cons_self))
  exact each content.parts (List.Subset.refl _) draft isSpelled

end Draft.IsSpelled

namespace Keeps

variable {step second body : Step}

theorem pass : Keeps fun draft => (draft, none) :=
  fun _ isSpelled => isSpelled

theorem followedBy (keeps : Keeps step) (keepsSecond : Keeps second) :
    Keeps (step.followedBy second) := by
  intro draft isSpelled
  have kept := keeps draft isSpelled
  unfold Step.followedBy
  split
  · next later reached =>
    rw [reached] at kept
    exact keepsSecond later kept
  · next later fault reached =>
    rw [reached] at kept
    exact kept

theorem enclosed (keeps : Keeps step) : Keeps step.enclosed :=
  fun draft isSpelled => (keeps draft isSpelled).keepScopes _

theorem guarded (outcome : Draft → Bool) (keeps : Keeps step) (keepsSecond : Keeps second) :
    Keeps fun draft => if outcome draft then step draft else second draft := by
  intro draft isSpelled
  simp only
  split
  · exact keeps draft isSpelled
  · exact keepsSecond draft isSpelled

/-- What is written aside is spelled, and so is the draft behind it. -/
theorem aside (keeps : Keeps step) {draft later : Draft} {outcome : Except LoopFault (List Char)}
    (isSpelled : draft.IsSpelled) (written : step.aside draft = (later, outcome)) :
    later.IsSpelled ∧ ∀ text, outcome = .ok text → Spelled text := by
  have kept := keeps _ (isSpelled.withText .nil)
  unfold Step.aside at written
  obtain ⟨rfl, rfl⟩ := Prod.mk.inj written
  refine ⟨(kept.keepScopes _).withText isSpelled.text, fun text same => ?_⟩
  revert same
  split
  · intro same
    obtain rfl := Except.ok.inj same
    exact kept.text
  · intro same
    cases same

theorem writeClause {trimming : Trimming} (plain : trimming.IsPlain) (keeps : Keeps step) :
    Keeps (writeClause trimming step) := by
  intro draft isSpelled
  unfold Template.writeClause
  split
  · next written => exact (keeps.aside isSpelled written).1
  · next later text written =>
    obtain ⟨kept, spelled⟩ := keeps.aside isSpelled written
    split
    · next clause wrapped =>
      exact kept.withText (kept.text.appendClause ((spelled text rfl).wrap? plain wrapped))
    · exact kept

theorem repetition (header : Loop) (keeps : Keeps body) (entry : Value × Value) :
    Keeps (repetition header body entry) := by
  intro draft isSpelled
  exact keeps _ ((isSpelled.pushNamed header.index entry.1 .loop).pushNamed header.item entry.2
    .loop)

theorem repeatBody (header : Loop) (keeps : Keeps body) {entries : List (Value × Value)}
    {draft later : Draft} {outcome : Except LoopFault (List (List Char))}
    (isSpelled : draft.IsSpelled)
    (written : repeatBody header body entries draft = (later, outcome)) :
    later.IsSpelled ∧ ∀ texts, outcome = .ok texts → ∀ text ∈ texts, Spelled text := by
  induction entries generalizing draft later outcome with
  | nil =>
    obtain ⟨rfl, rfl⟩ := Prod.mk.inj written
    refine ⟨isSpelled, fun texts same => ?_⟩
    obtain rfl := Except.ok.inj same
    simp
  | cons entry rest inductionHypothesis =>
    unfold Template.repeatBody at written
    split at written
    · next first =>
      obtain ⟨rfl, rfl⟩ := Prod.mk.inj written
      exact ⟨((keeps.repetition header entry).aside isSpelled first).1, by simp⟩
    · next middle text first =>
      obtain ⟨kept, spelled⟩ := (keeps.repetition header entry).aside isSpelled first
      split at written
      · next others =>
        obtain ⟨rfl, rfl⟩ := Prod.mk.inj written
        exact ⟨(inductionHypothesis kept others).1, by simp⟩
      · next last texts others =>
        obtain ⟨rfl, rfl⟩ := Prod.mk.inj written
        obtain ⟨keptLast, spelledRest⟩ := inductionHypothesis kept others
        refine ⟨keptLast, fun all same => ?_⟩
        obtain rfl := Except.ok.inj same
        split
        · exact spelledRest texts rfl
        · exact List.forall_mem_cons.2 ⟨(spelled text rfl).trim, spelledRest texts rfl⟩

theorem writeLoop {header : Loop} (plain : header.IsPlain) (keeps : Keeps body)
    (policy : EmptyCollection) (collection : Value) :
    Keeps (writeLoop policy header collection body) := by
  intro draft isSpelled
  unfold Template.writeLoop
  split
  · exact isSpelled
  · split
    · exact isSpelled
    · split
      · next written => exact (keeps.repeatBody header isSpelled written).1
      · next later texts written =>
        obtain ⟨kept, spelled⟩ := keeps.repeatBody header isSpelled written
        exact kept.withText (kept.text.appendClause (.assemble plain (spelled texts rfl)))

end Keeps

variable (policy : EmptyCollection) (parameter : Value)

mutual

theorem keeps_apply (node : Node) (meets : node.Meets readPlain) :
    Keeps (node.apply policy parameter) := by
  cases node with
  | text content => exact fun draft isSpelled => isSpelled.writeText meets.1 meets.2
  | mixed nodes => exact keeps_applyEach nodes meets
  | whereClause body => exact (keeps_apply body meets).writeClause Trimming.isPlain_ofWhere
  | setClause body => exact (keeps_apply body meets).writeClause Trimming.isPlain_ofSet
  | trim trimming body => exact (keeps_apply body meets.2).writeClause meets.1
  | condition test source body => exact .guarded _ (keeps_apply body meets.2).enclosed .pass
  | choose branches otherwise =>
    exact keeps_applyFirst branches meets.1 (keeps_applyOption otherwise meets.2)
  | loop header body =>
    exact fun draft => (keeps_apply body meets.2.2).writeLoop meets.1 policy _ draft
  | bind name value => exact fun draft isSpelled => isSpelled.pushNamed (some name) _ .bind

theorem keeps_applyEach (nodes : List Node) (meets : Node.EachMeets readPlain nodes) :
    Keeps (Node.applyEach policy parameter nodes) := by
  cases nodes with
  | nil => exact .pass
  | cons node rest => exact (keeps_apply node meets.1).followedBy (keeps_applyEach rest meets.2)

theorem keeps_applyFirst (branches : List (Expr × String × Node))
    (meets : Node.BranchesMeet readPlain branches) {ending : Step} (keeps : Keeps ending) :
    Keeps (Node.applyFirst policy parameter branches ending) := by
  match branches with
  | [] => exact keeps
  | (_, _, body) :: rest =>
    exact .guarded _ (keeps_apply body meets.2.1).enclosed
      (keeps_applyFirst rest meets.2.2 keeps)

theorem keeps_applyOption (otherwise : Option Node)
    (meets : Node.OptionMeets readPlain otherwise) :
    Keeps (Node.applyOption policy parameter otherwise) := by
  cases otherwise with
  | none => exact .pass
  | some body => exact (keeps_apply body meets).enclosed

end

end DynamicSql.Template
