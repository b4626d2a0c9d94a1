/-
This file proves that contents are read back from what they are written as, up to how their texts
are cut up. Reading goes from stage to stage, a stage being the tree so far and the markup that is
left; each lexeme that is cut off shortens the markup, so there is fuel enough. The induction is on
the contents, with a text in front of them that has been written and not read yet: a run of texts is
one lexeme, which ends only where a tag begins.
-/

import DynamicSql.Markup.Reader
import DynamicSql.Proofs.Markup.Merging
import DynamicSql.Proofs.Markup.Tags
import Mathlib.Logic.Relation

namespace DynamicSql.Markup

/-! ### Stages -/

/-- How far reading has come: the tree so far and the markup that is left. -/
structure Stage where
  growth : Growth
  markup : List Char

/-- A lexeme is cut off the markup, and the tree goes on with its event. -/
def Advances (stage next : Stage) : Prop :=
  ∃ lexeme event, cut? stage.growth.opened.length stage.markup = some (.lexeme lexeme next.markup) ∧
    Event.ofLexeme lexeme = .ok event ∧ stage.growth.step event = .ok next.growth ∧
    next.markup.length < stage.markup.length

/-- One stage comes up after another one. -/
def Reads : Stage → Stage → Prop :=
  Relation.ReflTransGen Advances

theorem Growth.length_opened_of_add {growth later : Growth} {element : Element}
    (added : growth.add element = .ok later) : later.opened.length = growth.opened.length := by
  unfold Growth.add at added
  split at added
  · next parent outer isOpened =>
    obtain rfl := Except.ok.inj added
    rw [isOpened]
    rfl
  · split at added
    · obtain rfl := Except.ok.inj added
      rfl
    · cases added

theorem Growth.length_opened_of_addText {growth later : Growth} {text : String}
    (added : growth.addText text = .ok later) : later.opened.length = growth.opened.length := by
  unfold Growth.addText at added
  split at added
  · next innermost outer isOpened =>
    obtain rfl := Except.ok.inj added
    rw [isOpened]
    rfl
  · split at added
    · obtain rfl := Except.ok.inj added
      rfl
    · cases added

theorem Growth.length_opened_of_finish {growth later : Growth} {name : String}
    (finished : growth.finish name = .ok later) :
    later.opened.length = growth.opened.length - 1 := by
  unfold Growth.finish at finished
  split at finished
  · cases finished
  · next innermost outer isOpened =>
    split at finished
    · rw [length_opened_of_add finished, isOpened]
      rfl
    · cases finished

/-- Cutting counts as many open elements as there are in the tree. -/
theorem length_opened_of_step {growth later : Growth} {lexeme : Lexeme} {event : Event}
    (isEvent : Event.ofLexeme lexeme = .ok event) (stepped : growth.step event = .ok later) :
    later.opened.length = lexeme.depthAfter growth.opened.length := by
  unfold Event.ofLexeme at isEvent
  split at isEvent
  · split at isEvent
    · obtain rfl := Except.ok.inj isEvent
      obtain rfl := Except.ok.inj stepped
      rfl
    · cases isEvent
  · split at isEvent
    · obtain rfl := Except.ok.inj isEvent
      exact Growth.length_opened_of_add stepped
    · cases isEvent
  · obtain rfl := Except.ok.inj isEvent
    exact Growth.length_opened_of_finish stepped
  · split at isEvent
    · obtain rfl := Except.ok.inj isEvent
      exact Growth.length_opened_of_addText stepped
    · cases isEvent
  · obtain rfl := Except.ok.inj isEvent
    exact Growth.length_opened_of_addText stepped
  · obtain rfl := Except.ok.inj isEvent
    obtain rfl := Except.ok.inj stepped
    rfl

/-- From a stage on, the lexemes of the markup are read to the end that is reached from there. -/
theorem exists_lexemes_of_reads {stage : Stage} {root : Element}
    (reads : Reads stage ⟨⟨[], some root⟩, []⟩) {fuel : Nat} (enough : stage.markup.length < fuel) :
    ∃ lexemes, lexemesFrom fuel stage.growth.opened.length stage.markup = (lexemes, none) ∧
      stage.growth.read lexemes = .ok ⟨[], some root⟩ := by
  induction reads using Relation.ReflTransGen.head_induction_on generalizing fuel with
  | refl =>
    obtain ⟨fuel, rfl⟩ := Nat.exists_eq_add_one_of_ne_zero (Nat.ne_of_gt enough)
    exact ⟨[], rfl, rfl⟩
  | @head stage next advances later inductionHypothesis =>
    obtain ⟨fuel, rfl⟩ := Nat.exists_eq_add_one_of_ne_zero (Nat.ne_of_gt (Nat.zero_lt_of_lt enough))
    obtain ⟨lexeme, event, isCut, isEvent, stepped, shorter⟩ := advances
    obtain ⟨lexemes, areLexemes, isRead⟩ :=
      inductionHypothesis (Nat.lt_of_lt_of_le shorter (Nat.le_of_lt_succ enough))
    refine ⟨lexeme :: lexemes, ?_, ?_⟩
    · rw [length_opened_of_step isEvent stepped] at areLexemes
      simp only [lexemesFrom, isCut, areLexemes]
    · simp only [Growth.read, isEvent, stepped, isRead]

/-- A text is read to an element if reading comes from all of it to that element. -/
theorem read_of_reads {source : List Char} {root : Element}
    (noMark : withoutOrderMark source = source)
    (reads : Reads ⟨.empty, source⟩ ⟨⟨[], some root⟩, []⟩) : Element.read source = .ok root := by
  obtain ⟨found, areLexemes, isRead⟩ := exists_lexemes_of_reads reads (Nat.lt_succ_self _)
  have isLexemes : lexemes source = (found, none) := by
    unfold lexemes
    rw [show lexemesFrom (source.length + 1) 0 source = (found, none) from areLexemes]
    rfl
  unfold Element.read
  rw [noMark, isLexemes]
  simp only [isRead]
  rfl

/-! ### Single lexemes -/

variable {growth later : Growth} {tag : Tag}

theorem advances_opening (wellNamed : tag.IsWellNamed) (rest : List Char) :
    Advances ⟨growth, tag.text ++ '>' :: rest⟩
      ⟨{ growth with opened := ⟨tag, []⟩ :: growth.opened }, rest⟩ := by
  refine ⟨_, .start tag, cut?_opening wellNamed _ rest, ?_, rfl, ?_⟩
  · simp only [Event.ofLexeme, Tag.read_inside wellNamed]
  · simp
    omega

theorem advances_empty (wellNamed : tag.IsWellNamed) (added : growth.add ⟨tag, []⟩ = .ok later)
    (rest : List Char) : Advances ⟨growth, tag.text ++ '/' :: '>' :: rest⟩ ⟨later, rest⟩ := by
  refine ⟨_, .empty tag, cut?_empty wellNamed _ rest, ?_, added, ?_⟩
  · simp only [Event.ofLexeme, Tag.read_inside wellNamed]
  · simp
    omega

theorem advances_closing (wellNamed : tag.IsWellNamed) {children : List Content}
    (added : growth.add ⟨tag, children⟩ = .ok later) (rest : List Char) :
    Advances ⟨{ growth with opened := ⟨tag, children⟩ :: growth.opened }, tag.closing ++ rest⟩
      ⟨later, rest⟩ := by
  refine ⟨_, .finish tag.name, cut?_closing wellNamed _ rest, ?_, ?_, ?_⟩
  · simp only [Event.ofLexeme, String.ofList_toList]
  · simp only [Growth.step, Growth.finish, if_true]
    exact added
  · simp [Tag.closing]
    omega

/-- The contents of an element do not end with a text. -/
def EndsOpen (contents : List Content) : Prop :=
  ∀ text, contents.getLast? ≠ some (.text text)

theorem appendText_of_endsOpen {contents : List Content} (endsOpen : EndsOpen contents)
    (text : String) : appendText contents text = contents ++ [.text text] := by
  unfold appendText
  split
  · next last isLast => exact absurd isLast (endsOpen last)
  · rfl

/-- A text is cut off up to the next tag. -/
theorem cut?_text {text : List Char} (filled : text ≠ []) (absent : '<' ∉ text) (depth : Nat)
    (rest : List Char) :
    cut? depth (text ++ '<' :: rest) = some (.lexeme (.text text) ('<' :: rest)) := by
  have noTag : ∀ character ∈ text, (character != '<') = true :=
    fun character member => bne_iff_ne.2 fun same => absent (same ▸ member)
  have takes : (text ++ '<' :: rest).takeWhile (· != '<') = text := by
    rw [List.takeWhile_append_of_pos noTag]
    exact List.append_nil text
  have drops : (text ++ '<' :: rest).dropWhile (· != '<') = '<' :: rest := by
    rw [List.dropWhile_append_of_pos noTag]
    rfl
  cases text with
  | nil => exact absurd rfl filled
  | cons first others =>
    unfold cut?
    split
    · next empty => cases empty
    · next same =>
      obtain ⟨rfl, -⟩ := List.cons.inj same
      exact absurd List.mem_cons_self absent
    · rw [takes, drops]

theorem advances_text {innermost : Element} {outer : List Element} {root : Option Element}
    (endsOpen : EndsOpen innermost.children) {text : String} (filled : text ≠ "")
    (rest : List Char) :
    Advances ⟨⟨innermost :: outer, root⟩, text.toList.flatMap encodeInText ++ '<' :: rest⟩
      ⟨⟨⟨innermost.tag, innermost.children ++ [.text text]⟩ :: outer, root⟩, '<' :: rest⟩ := by
  have isDecoded := decode_flatMap encodes_encodeInText text.toList
  have absent := not_mem_flatMap not_mem_encodeInText text.toList
  have letters : text.toList.flatMap encodeInText ≠ [] := by
    intro nothing
    have noLetter : ∀ character, character ∉ text.toList := fun character member =>
      encodeInText_ne_nil character (List.flatMap_eq_nil_iff.1 nothing character member)
    exact filled (String.toList_eq_nil_iff.1 (List.eq_nil_iff_forall_not_mem.2 noLetter))
  generalize text.toList.flatMap encodeInText = written at *
  refine ⟨.text written, .text text, cut?_text letters absent _ rest, ?_, ?_, ?_⟩
  · simp only [Event.ofLexeme, isDecoded, String.ofList_toList]
  · simp only [Growth.step, Growth.addText, appendText_of_endsOpen endsOpen]
  · simpa using List.length_pos_iff.2 letters

/-! ### Contents -/

/-- Contents whose tags are all well named. -/
inductive AreWellNamed : List Content → Prop
  | nil : AreWellNamed []
  | text {rest : List Content} (text : String) (later : AreWellNamed rest) :
      AreWellNamed (.text text :: rest)
  | element {tag : Tag} {children rest : List Content} (wellNamed : tag.IsWellNamed)
      (inside : AreWellNamed children) (later : AreWellNamed rest) :
      AreWellNamed (.element tag children :: rest)

/-- Within an open element, a text that is pending and contents behind it are read up to the next
tag, and stand merged behind what is in the element already. -/
def ReadsBack (contents : List Content) : Prop :=
  ∀ (pending : String) (innermost : Element) (outer : List Element) (root : Option Element)
    (rest : List Char), EndsOpen innermost.children →
    Reads ⟨⟨innermost :: outer, root⟩,
        pending.toList.flatMap encodeInText ++ (writtenContents contents ++ '<' :: rest)⟩
      ⟨⟨⟨innermost.tag, innermost.children ++ joinText pending (merged contents)⟩ :: outer, root⟩,
        '<' :: rest⟩

theorem readsBack_nil : ReadsBack [] := by
  intro pending innermost outer root rest endsOpen
  by_cases empty : pending = ""
  · rw [empty, joinText_empty, merged, List.append_nil]
    exact .refl
  · rw [merged, joinText_nil empty]
    exact .single (advances_text endsOpen empty rest)

theorem readsBack_text {rest : List Content} (text : String) (later : ReadsBack rest) :
    ReadsBack (.text text :: rest) := by
  intro pending innermost outer root behind endsOpen
  have reads := later (pending ++ text) innermost outer root behind endsOpen
  rw [String.toList_append, List.flatMap_append, List.append_assoc] at reads
  rw [writtenContents, Content.written, merged, Content.mergedBefore, joinText_joinText,
    List.append_assoc]
  exact reads

/-- An element is read that is written with an opening and a closing tag. -/
theorem reads_between (wellNamed : tag.IsWellNamed) {children : List Content}
    (inside : ReadsBack children) (added : growth.add ⟨tag, merged children⟩ = .ok later)
    (rest : List Char) :
    Reads ⟨growth, tag.text ++ '>' :: (writtenContents children ++ (tag.closing ++ rest))⟩
      ⟨later, rest⟩ := by
  have isInside := inside "" ⟨tag, []⟩ growth.opened growth.root
    ('/' :: (tag.name.toList ++ '>' :: rest)) fun _ isLast => by cases isLast
  have closes : tag.closing ++ rest = '<' :: '/' :: (tag.name.toList ++ '>' :: rest) := by
    simp [Tag.closing]
  rw [joinText_empty, ← closes] at isInside
  exact (Relation.ReflTransGen.head (advances_opening wellNamed _) isInside).tail
    (advances_closing wellNamed added rest)

theorem reads_element (wellNamed : tag.IsWellNamed) {children : List Content}
    (inside : ReadsBack children) (added : growth.add ⟨tag, merged children⟩ = .ok later)
    (rest : List Char) :
    Reads ⟨growth, (Content.element tag children).written ++ rest⟩ ⟨later, rest⟩ := by
  cases children with
  | nil =>
    rw [Content.written, List.append_assoc]
    exact .single (advances_empty wellNamed added rest)
  | cons first others =>
    have isBetween := reads_between wellNamed inside added rest
    rw [writtenContents] at isBetween
    rw [Content.written, List.append_assoc, List.append_assoc]
    exact isBetween

/-- An element is written from an opening bracket on. -/
theorem exists_written_element (tag : Tag) (children : List Content) :
    ∃ inside, (Content.element tag children).written = '<' :: inside := by
  cases children with
  | nil => exact ⟨_, rfl⟩
  | cons first others => exact ⟨_, rfl⟩

theorem readsBack_element (wellNamed : tag.IsWellNamed) {children rest : List Content}
    (inside : ReadsBack children) (behind : ReadsBack rest) :
    ReadsBack (.element tag children :: rest) := by
  intro pending innermost outer root more endsOpen
  let before : Element := ⟨innermost.tag, innermost.children ++ joinText pending []⟩
  let after : Element := ⟨innermost.tag, before.children ++ [.element tag (merged children)]⟩
  have endsAfter : EndsOpen after.children := by
    intro text isLast
    rw [List.getLast?_concat] at isLast
    cases isLast
  have added : Growth.add ⟨before :: outer, root⟩ ⟨tag, merged children⟩ =
      .ok ⟨after :: outer, root⟩ := rfl
  obtain ⟨letters, begins⟩ := exists_written_element tag children
  have flushed := readsBack_nil pending innermost outer root
    (letters ++ (writtenContents rest ++ '<' :: more)) endsOpen
  have element := reads_element wellNamed inside added (writtenContents rest ++ '<' :: more)
  have others := behind "" after outer root more endsAfter
  have isWhole : after.children ++ merged rest =
      innermost.children ++ joinText pending (.element tag (merged children) :: merged rest) := by
    rw [joinText_element, List.append_assoc, List.append_assoc, List.singleton_append]
  rw [joinText_empty, isWhole] at others
  rw [begins, List.cons_append] at element
  rw [writtenContents, begins, List.cons_append, List.cons_append, List.append_assoc, merged,
    Content.mergedBefore]
  exact (flushed.trans element).trans others

theorem readsBack_of_areWellNamed {contents : List Content} (wellNamed : AreWellNamed contents) :
    ReadsBack contents := by
  induction wellNamed with
  | nil => exact readsBack_nil
  | text text later inLater => exact readsBack_text text inLater
  | element wellNamed inside later inInside inLater =>
    exact readsBack_element wellNamed inInside inLater

/-! ### Documents -/

/-- Between the tags of an element, contents are read back merged. -/
theorem read_between (wellNamed : tag.IsWellNamed) {contents : List Content}
    (areWellNamed : AreWellNamed contents) :
    Element.read (tag.text ++ '>' :: (writtenContents contents ++ tag.closing)) =
      .ok ⟨tag, merged contents⟩ := by
  have added : Growth.empty.add ⟨tag, merged contents⟩ =
      .ok ⟨[], some ⟨tag, merged contents⟩⟩ := rfl
  have reads := reads_between wellNamed (readsBack_of_areWellNamed areWellNamed) added []
  rw [List.append_nil] at reads
  exact read_of_reads rfl reads

/-- The markup of contents is read back, merged, as what is in a fragment. -/
theorem read_toMarkup {contents : List Content} (areWellNamed : AreWellNamed contents) :
    Element.read ("<sql>".toList ++ (toMarkup contents).toList ++ "</sql>".toList) =
      .ok ⟨⟨"sql", []⟩, merged contents⟩ := by
  have wellNamed : Tag.IsWellNamed ⟨"sql", []⟩ :=
    ⟨by decide, fun _ member => absurd member List.not_mem_nil, List.nodup_nil⟩
  have opening : "<sql>".toList = Tag.text ⟨"sql", []⟩ ++ ['>'] := by decide
  have closing : "</sql>".toList = Tag.closing ⟨"sql", []⟩ := by decide
  have isRead := read_between wellNamed areWellNamed
  rw [opening, closing, toMarkup, String.toList_ofList, List.append_assoc, List.append_assoc]
  exact isRead

/-- Two texts that look like markup, and an element with nothing but an empty text. -/
example : (Element.read ("<sql>".toList ++ (toMarkup [.text "a < b", .text " &lt; <c>",
    .element ⟨"if", [("test", "x > 'y'")]⟩ [.text ""]]).toList ++ "</sql>".toList)).toOption.map
      (fun root => (root.children.length, toMarkup root.children)) =
    some (2, "a &lt; b &amp;lt; &lt;c&gt;<if test=\"x &gt; &apos;y&apos;\"/>") := by
  decide +kernel

end DynamicSql.Markup
