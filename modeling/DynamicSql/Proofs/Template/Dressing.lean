/-
This file proves what dressing a clause takes away and what it puts around. `Cut` says it of the
text of a body: without the blanks at its ends it is a head, a core and a tail. The head is the
first listed token that the middle begins with, and one blank behind it; the tail is the first
listed token that the rest ends with, and all blanks before it. Tokens are compared without their
blanks and up to the case of Latin letters, and none is torn out of a word.

Every body is cut. Nothing is written for a body whose core is empty, and any other core has ink in
it: the middle ends with ink, and so does what stands before a tail.
-/

import DynamicSql.Proofs.Text.Blanks
import DynamicSql.Proofs.Text.Case
import DynamicSql.Template.Rendering

namespace DynamicSql.Template

namespace Trimming

variable {text found rest head left core tail middle : List Char} {token : String}
  {tokens : List String}

/-! ### Tokens at either end -/

/-- A token as a text has it: its letters in any case, without the blanks around it. -/
structure Spelling (token : String) (found : List Char) : Prop where
  filled : Text.trim token.toList ≠ []
  same : Text.sameIgnoringCase found (Text.trim token.toList) = true

/-- A text in two parts, neither of which has a part of a word of the other. -/
structure Parted (text front back : List Char) : Prop where
  parts : text = front ++ back
  whole : (endsWithWord front && startsWithWord back) = false

/-- The text begins with the token, `rest` being behind it. -/
def Opens (token : String) (text found rest : List Char) : Prop :=
  Spelling token found ∧ Parted text found rest

/-- The text ends with the token, `rest` being before it. -/
def Closes (token : String) (text rest found : List Char) : Prop :=
  Spelling token found ∧ Parted text rest found

theorem Spelling.ne_nil (spelling : Spelling token found) : found ≠ [] :=
  Text.ne_nil_of_sameIgnoringCase spelling.same spelling.filled

@[simp]
theorem startsWithWord_map_lowerAscii (text : List Char) :
    startsWithWord (text.map Text.lowerAscii) = startsWithWord text := by
  unfold startsWithWord
  rw [List.head?_map, Option.map_map]
  exact congrArg (Option.getD · false)
    (Option.map_congr fun character _ => Text.isWordCharacter_lowerAscii character)

@[simp]
theorem endsWithWord_map_lowerAscii (text : List Char) :
    endsWithWord (text.map Text.lowerAscii) = endsWithWord text := by
  unfold endsWithWord
  rw [List.getLast?_map, Option.map_map]
  exact congrArg (Option.getD · false)
    (Option.map_congr fun character _ => Text.isWordCharacter_lowerAscii character)

theorem Spelling.startsWithWord_eq (spelling : Spelling token found) :
    startsWithWord (Text.trim token.toList) = startsWithWord found := by
  rw [← startsWithWord_map_lowerAscii, ← Text.sameIgnoringCase_iff.1 spelling.same,
    startsWithWord_map_lowerAscii]

theorem Spelling.endsWithWord_eq (spelling : Spelling token found) :
    endsWithWord (Text.trim token.toList) = endsWithWord found := by
  rw [← endsWithWord_map_lowerAscii, ← Text.sameIgnoringCase_iff.1 spelling.same,
    endsWithWord_map_lowerAscii]

theorem behindToken?_eq_some_iff :
    behindToken? text token = some rest ↔ ∃ found, Opens token text found rest := by
  unfold behindToken?
  simp only
  split
  · next blank =>
    refine iff_of_false nofun ?_
    rintro ⟨found, spelling, -⟩
    exact spelling.filled (List.isEmpty_iff.1 blank)
  · next filled =>
    have filled : Text.trim token.toList ≠ [] := fun blank => filled (List.isEmpty_iff.2 blank)
    rw [Option.filter_eq_some_iff, Text.dropPrefixIgnoringCase?_eq_some_iff, Bool.not_eq_true']
    constructor
    · rintro ⟨⟨found, parts, same⟩, whole⟩
      have spelling : Spelling token found := ⟨filled, same⟩
      rw [spelling.endsWithWord_eq] at whole
      exact ⟨found, spelling, parts, whole⟩
    · rintro ⟨found, spelling, parts, whole⟩
      rw [spelling.endsWithWord_eq]
      exact ⟨⟨found, parts, spelling.same⟩, whole⟩

theorem beforeToken?_eq_some_iff :
    beforeToken? text token = some rest ↔ ∃ found, Closes token text rest found := by
  unfold beforeToken?
  simp only
  split
  · next blank =>
    refine iff_of_false nofun ?_
    rintro ⟨found, spelling, -⟩
    exact spelling.filled (List.isEmpty_iff.1 blank)
  · next filled =>
    have filled : Text.trim token.toList ≠ [] := fun blank => filled (List.isEmpty_iff.2 blank)
    rw [Option.filter_eq_some_iff, Text.dropSuffixIgnoringCase?_eq_some_iff, Bool.not_eq_true',
      Bool.and_comm]
    constructor
    · rintro ⟨⟨found, parts, same⟩, whole⟩
      have spelling : Spelling token found := ⟨filled, same⟩
      rw [spelling.startsWithWord_eq] at whole
      exact ⟨found, spelling, parts, whole⟩
    · rintro ⟨found, spelling, parts, whole⟩
      rw [spelling.startsWithWord_eq]
      exact ⟨⟨found, parts, spelling.same⟩, whole⟩

theorem behindToken?_eq_none_iff :
    behindToken? text token = none ↔ ∀ found rest, ¬ Opens token text found rest := by
  rw [Option.eq_none_iff_forall_ne_some]
  constructor
  · exact fun absent found rest opens =>
      absent rest (behindToken?_eq_some_iff.2 ⟨found, opens⟩)
  · intro absent rest behind
    obtain ⟨found, opens⟩ := behindToken?_eq_some_iff.1 behind
    exact absent found rest opens

theorem beforeToken?_eq_none_iff :
    beforeToken? text token = none ↔ ∀ rest found, ¬ Closes token text rest found := by
  rw [Option.eq_none_iff_forall_ne_some]
  constructor
  · exact fun absent rest found closes =>
      absent rest (beforeToken?_eq_some_iff.2 ⟨found, closes⟩)
  · intro absent rest before
    obtain ⟨found, closes⟩ := beforeToken?_eq_some_iff.1 before
    exact absent rest found closes

/-! ### Heads and tails -/

/-- The blank that a text begins with, if it does, and what is behind it. -/
def IsGap (gap left : List Char) : Prop :=
  (∃ blank, Text.isBlank blank = true ∧ gap = [blank]) ∨ (gap = [] ∧ Text.StartsWithInk left)

/-- What a list of tokens takes from the front of a text, and what it leaves. -/
inductive IsHead (tokens : List String) (text : List Char) : List Char → List Char → Prop
  | none (absent : ∀ token ∈ tokens, ∀ found rest, ¬ Opens token text found rest) :
      IsHead tokens text [] text
  | first {earlier later : List String} {token : String} {found gap left : List Char}
      (listed : tokens = earlier ++ token :: later)
      (absent : ∀ other ∈ earlier, ∀ found rest, ¬ Opens other text found rest)
      (opens : Opens token text found (gap ++ left)) (isGap : IsGap gap left) :
      IsHead tokens text (found ++ gap) left

/-- What a list of tokens leaves of a text, and what it takes from its back. -/
inductive IsTail (tokens : List String) (text : List Char) : List Char → List Char → Prop
  | none (absent : ∀ token ∈ tokens, ∀ rest found, ¬ Closes token text rest found) :
      IsTail tokens text text []
  | first {earlier later : List String} {token : String} {left gap found : List Char}
      (listed : tokens = earlier ++ token :: later)
      (absent : ∀ other ∈ earlier, ∀ rest found, ¬ Closes other text rest found)
      (closes : Closes token text (left ++ gap) found) (blank : Text.isAllBlank gap = true)
      (ends : Text.EndsWithInk left) :
      IsTail tokens text left (gap ++ found)

theorem IsHead.append_eq (isHead : IsHead tokens text head left) : text = head ++ left := by
  cases isHead with
  | none => rfl
  | first _ _ opens _ => rw [List.append_assoc]; exact opens.2.parts

theorem IsTail.append_eq (isTail : IsTail tokens text left tail) : text = left ++ tail := by
  cases isTail with
  | none => exact (List.append_nil text).symm
  | first _ _ closes _ _ => rw [← List.append_assoc]; exact closes.2.parts

theorem IsHead.absent_of_eq_nil (isHead : IsHead tokens text head left) (nothing : head = []) :
    ∀ token ∈ tokens, ∀ found rest, ¬ Opens token text found rest := by
  cases isHead with
  | none absent => exact absent
  | first _ _ opens _ => exact absurd (List.append_eq_nil_iff.1 nothing).1 opens.1.ne_nil

theorem IsTail.absent_of_eq_nil (isTail : IsTail tokens text left tail) (nothing : tail = []) :
    ∀ token ∈ tokens, ∀ rest found, ¬ Closes token text rest found := by
  cases isTail with
  | none absent => exact absent
  | first _ _ closes _ _ => exact absurd (List.append_eq_nil_iff.1 nothing).2 closes.1.ne_nil

/-- What is left of a text that ends with ink ends with ink, too. -/
theorem IsTail.endsWithInk (isTail : IsTail tokens text left tail)
    (ends : Text.EndsWithInk text) : Text.EndsWithInk left := by
  cases isTail with
  | none => exact ends
  | first _ _ _ _ endsLeft => exact endsLeft

theorem exists_isGap_dropOneBlank (text : List Char) :
    ∃ gap, text = gap ++ dropOneBlank text ∧ IsGap gap (dropOneBlank text) := by
  cases text with
  | nil => exact ⟨[], rfl, Or.inr ⟨rfl, nofun⟩⟩
  | cons character rest =>
    rw [dropOneBlank]
    split
    · next blank => exact ⟨[character], rfl, Or.inl ⟨character, blank, rfl⟩⟩
    · next ink =>
      refine ⟨[], rfl, Or.inr ⟨rfl, ?_⟩⟩
      rintro _ ⟨⟩
      exact Bool.eq_false_iff.2 ink

theorem exists_isHead (tokens : List String) (text : List Char) :
    ∃ head, IsHead tokens text head (withoutPrefix tokens text) := by
  unfold withoutPrefix
  cases search : tokens.findSome? (behindToken? text) with
  | none =>
    refine ⟨[], .none fun token member => ?_⟩
    exact behindToken?_eq_none_iff.1 (List.findSome?_eq_none_iff.1 search token member)
  | some rest =>
    obtain ⟨earlier, token, later, listed, behind, absent⟩ := List.findSome?_eq_some_iff.1 search
    obtain ⟨found, opens⟩ := behindToken?_eq_some_iff.1 behind
    obtain ⟨gap, parts, isGap⟩ := exists_isGap_dropOneBlank rest
    refine ⟨found ++ gap, .first listed ?_ (parts ▸ opens) isGap⟩
    exact fun other member => behindToken?_eq_none_iff.1 (absent other member)

theorem exists_isTail (tokens : List String) (text : List Char) :
    ∃ tail, IsTail tokens text (withoutSuffix tokens text) tail := by
  unfold withoutSuffix
  cases search : tokens.findSome? (beforeToken? text) with
  | none =>
    refine ⟨[], .none fun token member => ?_⟩
    exact beforeToken?_eq_none_iff.1 (List.findSome?_eq_none_iff.1 search token member)
  | some rest =>
    obtain ⟨earlier, token, later, listed, before, absent⟩ := List.findSome?_eq_some_iff.1 search
    obtain ⟨found, closes⟩ := beforeToken?_eq_some_iff.1 before
    obtain ⟨gap, parts, blank⟩ := Text.trimEnd_append rest
    refine ⟨gap ++ found, .first listed ?_ (parts ▸ closes) blank (Text.endsWithInk_trimEnd rest)⟩
    exact fun other member => beforeToken?_eq_none_iff.1 (absent other member)

/-! ### The parts of a body -/

/-- The middle of a body in three parts: what the tokens take from its front, what remains, and what
the tokens take from the back of what the head has left. -/
structure Cut (trimming : Trimming) (body head core tail : List Char) : Prop where
  isMiddle : Text.IsMiddle body (head ++ core ++ tail)
  isHead : IsHead trimming.prefixOverrides (head ++ core ++ tail) head (core ++ tail)
  isTail : IsTail trimming.suffixOverrides (core ++ tail) core tail

theorem exists_cut (trimming : Trimming) (body : List Char) :
    ∃ head tail, Cut trimming body head (trimming.core body) tail := by
  obtain ⟨head, isHead⟩ := exists_isHead trimming.prefixOverrides (Text.trim body)
  obtain ⟨tail, isTail⟩ := exists_isTail trimming.suffixOverrides
    (withoutPrefix trimming.prefixOverrides (Text.trim body))
  have middle : Text.trim body = head ++ trimming.core body ++ tail := by
    rw [List.append_assoc, core, ← isTail.append_eq]
    exact isHead.append_eq
  refine ⟨head, tail, ?_, ?_, ?_⟩
  · rw [← middle]
    exact Text.isMiddle_trim body
  · rw [← middle, core, ← isTail.append_eq]
    exact isHead
  · rw [core, ← isTail.append_eq]
    exact isTail

theorem Cut.endsWithInk_core {trimming : Trimming} {body : List Char}
    (cut : Cut trimming body head core tail) : Text.EndsWithInk core := by
  have ends := cut.isMiddle.ends
  rw [List.append_assoc] at ends
  exact cut.isTail.endsWithInk ends.of_append

/-! ### Around the core -/

/-- A core with a prefix and a suffix around it, a space standing between either and the core where
the one ends or the other begins with a word. -/
def dressed (trimming : Trimming) (core : List Char) : List Char :=
  let front := (trimming.prefixText.getD "").toList
  let back := (trimming.suffixText.getD "").toList
  front ++ (if endsWithWord front then [' '] else []) ++ core ++
    (if startsWithWord back then [' '] else []) ++ back

theorem opening_eq (text : Option String) :
    opening text = (text.getD "").toList ++
      if endsWithWord (text.getD "").toList then [' '] else [] := by
  cases text with
  | none => rfl
  | some text =>
    rw [opening, Option.getD_some]
    split
    · rfl
    · exact (List.append_nil _).symm

theorem closing_eq (text : Option String) :
    closing text = (if startsWithWord (text.getD "").toList then [' '] else []) ++
      (text.getD "").toList := by
  cases text with
  | none => rfl
  | some text =>
    rw [closing, Option.getD_some]
    split <;> rfl

/-- Without a suffix there is nothing behind the core. -/
theorem dressed_of_no_suffix {trimming : Trimming} (noSuffix : trimming.suffixText.getD "" = "")
    (core : List Char) : trimming.dressed core = opening trimming.prefixText ++ core := by
  have noWord : startsWithWord "".toList = false := rfl
  unfold dressed
  rw [noSuffix, opening_eq]
  simp only [noWord, Bool.false_eq_true, if_false]
  rw [List.append_nil]
  exact List.append_nil _

/-- A word in front of the core has a space behind it. -/
theorem opening_of_word {keyword : String} (word : endsWithWord keyword.toList = true) :
    opening (some keyword) = keyword.toList ++ [' '] :=
  if_pos word

theorem wrap?_eq (trimming : Trimming) (body : List Char) :
    trimming.wrap? body =
      if trimming.core body = [] then none else some (trimming.dressed (trimming.core body)) := by
  unfold wrap? dressed
  simp only [List.isEmpty_iff, opening_eq, closing_eq, List.append_assoc]

end Trimming

/-! ### Clauses in a text -/

/-- The space between a text and a clause behind it: there is one if the text ends with ink. -/
def gapBehind (text : List Char) : List Char :=
  if text ≠ [] ∧ Text.EndsWithInk text then [' '] else []

@[simp]
theorem appendClause_nil (text : List Char) : appendClause text [] = text := rfl

theorem appendClause_eq (text : List Char) {clause : List Char} (filled : clause ≠ []) :
    appendClause text clause = text ++ gapBehind text ++ clause := by
  unfold appendClause gapBehind
  rw [if_neg (by simpa using filled)]
  cases isLast : text.getLast? with
  | none =>
    rw [if_neg fun ink => ink.1 (List.getLast?_eq_none_iff.1 isLast), List.append_nil]
  | some last =>
    have nonempty : text ≠ [] := by
      rintro rfl
      cases isLast
    simp only
    split
    · next blank =>
      have blankEnd : ¬ Text.EndsWithInk text := fun ink => by
        rw [ink last isLast] at blank
        cases blank
      rw [if_neg fun ink => blankEnd ink.2, List.append_nil]
    · next ink =>
      have inkEnd : Text.EndsWithInk text := by
        intro character isLast'
        obtain rfl : last = character := Option.some.inj (isLast.symm.trans isLast')
        exact Bool.eq_false_iff.2 ink
      rw [if_pos ⟨nonempty, inkEnd⟩, List.append_assoc, List.singleton_append]

theorem appendClause_eq_ite (text clause : List Char) :
    appendClause text clause =
      text ++ (if clause = [] then [] else gapBehind text) ++ clause := by
  split
  · next nothing => rw [nothing, appendClause_nil, List.append_nil, List.append_nil]
  · next filled => exact appendClause_eq text filled

/-- A clause is written behind the text if anything is left of its body. -/
theorem text_writeClause (trimming : Trimming) (body : Step) (draft : Draft) :
    (writeClause trimming body draft).1.text =
      match (body.aside draft).2 with
      | .error _ => draft.text
      | .ok text =>
        if trimming.core text = [] then draft.text
        else appendClause draft.text (trimming.dressed (trimming.core text)) := by
  have same : (body.aside draft).1.text = draft.text := rfl
  unfold writeClause
  rw [← same]
  rcases body.aside draft with ⟨later, fault | text⟩
  · rfl
  · simp only [Trimming.wrap?_eq]
    by_cases nothing : trimming.core text = []
    · rw [if_pos nothing, if_pos nothing]
    · rw [if_neg nothing, if_neg nothing]

/-- What becomes of a text when a clause that begins with a keyword is written behind it, for what
the rendering of its body has ended in. -/
def WritesClause (trimming : Trimming) (keyword : String) (before after : List Char) :
    Except LoopFault (List Char) → Prop
  | .error _ => after = before
  | .ok body => ∃ head core tail, trimming.Cut body head core tail ∧
      ((core = [] ∧ after = before) ∨ (Text.isAllBlank core = false ∧
        after = before ++ gapBehind before ++ keyword.toList ++ ' ' :: core))

theorem writesClause_writeClause {trimming : Trimming} {keyword : String}
    (isPrefix : trimming.prefixText = some keyword) (noSuffix : trimming.suffixText = none)
    (word : Trimming.endsWithWord keyword.toList = true) (body : Step) (draft : Draft) :
    WritesClause trimming keyword draft.text (writeClause trimming body draft).1.text
      (body.aside draft).2 := by
  rw [text_writeClause]
  cases (body.aside draft).2 with
  | error fault => rfl
  | ok body =>
    obtain ⟨head, tail, cut⟩ := Trimming.exists_cut trimming body
    refine ⟨head, trimming.core body, tail, cut, ?_⟩
    by_cases nothing : trimming.core body = []
    · exact Or.inl ⟨nothing, if_pos nothing⟩
    · refine Or.inr ⟨cut.endsWithInk_core.isAllBlank nothing, ?_⟩
      have dressed : trimming.dressed (trimming.core body) =
          keyword.toList ++ ' ' :: trimming.core body := by
        rw [Trimming.dressed_of_no_suffix (by rw [noSuffix]; rfl), isPrefix,
          Trimming.opening_of_word word, List.append_assoc]
        rfl
      simp only
      rw [if_neg nothing, dressed, appendClause_eq _ (by simp), List.append_assoc _ keyword.toList]

/-- Every body is a head, a core and a tail between blanks, and its clause is its core, which is
never blank, with the prefix and the suffix around it; there is none exactly if the core is empty.
So clauses of conditions and of assignments are a keyword with ink behind it, if they are there. -/
theorem exists_cut_wrap?_eq :
    (∀ (trimming : Trimming) (body : List Char), ∃ head core tail,
      trimming.Cut body head core tail ∧
      (head = [] → ∀ token ∈ trimming.prefixOverrides, ∀ found rest,
        ¬ Trimming.Opens token (head ++ core ++ tail) found rest) ∧
      (tail = [] → ∀ token ∈ trimming.suffixOverrides, ∀ rest found,
        ¬ Trimming.Closes token (core ++ tail) rest found) ∧
      (trimming.wrap? body = none ↔ core = []) ∧
      ∀ clause, trimming.wrap? body = some clause →
        Text.isAllBlank core = false ∧ clause = trimming.dressed core) ∧
    ∀ (policy : EmptyCollection) (parameter : Value) (body : Node) (draft : Draft),
      WritesClause .ofWhere "WHERE" draft.text
        ((Node.whereClause body).apply policy parameter draft).1.text
        ((body.apply policy parameter).aside draft).2 ∧
      WritesClause .ofSet "SET" draft.text
        ((Node.setClause body).apply policy parameter draft).1.text
        ((body.apply policy parameter).aside draft).2 := by
  constructor
  · intro trimming body
    obtain ⟨head, tail, cut⟩ := Trimming.exists_cut trimming body
    refine ⟨head, trimming.core body, tail, cut, cut.isHead.absent_of_eq_nil,
      cut.isTail.absent_of_eq_nil, ?_, ?_⟩
    · rw [Trimming.wrap?_eq]
      split <;> simp [*]
    · intro clause isClause
      rw [Trimming.wrap?_eq] at isClause
      split at isClause
      · cases isClause
      · next filled =>
        exact ⟨cut.endsWithInk_core.isAllBlank filled, (Option.some.inj isClause).symm⟩
  · intro policy parameter body draft
    exact ⟨writesClause_writeClause rfl rfl (by decide) _ draft,
      writesClause_writeClause rfl rfl (by decide) _ draft⟩

end DynamicSql.Template
