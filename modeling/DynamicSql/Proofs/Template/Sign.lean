/-
This file holds texts with holes. A sign is a letter or a hole; a hole stands for something that
nothing can cut, is never blank and is no part of a word. Clauses are dressed and joined with signs
as they are with characters.

`Spells` says that characters write signs: letters as they are, none of them an opening brace, and
each hole as a placeholder. What is done to signs and to the characters that spell them leaves the
characters spelling the signs, as long as no token that is taken away can reach into a placeholder.
-/

import DynamicSql.Proofs.Text.Case
import DynamicSql.Template.Clause
import DynamicSql.Template.Placeholder
import Mathlib.Data.List.Basic
import Mathlib.Data.List.Induction

namespace DynamicSql

/-! ### Related options -/

theorem rel_filter {First Second : Type} {related : First → Second → Prop} {keep : First → Bool}
    {keepToo : Second → Bool} {first : Option First} {second : Option Second}
    (same : ∀ {left right}, related left right → keep left = keepToo right)
    (holds : Option.Rel related first second) :
    Option.Rel related (first.filter keep) (second.filter keepToo) := by
  cases holds with
  | none => exact .none
  | @some left right holds =>
    rw [Option.filter_some, Option.filter_some, same holds]
    split
    · exact .some holds
    · exact .none

theorem rel_findSome? {Token First Second : Type} {related : First → Second → Prop}
    {tokens : List Token} {find : Token → Option First} {findToo : Token → Option Second}
    (holds : ∀ token ∈ tokens, Option.Rel related (find token) (findToo token)) :
    Option.Rel related (tokens.findSome? find) (tokens.findSome? findToo) := by
  induction tokens with
  | nil => exact .none
  | cons token rest inductionHypothesis =>
    obtain ⟨first, others⟩ := List.forall_mem_cons.1 holds
    rw [List.findSome?_cons, List.findSome?_cons]
    revert first
    generalize find token = left
    generalize findToo token = right
    rintro (holds | _)
    · exact .some holds
    · exact inductionHypothesis others

namespace Template

/-- A sign of a text with holes. -/
inductive Sign (Hole : Type) where
  | letter (character : Char)
  | hole (content : Hole)

namespace Sign

variable {Hole : Type}

/-- A text without holes. -/
def ofText (text : List Char) : List (Sign Hole) :=
  text.map letter

/-- A hole is not blank. -/
def isBlank : Sign Hole → Bool
  | .letter character => Text.isBlank character
  | .hole _ => false

/-- A hole is no part of a word. -/
def isWord : Sign Hole → Bool
  | .letter character => Text.isWordCharacter character
  | .hole _ => false

/-! ### Blanks -/

/-- The signs without the blanks at their start. -/
def trimStart (signs : List (Sign Hole)) : List (Sign Hole) :=
  signs.dropWhile isBlank

/-- The signs without the blanks at their end. -/
def trimEnd (signs : List (Sign Hole)) : List (Sign Hole) :=
  (signs.reverse.dropWhile isBlank).reverse

/-- The signs without the blanks at either end. -/
def trim (signs : List (Sign Hole)) : List (Sign Hole) :=
  trimEnd (trimStart signs)

/-- The signs without one blank at their start. -/
def dropOneBlank : List (Sign Hole) → List (Sign Hole)
  | [] => []
  | sign :: rest => if sign.isBlank then rest else sign :: rest

/-- The words of signs, `current` being the word read so far, last sign first. -/
def wordsFrom (current : List (Sign Hole)) : List (Sign Hole) → List (List (Sign Hole))
  | [] => if current.isEmpty then [] else [current.reverse]
  | sign :: rest =>
    if sign.isBlank then
      if current.isEmpty then wordsFrom [] rest else current.reverse :: wordsFrom [] rest
    else wordsFrom (sign :: current) rest

/-- The signs without the blanks around them, and on request without runs of blanks. -/
def tidy (shrink : Bool) (signs : List (Sign Hole)) : List (Sign Hole) :=
  if shrink then List.intercalate [.letter ' '] (wordsFrom [] signs) else trim signs

/-! ### Tokens -/

/-- What follows a token that signs begin with, in any case of its letters. -/
def dropPrefix? : List Char → List (Sign Hole) → Option (List (Sign Hole))
  | [], signs => some signs
  | expected :: token, .letter character :: signs =>
    if Text.lowerAscii character = Text.lowerAscii expected then dropPrefix? token signs else none
  | _ :: _, _ => none

/-- What stands before a token that signs end with, in any case of its letters. -/
def dropSuffix? (token : List Char) (signs : List (Sign Hole)) : Option (List (Sign Hole)) :=
  (dropPrefix? token.reverse signs.reverse).map List.reverse

/-- The signs begin with a letter of a word. -/
def startsWithWord (signs : List (Sign Hole)) : Bool :=
  (signs.head?.map isWord).getD false

/-- The signs end with a letter of a word. -/
def endsWithWord (signs : List (Sign Hole)) : Bool :=
  (signs.getLast?.map isWord).getD false

/-- What follows a token that signs begin with as a whole word. -/
def behindToken? (signs : List (Sign Hole)) (token : String) : Option (List (Sign Hole)) :=
  let token := Text.trim token.toList
  if token.isEmpty then none
  else (dropPrefix? token signs).filter fun rest =>
    !(Trimming.endsWithWord token && startsWithWord rest)

/-- What stands before a token that signs end with as a whole word. -/
def beforeToken? (signs : List (Sign Hole)) (token : String) : Option (List (Sign Hole)) :=
  let token := Text.trim token.toList
  if token.isEmpty then none
  else (dropSuffix? token signs).filter fun rest =>
    !(Trimming.startsWithWord token && endsWithWord rest)

/-! ### Clauses -/

/-- The signs without the first of the tokens they begin with, and one blank behind it. -/
def withoutPrefix (tokens : List String) (signs : List (Sign Hole)) : List (Sign Hole) :=
  match tokens.findSome? (behindToken? signs) with
  | some rest => dropOneBlank rest
  | none => signs

/-- The signs without the first of the tokens they end with, and all blanks before it. -/
def withoutSuffix (tokens : List String) (signs : List (Sign Hole)) : List (Sign Hole) :=
  match tokens.findSome? (beforeToken? signs) with
  | some rest => trimEnd rest
  | none => signs

/-- The signs of a clause between its tokens. -/
def core (trimming : Trimming) (signs : List (Sign Hole)) : List (Sign Hole) :=
  withoutSuffix trimming.suffixOverrides (withoutPrefix trimming.prefixOverrides (trim signs))

/-- The signs of a clause, if any are left of its body. -/
def wrap? (trimming : Trimming) (signs : List (Sign Hole)) : Option (List (Sign Hole)) :=
  let core := core trimming signs
  if core.isEmpty then none
  else some (ofText (Trimming.opening trimming.prefixText) ++ core ++
    ofText (Trimming.closing trimming.suffixText))

/-- A clause behind other signs, with a space between them unless those end in a blank. -/
def appendClause (signs clause : List (Sign Hole)) : List (Sign Hole) :=
  if clause.isEmpty then signs
  else
    match signs.getLast? with
    | none => signs ++ clause
    | some last => if last.isBlank then signs ++ clause else signs ++ .letter ' ' :: clause

end Sign

/-- A trimming that puts no brace around a clause and takes nothing away that a placeholder begins
or ends with. -/
structure Trimming.IsPlain (trimming : Trimming) : Prop where
  prefixText : ∀ text, trimming.prefixText = some text → '{' ∉ text.toList
  suffixText : ∀ text, trimming.suffixText = some text → '{' ∉ text.toList
  tokens : ∀ token ∈ trimming.prefixOverrides ++ trimming.suffixOverrides,
    '#' ∉ token.toList ∧ '}' ∉ token.toList

namespace Trimming

theorem isPlain_ofWhere : ofWhere.IsPlain where
  prefixText := by
    rintro _ ⟨⟩
    decide
  suffixText := by
    rintro _ ⟨⟩
  tokens := by decide

theorem isPlain_ofSet : ofSet.IsPlain where
  prefixText := by
    rintro _ ⟨⟩
    decide
  suffixText := by
    rintro _ ⟨⟩
  tokens := by decide

theorem IsPlain.not_mem_opening {trimming : Trimming} (plain : trimming.IsPlain) :
    '{' ∉ opening trimming.prefixText := by
  unfold opening
  split
  · simp
  · next text written =>
    have absent := plain.prefixText text written
    split
    · simp [absent]
    · exact absent

theorem IsPlain.not_mem_closing {trimming : Trimming} (plain : trimming.IsPlain) :
    '{' ∉ closing trimming.suffixText := by
  unfold closing
  split
  · simp
  · next text written =>
    have absent := plain.suffixText text written
    split
    · simp [absent]
    · exact absent

end Trimming

/-! ### Spelling -/

/-- Characters that spell signs. The inside of the placeholder at a hole stands for the hole. -/
inductive Spells {Hole : Type} (stands : Hole → List Char → Prop) :
    List (Sign Hole) → List Char → Prop
  | nil : Spells stands [] []
  | letter {character : Char} {signs : List (Sign Hole)} {text : List Char}
      (plain : character ≠ '{') (rest : Spells stands signs text) :
      Spells stands (.letter character :: signs) (character :: text)
  | hole {content : Hole} {inside : List Char} {signs : List (Sign Hole)} {text : List Char}
      (standing : stands content inside) (closed : '}' ∉ inside)
      (rest : Spells stands signs text) :
      Spells stands (.hole content :: signs) ((Piece.placeholder inside).written ++ text)

namespace Spells

variable {Hole : Type} {stands : Hole → List Char → Prop} {signs : List (Sign Hole)}
  {text : List Char}

theorem mono {later : Hole → List Char → Prop}
    (implies : ∀ content inside, stands content inside → later content inside)
    (spells : Spells stands signs text) : Spells later signs text := by
  induction spells with
  | nil => exact .nil
  | letter plain _ inductionHypothesis => exact .letter plain inductionHypothesis
  | hole standing closed _ inductionHypothesis =>
    exact .hole (implies _ _ standing) closed inductionHypothesis

theorem append {others : List (Sign Hole)} {more : List Char} (first : Spells stands signs text)
    (second : Spells stands others more) : Spells stands (signs ++ others) (text ++ more) := by
  induction first with
  | nil => exact second
  | letter plain _ inductionHypothesis => exact .letter plain inductionHypothesis
  | hole standing closed _ inductionHypothesis =>
    rw [List.append_assoc]
    exact .hole standing closed inductionHypothesis

theorem ofText (plain : '{' ∉ text) : Spells stands (Sign.ofText text) text := by
  induction text with
  | nil => exact .nil
  | cons character rest inductionHypothesis =>
    simp only [List.mem_cons, not_or] at plain
    exact .letter (Ne.symm plain.1) (inductionHypothesis plain.2)

/-- What spells signs one behind the other falls into what spells the first and what spells the
second. -/
theorem split {others : List (Sign Hole)} (spells : Spells stands (signs ++ others) text) :
    ∃ first second, text = first ++ second ∧ Spells stands signs first ∧
      Spells stands others second := by
  induction signs generalizing text with
  | nil => exact ⟨[], text, rfl, .nil, spells⟩
  | cons sign rest inductionHypothesis =>
    cases spells with
    | letter plain spells =>
      obtain ⟨first, second, rfl, spellsRest, spellsOthers⟩ := inductionHypothesis spells
      exact ⟨_ :: first, second, rfl, .letter plain spellsRest, spellsOthers⟩
    | hole standing closed spells =>
      obtain ⟨first, second, rfl, spellsRest, spellsOthers⟩ := inductionHypothesis spells
      exact ⟨_ ++ first, second, by rw [List.append_assoc], .hole standing closed spellsRest,
        spellsOthers⟩

theorem isEmpty_eq (spells : Spells stands signs text) : signs.isEmpty = text.isEmpty := by
  cases spells <;> rfl

/-! ### Blanks of what spells signs -/

theorem getLast?_map {Result : Type} (ofSign : Sign Hole → Result) (ofCharacter : Char → Result)
    (letters : ∀ character, ofSign (.letter character) = ofCharacter character)
    (holes : ∀ content, ofSign (.hole content) = ofCharacter '}')
    (spells : Spells stands signs text) :
    signs.getLast?.map ofSign = text.getLast?.map ofCharacter := by
  rcases List.eq_nil_or_concat' signs with rfl | ⟨front, last, rfl⟩
  · cases spells
    rfl
  · obtain ⟨first, second, rfl, _, spellsLast⟩ := spells.split
    cases spellsLast with
    | letter plain rest =>
      cases rest
      simp [letters]
    | @hole content inside _ _ standing closed rest =>
      cases rest
      have ends : first ++ ((Piece.placeholder inside).written ++ []) =
          (first ++ '#' :: '{' :: inside) ++ ['}'] := by simp [Piece.written]
      rw [ends, List.getLast?_concat, List.getLast?_concat, Option.map_some, Option.map_some, holes]

theorem trimStart (spells : Spells stands signs text) :
    Spells stands (Sign.trimStart signs) (Text.trimStart text) := by
  induction spells with
  | nil => exact .nil
  | @letter character rest text plain spells inductionHypothesis =>
    unfold Sign.trimStart Text.trimStart at *
    rw [List.dropWhile_cons, List.dropWhile_cons]
    cases blank : Text.isBlank character with
    | true => simpa [Sign.isBlank, blank] using inductionHypothesis
    | false => simpa [Sign.isBlank, blank] using .letter plain spells
  | hole standing closed spells => exact .hole standing closed spells

theorem trimEnd (spells : Spells stands signs text) :
    Spells stands (Sign.trimEnd signs) (Text.trimEnd text) := by
  induction signs using List.reverseRecOn generalizing text with
  | nil =>
    cases spells
    exact .nil
  | append_singleton front last inductionHypothesis =>
    obtain ⟨first, second, rfl, spellsFront, spellsLast⟩ := spells.split
    have trimmed := inductionHypothesis spellsFront
    unfold Sign.trimEnd Text.trimEnd at *
    cases spellsLast with
    | @letter character _ _ plain rest =>
      cases rest
      rw [List.reverse_append, List.reverse_append]
      cases blank : Text.isBlank character with
      | true => simpa [Sign.isBlank, blank] using trimmed
      | false => simpa [Sign.isBlank, blank] using spells
    | hole standing closed rest =>
      cases rest
      have ink : Text.isBlank '}' = false := by decide
      simpa [Sign.isBlank, Piece.written, ink] using spells

theorem trim (spells : Spells stands signs text) :
    Spells stands (Sign.trim signs) (Text.trim text) :=
  spells.trimStart.trimEnd

theorem dropOneBlank (spells : Spells stands signs text) :
    Spells stands (Sign.dropOneBlank signs) (Trimming.dropOneBlank text) := by
  cases spells with
  | nil => exact .nil
  | @letter character rest text plain spells =>
    cases blank : Text.isBlank character with
    | true => simpa [Sign.dropOneBlank, Trimming.dropOneBlank, Sign.isBlank, blank] using spells
    | false =>
      simpa [Sign.dropOneBlank, Trimming.dropOneBlank, Sign.isBlank, blank]
        using .letter plain spells
  | hole standing closed spells => exact .hole standing closed spells

/-! ### Words and tokens of what spells signs -/

theorem startsWithWord (spells : Spells stands signs text) :
    Sign.startsWithWord signs = Trimming.startsWithWord text := by
  cases spells with
  | nil => rfl
  | letter => rfl
  | hole => exact (by decide : false = Text.isWordCharacter '#')

theorem endsWithWord (spells : Spells stands signs text) :
    Sign.endsWithWord signs = Trimming.endsWithWord text := by
  unfold Sign.endsWithWord Trimming.endsWithWord
  rw [spells.getLast?_map Sign.isWord Text.isWordCharacter (fun _ => rfl)
    fun _ => (by decide : false = Text.isWordCharacter '}')]

/-- What follows a token is spelled by what follows it in the characters, unless the token could
reach into a placeholder. -/
theorem dropPrefix? {token : List Char} (outside : '#' ∉ token)
    (spells : Spells stands signs text) :
    Option.Rel (Spells stands) (Sign.dropPrefix? token signs)
      (Text.dropPrefixIgnoringCase? token text) := by
  induction token generalizing signs text with
  | nil => exact .some spells
  | cons expected token inductionHypothesis =>
    simp only [List.mem_cons, not_or] at outside
    cases spells with
    | nil => exact .none
    | letter plain spells =>
      rw [Sign.dropPrefix?, Text.dropPrefixIgnoringCase?]
      split
      · exact inductionHypothesis outside.2 spells
      · exact .none
    | hole standing closed spells =>
      have different : Text.lowerAscii '#' ≠ Text.lowerAscii expected := fun same =>
        outside.1 (Text.eq_of_lowerAscii_eq (Or.inl (by decide)) same.symm).symm
      rw [Sign.dropPrefix?, Piece.written, List.cons_append, List.cons_append,
        Text.dropPrefixIgnoringCase?, if_neg different]
      · exact .none
      · simp

/-- `dropPrefix?` from the end. -/
theorem dropPrefix?_reverse {token : List Char} (outside : '}' ∉ token)
    (spells : Spells stands signs text) :
    Option.Rel (fun rest before => Spells stands rest.reverse before.reverse)
      (Sign.dropPrefix? token signs.reverse)
      (Text.dropPrefixIgnoringCase? token text.reverse) := by
  induction token generalizing signs text with
  | nil => exact .some (by simpa using spells)
  | cons expected token inductionHypothesis =>
    simp only [List.mem_cons, not_or] at outside
    rcases List.eq_nil_or_concat' signs with rfl | ⟨front, last, rfl⟩
    · cases spells
      exact .none
    · obtain ⟨first, second, rfl, spellsFront, spellsLast⟩ := spells.split
      rw [List.reverse_append, List.reverse_append, List.reverse_singleton, List.singleton_append]
      cases spellsLast with
      | letter plain rest =>
        cases rest
        rw [List.reverse_singleton, List.singleton_append, Sign.dropPrefix?,
          Text.dropPrefixIgnoringCase?]
        split
        · exact inductionHypothesis outside.2 spellsFront
        · exact .none
      | @hole content inside _ _ standing closed rest =>
        cases rest
        have different : Text.lowerAscii '}' ≠ Text.lowerAscii expected := fun same =>
          outside.1 (Text.eq_of_lowerAscii_eq (Or.inr (by decide)) same.symm).symm
        have ends : ((Piece.placeholder inside).written ++ []).reverse ++ first.reverse =
            '}' :: (inside.reverse ++ ['{', '#'] ++ first.reverse) := by
          simp [Piece.written]
        rw [Sign.dropPrefix?, ends, Text.dropPrefixIgnoringCase?, if_neg different]
        · exact .none
        · simp

theorem dropSuffix? {token : List Char} (outside : '}' ∉ token)
    (spells : Spells stands signs text) :
    Option.Rel (Spells stands) (Sign.dropSuffix? token signs)
      (Text.dropSuffixIgnoringCase? token text) := by
  unfold Sign.dropSuffix? Text.dropSuffixIgnoringCase?
  have outsideReverse : '}' ∉ token.reverse := by simpa using outside
  have reversed := spells.dropPrefix?_reverse outsideReverse
  revert reversed
  generalize Sign.dropPrefix? token.reverse signs.reverse = rest
  generalize Text.dropPrefixIgnoringCase? token.reverse text.reverse = before
  rintro (spells | _)
  · exact .some spells
  · exact .none

theorem behindToken? {token : String} (outside : '#' ∉ token.toList)
    (spells : Spells stands signs text) :
    Option.Rel (Spells stands) (Sign.behindToken? signs token)
      (Trimming.behindToken? text token) := by
  have outsideTrimmed : '#' ∉ Text.trim token.toList := fun member =>
    outside (Text.mem_of_mem_trim member)
  unfold Sign.behindToken? Trimming.behindToken?
  simp only
  split
  · exact .none
  · exact rel_filter (fun spells => by rw [spells.startsWithWord])
      (spells.dropPrefix? outsideTrimmed)

theorem beforeToken? {token : String} (outside : '}' ∉ token.toList)
    (spells : Spells stands signs text) :
    Option.Rel (Spells stands) (Sign.beforeToken? signs token)
      (Trimming.beforeToken? text token) := by
  have outsideTrimmed : '}' ∉ Text.trim token.toList := fun member =>
    outside (Text.mem_of_mem_trim member)
  unfold Sign.beforeToken? Trimming.beforeToken?
  simp only
  split
  · exact .none
  · exact rel_filter (fun spells => by rw [spells.endsWithWord])
      (spells.dropSuffix? outsideTrimmed)

/-! ### Clauses of what spells signs -/

theorem withoutPrefix {tokens : List String} (outside : ∀ token ∈ tokens, '#' ∉ token.toList)
    (spells : Spells stands signs text) :
    Spells stands (Sign.withoutPrefix tokens signs) (Trimming.withoutPrefix tokens text) := by
  have found := rel_findSome? fun token member => spells.behindToken? (outside token member)
  unfold Sign.withoutPrefix Trimming.withoutPrefix
  revert found
  generalize tokens.findSome? (Sign.behindToken? signs) = rest
  generalize tokens.findSome? (Trimming.behindToken? text) = behind
  rintro (spellsRest | _)
  · exact spellsRest.dropOneBlank
  · exact spells

theorem withoutSuffix {tokens : List String} (outside : ∀ token ∈ tokens, '}' ∉ token.toList)
    (spells : Spells stands signs text) :
    Spells stands (Sign.withoutSuffix tokens signs) (Trimming.withoutSuffix tokens text) := by
  have found := rel_findSome? fun token member => spells.beforeToken? (outside token member)
  unfold Sign.withoutSuffix Trimming.withoutSuffix
  revert found
  generalize tokens.findSome? (Sign.beforeToken? signs) = rest
  generalize tokens.findSome? (Trimming.beforeToken? text) = before
  rintro (spellsRest | _)
  · exact spellsRest.trimEnd
  · exact spells

theorem core {trimming : Trimming} (plain : trimming.IsPlain) (spells : Spells stands signs text) :
    Spells stands (Sign.core trimming signs) (trimming.core text) := by
  refine withoutSuffix (fun token member => ?_) (withoutPrefix (fun token member => ?_) spells.trim)
  · exact (plain.tokens token (List.mem_append_right _ member)).2
  · exact (plain.tokens token (List.mem_append_left _ member)).1

/-- A clause is wrapped around signs as it is around the characters that spell them. -/
theorem wrap? {trimming : Trimming} (plain : trimming.IsPlain)
    (spells : Spells stands signs text) :
    Option.Rel (Spells stands) (Sign.wrap? trimming signs) (trimming.wrap? text) := by
  have spellsCore := spells.core plain
  unfold Sign.wrap? Trimming.wrap?
  simp only [spellsCore.isEmpty_eq]
  split
  · exact .none
  · exact .some (((ofText plain.not_mem_opening).append spellsCore).append
      (ofText plain.not_mem_closing))

theorem appendClause {clause : List (Sign Hole)} {written : List Char}
    (spells : Spells stands signs text) (spellsClause : Spells stands clause written) :
    Spells stands (Sign.appendClause signs clause) (Template.appendClause text written) := by
  have last := spells.getLast?_map Sign.isBlank Text.isBlank (fun _ => rfl)
    fun _ => (by decide : false = Text.isBlank '}')
  unfold Sign.appendClause Template.appendClause
  rw [spellsClause.isEmpty_eq]
  split
  · exact spells
  · revert last
    generalize signs.getLast? = lastSign
    generalize text.getLast? = lastCharacter
    intro last
    cases lastSign <;> cases lastCharacter <;> simp at last
    · exact spells.append spellsClause
    · simp only [last]
      split
      · exact spells.append spellsClause
      · exact spells.append (.letter (by decide) spellsClause)

theorem intercalate {separator : List Char} (plain : '{' ∉ separator)
    {parts : List (List (Sign Hole))} {texts : List (List Char)}
    (spells : List.Forall₂ (Spells stands) parts texts) :
    Spells stands (List.intercalate (Sign.ofText separator) parts)
      (List.intercalate separator texts) := by
  induction spells with
  | nil => exact .nil
  | @cons part text parts texts first rest inductionHypothesis =>
    cases rest with
    | nil => simpa using first
    | cons second rest =>
      rw [List.intercalate_cons_cons, List.intercalate_cons_cons]
      exact (first.append (ofText plain)).append inductionHypothesis

end Spells

end Template

end DynamicSql
