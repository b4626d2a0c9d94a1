/-
This file says that tags are read back from what they are written as. A tag is well named if its
name and its keys are names of markup and no key comes twice. Then nothing in a name ends it,
nothing in a value closes its quotation marks, and the bracket at the end is the first one outside
of them; so cutting gives the inside of the tag, and reading that gives the tag.
-/

import DynamicSql.Markup.Lexeme
import DynamicSql.Markup.Writer
import DynamicSql.Proofs.Markup.Encoding

namespace DynamicSql.Markup

/-! ### Names -/

/-- The codes that the first character of a name may have, in ranges. -/
def nameStartRanges : List (Nat × Nat) :=
  [(0x3A, 0x3A), (0x41, 0x5A), (0x5F, 0x5F), (0x61, 0x7A), (0xC0, 0xD6), (0xD8, 0xF6),
    (0xF8, 0x2FF), (0x370, 0x37D), (0x37F, 0x1FFF), (0x200C, 0x200D), (0x2070, 0x218F),
    (0x2C00, 0x2FEF), (0x3001, 0xD7FF), (0xF900, 0xFDCF), (0xFDF0, 0xFFFD), (0x10000, 0xEFFFF)]

/-- The codes that every other character of a name may have as well. -/
def namePartRanges : List (Nat × Nat) :=
  [(0x2D, 0x2E), (0x30, 0x39), (0xB7, 0xB7), (0x300, 0x36F), (0x203F, 0x2040)]

/-- The code of a character is in one of some ranges. -/
def isWithin (ranges : List (Nat × Nat)) (character : Char) : Bool :=
  ranges.any fun (first, last) => first ≤ character.toNat && character.toNat ≤ last

/-- A character that a name may begin with. -/
def isNameStart (character : Char) : Bool :=
  isWithin nameStartRanges character

/-- A character that may stand in a name. -/
def isNamePart (character : Char) : Bool :=
  isNameStart character || isWithin namePartRanges character

/-- A name of markup. -/
def isName : List Char → Bool
  | [] => false
  | first :: rest => isNameStart first && rest.all isNamePart

theorem isNamePart_of_mem {name : List Char} (named : isName name = true) {character : Char}
    (member : character ∈ name) : isNamePart character = true := by
  cases name with
  | nil => cases named
  | cons first rest =>
    obtain ⟨start, parts⟩ := Bool.and_eq_true_iff.1 named
    rcases List.mem_cons.1 member with rfl | inRest
    · rw [isNamePart, start, Bool.true_or]
    · exact List.all_eq_true.1 parts character inRest

/-- A character that may not stand in a name does not. -/
theorem not_mem_of_isName {name : List Char} (named : isName name = true) {character : Char}
    (noPart : isNamePart character = false) : character ∉ name := by
  intro member
  rw [isNamePart_of_mem named member] at noPart
  cases noPart

theorem isSpace_of_isNamePart {character : Char} (part : isNamePart character = true) :
    isSpace character = false := by
  rw [Bool.eq_false_iff]
  intro space
  simp only [isSpace, Bool.or_eq_true, beq_iff_eq] at space
  rcases space with ((rfl | rfl) | rfl) | rfl <;> exact absurd part (by decide)

/-- A tag whose name and keys are names of markup, no two keys the same. -/
structure Tag.IsWellNamed (tag : Tag) : Prop where
  name : isName tag.name.toList = true
  keys : ∀ entry ∈ tag.attributes, isName entry.1.toList = true
  distinct : (tag.attributes.map Prod.fst).Nodup

/-- What stands between the brackets of an opening tag. -/
def Tag.inside (tag : Tag) : List Char :=
  tag.name.toList ++ tag.attributes.flatMap attributeText

theorem Tag.text_eq (tag : Tag) : tag.text = '<' :: tag.inside := rfl

/-! ### The end of a tag -/

/-- The end of a tag is not looked for within a text, but behind it. -/
def Passes (text : List Char) : Prop :=
  ∀ rest, cutTag? none (text ++ rest) =
    (cutTag? none rest).map fun parts => (text ++ parts.1, parts.2)

theorem Passes.append {first second : List Char} (passesFirst : Passes first)
    (passesSecond : Passes second) : Passes (first ++ second) := by
  intro rest
  rw [List.append_assoc, passesFirst, passesSecond, Option.map_map]
  congr 1
  funext parts
  exact Prod.ext (List.append_assoc ..).symm rfl

/-- A text passes if it has neither a closing bracket nor a quotation mark in it. -/
theorem passes_of_plain {text : List Char} (noEnd : '>' ∉ text) (noSingle : '\'' ∉ text)
    (noDouble : '"' ∉ text) : Passes text := by
  intro rest
  induction text with
  | nil =>
    rw [List.nil_append]
    exact Option.map_id'.symm
  | cons character later inductionHypothesis =>
    simp only [List.mem_cons, not_or] at noEnd noSingle noDouble
    have noMark : ¬ (character = '\'' || character = '"') = true := by
      simp [Ne.symm noSingle.1, Ne.symm noDouble.1]
    rw [List.cons_append, cutTag?]
    simp only [if_neg (Ne.symm noEnd.1), if_neg noMark,
      inductionHypothesis noEnd.2 noSingle.2 noDouble.2, Option.map_map]
    rfl

/-- Within quotation marks everything passes up to the next one. -/
theorem cutTag?_quoted {value : List Char} (absent : '"' ∉ value) (rest : List Char) :
    cutTag? (some '"') (value ++ '"' :: rest) =
      (cutTag? none rest).map fun parts => (value ++ '"' :: parts.1, parts.2) := by
  induction value with
  | nil => rfl
  | cons character later inductionHypothesis =>
    simp only [List.mem_cons, not_or] at absent
    rw [List.cons_append, cutTag?]
    simp only [if_neg (Ne.symm absent.1), inductionHypothesis absent.2, Option.map_map]
    rfl

theorem passes_quoted {value : List Char} (absent : '"' ∉ value) :
    Passes ('"' :: (value ++ ['"'])) := by
  intro rest
  have opens : ∀ text, cutTag? none ('"' :: text) =
      (cutTag? (some '"') text).map fun parts => ('"' :: parts.1, parts.2) := fun _ => rfl
  rw [List.cons_append, List.append_assoc, List.singleton_append, opens, cutTag?_quoted absent,
    Option.map_map]
  congr 1
  funext parts
  simp

theorem cutTag?_of_passes {text : List Char} (passes : Passes text) (rest : List Char) :
    cutTag? none (text ++ '>' :: rest) = some (text, rest) := by
  rw [passes]
  exact congrArg some (Prod.ext (List.append_nil text) rfl)

variable {tag : Tag}

theorem passes_of_isName {name : List Char} (named : isName name = true) : Passes name :=
  passes_of_plain (not_mem_of_isName named (by decide)) (not_mem_of_isName named (by decide))
    (not_mem_of_isName named (by decide))

theorem passes_attributeText {entry : String × String} (named : isName entry.1.toList = true) :
    Passes (attributeText entry) := by
  have space : Passes [' '] := passes_of_plain (by decide) (by decide) (by decide)
  have equals : Passes ['='] := passes_of_plain (by decide) (by decide) (by decide)
  have value := passes_quoted (not_mem_flatMap not_mem_encodeInValue entry.2.toList)
  have whole := (space.append (passes_of_isName named)).append (equals.append value)
  simpa [attributeText] using whole

theorem passes_flatMap {entries : List (String × String)}
    (named : ∀ entry ∈ entries, isName entry.1.toList = true) :
    Passes (entries.flatMap attributeText) := by
  induction entries with
  | nil => exact passes_of_plain (by simp) (by simp) (by simp)
  | cons entry rest inductionHypothesis =>
    obtain ⟨first, later⟩ := List.forall_mem_cons.1 named
    rw [List.flatMap_cons]
    exact (passes_attributeText first).append (inductionHypothesis later)

theorem passes_inside (wellNamed : tag.IsWellNamed) : Passes tag.inside :=
  (passes_of_isName wellNamed.name).append (passes_flatMap wellNamed.keys)

/-! ### Attributes -/

/-- Attributes as they are written, with their values encoded. -/
def encoded (entries : List (String × String)) : List (List Char × List Char) :=
  entries.map fun entry => (entry.1.toList, entry.2.toList.flatMap encodeInValue)

theorem decodeAttributes_encoded (tagName : String) (entries : List (String × String)) :
    decodeAttributes tagName (encoded entries) = .ok entries := by
  induction entries with
  | nil => rfl
  | cons entry rest inductionHypothesis =>
    rw [encoded, List.map_cons, decodeAttributes, decode_flatMap encodes_encodeInValue]
    rw [encoded] at inductionHypothesis
    simp only [inductionHypothesis, String.ofList_toList]

theorem isKeyPart_of_isNamePart {character : Char} (part : isNamePart character = true) :
    isKeyPart character = true := by
  have noEquals : character ≠ '=' := by
    rintro rfl
    exact absurd part (by decide)
  simp [isKeyPart, noEquals, isSpace_of_isNamePart part]

theorem quotedValue_append {value : List Char} (absent : '"' ∉ value) (total : Nat)
    (rest : List Char) :
    quotedValue total ('"' :: (value ++ '"' :: rest)) = .ok (value, rest) := by
  have begins : ('"' :: (value ++ '"' :: rest)).dropWhile isSpace =
      '"' :: (value ++ '"' :: rest) := rfl
  simp only [quotedValue, begins, decide_true, Bool.true_or, if_true,
    Text.cutFirst?_append absent rest]

/-- One attribute is read, and then those behind it. -/
theorem rawAttributes_cons {key : String} (named : isName key.toList = true) (value : String)
    {seen : List (List Char × Nat)} (fresh : seen.lookup key.toList = none) (fuel total : Nat)
    (rest : List Char) :
    ∃ place, rawAttributes (fuel + 1) total seen (attributeText (key, value) ++ rest) =
      let (attributes, fault) := rawAttributes fuel total ((key.toList, place) :: seen) rest
      ((key.toList, value.toList.flatMap encodeInValue) :: attributes, fault) := by
  have text : attributeText (key, value) ++ rest = ' ' :: (key.toList ++
      '=' :: '"' :: (value.toList.flatMap encodeInValue ++ '"' :: rest)) := by
    simp [attributeText]
  rw [text]
  generalize key.toList = name at *
  cases name with
  | nil => cases named
  | cons first later =>
    have start := isNamePart_of_mem named List.mem_cons_self
    have parts : ∀ character ∈ later, isKeyPart character = true := fun character member =>
      isKeyPart_of_isNamePart (isNamePart_of_mem named (List.mem_cons_of_mem first member))
    have begins : ∀ more, (' ' :: (first :: later ++ more)).dropWhile isSpace =
        first :: (later ++ more) := by
      intro more
      have space : isSpace ' ' = true := by decide
      rw [List.dropWhile_cons_of_pos space, List.cons_append, List.dropWhile_cons_of_neg]
      rw [isSpace_of_isNamePart start]
      exact Bool.false_ne_true
    have valued := quotedValue_append (not_mem_flatMap not_mem_encodeInValue value.toList) total
      rest
    generalize value.toList.flatMap encodeInValue = written at *
    refine ⟨total - byteCount (first :: (later ++ '=' :: '"' :: (written ++ '"' :: rest))), ?_⟩
    have ends : ∀ more, ('=' :: more).takeWhile isKeyPart = [] := fun _ => rfl
    have behind : ∀ more, behindEquals total (('=' :: more).dropWhile isKeyPart) = .ok more :=
      fun _ => rfl
    rw [rawAttributes]
    simp only [begins, List.takeWhile_append_of_pos parts, List.dropWhile_append_of_pos parts,
      ends, behind, List.append_nil, fresh, valued]

/-- Attributes with distinct keys are read as they are written. -/
theorem rawAttributes_flatMap {entries : List (String × String)}
    (named : ∀ entry ∈ entries, isName entry.1.toList = true)
    (distinct : (entries.map Prod.fst).Nodup) (total : Nat) {fuel : Nat}
    (enough : entries.length < fuel) (seen : List (List Char × Nat))
    (fresh : ∀ entry ∈ entries, seen.lookup entry.1.toList = none) :
    rawAttributes fuel total seen (entries.flatMap attributeText) = (encoded entries, none) := by
  induction entries generalizing fuel seen with
  | nil =>
    obtain ⟨fuel, rfl⟩ := Nat.exists_eq_add_one_of_ne_zero (Nat.ne_of_gt enough)
    rfl
  | cons entry rest inductionHypothesis =>
    obtain ⟨fuel, rfl⟩ := Nat.exists_eq_add_one_of_ne_zero (Nat.ne_of_gt (Nat.zero_lt_of_lt enough))
    obtain ⟨namedFirst, namedRest⟩ := List.forall_mem_cons.1 named
    obtain ⟨freshFirst, freshRest⟩ := List.forall_mem_cons.1 fresh
    obtain ⟨absent, distinctRest⟩ := List.nodup_cons.1 distinct
    obtain ⟨place, reads⟩ := rawAttributes_cons namedFirst entry.2 freshFirst fuel total
      (rest.flatMap attributeText)
    have freshBehind : ∀ other ∈ rest,
        ((entry.1.toList, place) :: seen).lookup other.1.toList = none := by
      intro other member
      have different : (other.1.toList == entry.1.toList) = false := by
        refine beq_eq_false_iff_ne.2 fun same => absent ?_
        exact List.mem_map.2 ⟨other, member, String.toList_inj.1 same⟩
      rw [List.lookup_cons, different]
      exact freshRest other member
    have readsRest :=
      inductionHypothesis namedRest distinctRest (Nat.lt_of_succ_lt_succ enough) _ freshBehind
    rw [List.flatMap_cons, reads, readsRest]
    rfl

theorem length_le_flatMap (entries : List (String × String)) :
    entries.length ≤ (entries.flatMap attributeText).length := by
  induction entries with
  | nil => exact Nat.le_refl 0
  | cons entry rest inductionHypothesis =>
    rw [List.flatMap_cons, List.length_append, List.length_cons, Nat.add_comm]
    exact Nat.add_le_add (Nat.succ_le_succ (Nat.zero_le _)) inductionHypothesis

/-! ### Tags -/

/-- A tag is read back from its inside. -/
@[simp]
theorem Tag.read_inside (wellNamed : tag.IsWellNamed) : Tag.read tag.inside = .ok tag := by
  have letters : ∀ character ∈ tag.name.toList, (!isSpace character) = true := by
    intro character member
    rw [isSpace_of_isNamePart (isNamePart_of_mem wellNamed.name member)]
    rfl
  have takes : (tag.attributes.flatMap attributeText).takeWhile (!isSpace ·) = [] := by
    cases tag.attributes with
    | nil => rfl
    | cons entry rest => rfl
  have drops : (tag.attributes.flatMap attributeText).dropWhile (!isSpace ·) =
      tag.attributes.flatMap attributeText := by
    cases tag.attributes with
    | nil => rfl
    | cons entry rest => rfl
  have enough : tag.attributes.length < tag.inside.length + 1 := by
    have bound := length_le_flatMap tag.attributes
    rw [Tag.inside, List.length_append]
    omega
  have raw := rawAttributes_flatMap wellNamed.keys wellNamed.distinct (byteCount tag.inside)
    enough [] fun _ _ => rfl
  unfold Tag.read
  rw [Tag.inside] at raw ⊢
  simp only [List.takeWhile_append_of_pos letters, List.dropWhile_append_of_pos letters, takes,
    drops, List.append_nil, raw, String.ofList_toList, decodeAttributes_encoded]

/-- No slash ends the inside of a tag. -/
theorem Tag.getLast?_inside (wellNamed : tag.IsWellNamed) : tag.inside.getLast? ≠ some '/' := by
  rw [Tag.inside]
  rcases List.eq_nil_or_concat tag.attributes with none | ⟨first, last, isAttributes⟩
  · rw [none, List.flatMap_nil, List.append_nil]
    exact fun slash => not_mem_of_isName wellNamed.name (by decide) (List.mem_of_getLast? slash)
  · rw [isAttributes, List.concat_eq_append, List.flatMap_append, List.flatMap_singleton,
      attributeText, ← List.append_assoc, ← List.append_assoc, List.getLast?_concat]
    exact fun slash => absurd (Option.some.inj slash) (by decide)

/-- What begins with a name is neither a closing tag nor a declaration nor an instruction. -/
theorem cutMarkup_of_isName {name : List Char} (named : isName name = true) (depth : Nat)
    (rest : List Char) : cutMarkup depth (name ++ rest) = cutOpening (name ++ rest) := by
  cases name with
  | nil => cases named
  | cons first later =>
    have part := isNamePart_of_mem named List.mem_cons_self
    rw [List.cons_append]
    unfold cutMarkup
    split
    · next empty => cases empty
    · next same =>
      obtain ⟨rfl, -⟩ := List.cons.inj same
      exact absurd part (by decide)
    · next same =>
      obtain ⟨rfl, -⟩ := List.cons.inj same
      exact absurd part (by decide)
    · next same =>
      obtain ⟨rfl, -⟩ := List.cons.inj same
      exact absurd part (by decide)
    · rfl

theorem cut?_opening (wellNamed : tag.IsWellNamed) (depth : Nat) (rest : List Char) :
    cut? depth (tag.text ++ '>' :: rest) = some (.lexeme (.opening tag.inside) rest) := by
  have cut := cutTag?_of_passes (passes_inside wellNamed) rest
  have isOpening : cutMarkup depth (tag.inside ++ '>' :: rest) =
      cutOpening (tag.inside ++ '>' :: rest) := by
    rw [Tag.inside, List.append_assoc]
    exact cutMarkup_of_isName wellNamed.name depth _
  rw [Tag.text_eq, List.cons_append, cut?, isOpening, cutOpening]
  simp only [cut, if_neg (Tag.getLast?_inside wellNamed)]

theorem cut?_empty (wellNamed : tag.IsWellNamed) (depth : Nat) (rest : List Char) :
    cut? depth (tag.text ++ '/' :: '>' :: rest) = some (.lexeme (.empty tag.inside) rest) := by
  have slash : Passes ['/'] := passes_of_plain (by decide) (by decide) (by decide)
  have cut := cutTag?_of_passes ((passes_inside wellNamed).append slash) rest
  rw [List.append_assoc, List.singleton_append] at cut
  have isOpening : cutMarkup depth (tag.inside ++ '/' :: '>' :: rest) =
      cutOpening (tag.inside ++ '/' :: '>' :: rest) := by
    rw [Tag.inside, List.append_assoc]
    exact cutMarkup_of_isName wellNamed.name depth _
  rw [Tag.text_eq, List.cons_append, cut?, isOpening, cutOpening]
  simp only [cut, List.getLast?_append, List.getLast?_singleton, Option.some_or, if_true,
    List.dropLast_concat]

theorem closingName_of_isName {name : List Char} (named : isName name = true) :
    closingName name = name := by
  have kept : name.reverse.dropWhile isSpace = name.reverse := by
    cases isReverse : name.reverse with
    | nil => rfl
    | cons last before =>
      have member : last ∈ name := List.mem_reverse.1 (isReverse ▸ List.mem_cons_self)
      rw [List.dropWhile_cons_of_neg]
      rw [isSpace_of_isNamePart (isNamePart_of_mem named member)]
      exact Bool.false_ne_true
  rw [closingName, kept, List.reverse_reverse]
  simp

theorem cut?_closing (wellNamed : tag.IsWellNamed) (depth : Nat) (rest : List Char) :
    cut? (depth + 1) (tag.closing ++ rest) =
      some (.lexeme (.closing tag.name.toList) rest) := by
  have cut := cutTag?_of_passes (passes_of_isName wellNamed.name) rest
  have text : tag.closing ++ rest = '<' :: '/' :: (tag.name.toList ++ '>' :: rest) := by
    simp [Tag.closing]
  rw [text, cut?, cutMarkup, cutClosing, cut]
  simp only [closingName_of_isName wellNamed.name, if_neg (Nat.succ_ne_zero depth)]

end DynamicSql.Markup
