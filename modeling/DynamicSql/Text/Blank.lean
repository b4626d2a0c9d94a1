/-
This file holds the blank characters and the operations that only look at blanks: trimming
either end of a text, cutting a text into its words, and collapsing every run of blanks. All
operations work on lists of characters; `trimmed` is the same for a `String`.
-/

namespace DynamicSql.Text

/-- The characters of the Unicode property `White_Space`. -/
def isBlank (character : Char) : Bool :=
  let code := character.toNat
  (9 ≤ code && code ≤ 13) || code == 0x20 || code == 0x85 || code == 0xA0 || code == 0x1680 ||
    (0x2000 ≤ code && code ≤ 0x200A) || code == 0x2028 || code == 0x2029 || code == 0x202F ||
    code == 0x205F || code == 0x3000

/-! ### Trimming -/

/-- The text without its leading blanks. -/
def trimStart (text : List Char) : List Char :=
  text.dropWhile isBlank

/-- The text without its trailing blanks. -/
def trimEnd (text : List Char) : List Char :=
  (text.reverse.dropWhile isBlank).reverse

/-- The text without the blanks at either end. -/
def trim (text : List Char) : List Char :=
  trimEnd (trimStart text)

/-- `trim` for strings. -/
def trimmed (text : String) : String :=
  String.ofList (trim text.toList)

/-- A text of blanks only, the empty text included. -/
def isAllBlank (text : List Char) : Bool :=
  text.all isBlank

@[simp]
theorem trimStart_nil : trimStart [] = [] := rfl

@[simp]
theorem trimStart_cons_of_blank {character : Char} {rest : List Char}
    (blank : isBlank character = true) : trimStart (character :: rest) = trimStart rest := by
  simp [trimStart, blank]

@[simp]
theorem trimStart_cons_of_not_blank {character : Char} {rest : List Char}
    (ink : isBlank character = false) : trimStart (character :: rest) = character :: rest := by
  simp [trimStart, ink]

theorem mem_of_mem_trim {text : List Char} {character : Char} (member : character ∈ trim text) :
    character ∈ text := by
  unfold trim trimEnd trimStart at member
  have inStart := (List.dropWhile_sublist _).subset (List.mem_reverse.1 member)
  exact (List.dropWhile_sublist _).subset (List.mem_reverse.1 inStart)

/-- Trimming removes blanks only. -/
theorem mem_trim_of_mem {text : List Char} {character : Char} (member : character ∈ text)
    (ink : isBlank character = false) : character ∈ trim text := by
  have kept : ∀ {text : List Char}, character ∈ text → character ∈ text.dropWhile isBlank := by
    intro text member
    rw [← List.takeWhile_append_dropWhile (p := isBlank) (l := text)] at member
    rcases List.mem_append.1 member with dropped | kept
    · have blank := List.all_eq_true.1 (List.all_takeWhile (p := isBlank)) character dropped
      rw [ink] at blank
      cases blank
    · exact kept
  unfold trim trimEnd trimStart
  exact List.mem_reverse.2 (kept (List.mem_reverse.2 (kept member)))

@[simp]
theorem isAllBlank_trim (text : List Char) : isAllBlank (trim text) = isAllBlank text := by
  rw [Bool.eq_iff_iff]
  unfold isAllBlank
  simp only [List.all_eq_true]
  constructor
  · intro allBlank character member
    cases ink : isBlank character with
    | true => rfl
    | false => rw [← ink, allBlank character (mem_trim_of_mem member ink)]
  · exact fun allBlank character member => allBlank character (mem_of_mem_trim member)

/-- Nothing is left of blanks only. -/
@[simp]
theorem trim_eq_nil_iff {text : List Char} : trim text = [] ↔ isAllBlank text = true := by
  constructor
  · intro nothing
    rw [← isAllBlank_trim, nothing]
    rfl
  · intro allBlank
    have nothing : trimStart text = [] := by
      induction text with
      | nil => rfl
      | cons character rest inductionHypothesis =>
        obtain ⟨blank, later⟩ := Bool.and_eq_true_iff.1 allBlank
        rw [trimStart_cons_of_blank blank, inductionHypothesis later]
    rw [trim, nothing]
    rfl

/-! ### Words -/

/-- The words of a text, `current` being the word read so far, last character first. -/
def wordsFrom (current : List Char) : List Char → List (List Char)
  | [] => if current.isEmpty then [] else [current.reverse]
  | character :: rest =>
    if isBlank character then
      if current.isEmpty then wordsFrom [] rest else current.reverse :: wordsFrom [] rest
    else wordsFrom (character :: current) rest

/-- The maximal runs of characters that are not blank, in order. -/
def words (text : List Char) : List (List Char) :=
  wordsFrom [] text

/-- The words of a text with one space between each two. -/
def collapse (text : List Char) : List Char :=
  List.intercalate [' '] (words text)

end DynamicSql.Text
