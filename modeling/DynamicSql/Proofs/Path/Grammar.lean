/-
This file says which texts write which paths, and proves that the reader accepts exactly these
(`read?_eq_some_iff`). A path is written as a name and its steps, each a name behind a point or a
position in brackets, with blanks around the whole and around each position. A step begins with a
point or a bracket, so the name before it ends there and the text can be cut in one way only. The
text that the path is written as is one of its texts, also when its first name is replaced.
-/

import DynamicSql.Proofs.Number.Numeral
import DynamicSql.Proofs.Path.Writing

namespace DynamicSql.Path

/-! ### Texts of paths -/

/-- A text that writes steps. -/
inductive WritesSteps : List Char → List Segment → Prop
  | nil : WritesSteps [] []
  | field {name : String} {rest : List Char} {steps : List Segment} (isName : IsName name)
      (others : WritesSteps rest steps) :
      WritesSteps ('.' :: (name.toList ++ rest)) (.field name :: steps)
  | index {inside rest : List Char} {position : Nat} {steps : List Segment}
      (written : Number.WritesNatural (Text.trim inside) position)
      (small : position < positionLimit) (others : WritesSteps rest steps) :
      WritesSteps ('[' :: (inside ++ ']' :: rest)) (.index position :: steps)

/-- A text that writes a path. -/
inductive Writes (text : List Char) : Path → Prop
  | intro {name : String} {rest : List Char} {steps : List Segment} (isName : IsName name)
      (others : WritesSteps rest steps) (whole : Text.trim text = name.toList ++ rest) :
      Writes text ⟨.field name :: steps⟩

/-- A name ends where steps begin. -/
theorem WritesSteps.not_isNameCharacter_head {text : List Char} {steps : List Segment}
    (written : WritesSteps text steps) :
    ∀ character ∈ text.head?, Text.isNameCharacter character = false := by
  cases written with
  | nil => simp
  | field => simp; decide
  | index => simp; decide

/-- The brackets around a position are not closed within it. -/
theorem not_mem_of_writesNatural_trim {inside : List Char} {position : Nat}
    (written : Number.WritesNatural (Text.trim inside) position) : ']' ∉ inside := by
  intro member
  rcases written.eq_plus_or_isDigit (Text.mem_trim_of_mem member (by decide)) with plus | digit
  · cases plus
  · cases digit

/-! ### Reading -/

theorem writesSteps_of_steps? {text : List Char} {steps : List Segment}
    (read : steps? text = some steps) : WritesSteps text steps := by
  fun_induction steps? text generalizing steps with
  | case1 =>
    obtain rfl : [] = steps := by simpa using read
    exact .nil
  | case2 => cases read
  | case3 rest name filled =>
    rename_i inductionHypothesis
    obtain ⟨others, readOthers, rfl⟩ := Option.map_eq_some_iff.1 read
    have whole : rest = (String.ofList name).toList ++ rest.dropWhile Text.isNameCharacter := by
      rw [String.toList_ofList, List.takeWhile_append_dropWhile]
    have written := WritesSteps.field (isName_takeWhile (eq_false_of_ne_true filled))
      (inductionHypothesis readOthers)
    rwa [← whole] at written
  | case4 => cases read
  | case5 => cases read
  | case6 rest inside after cut _ position isPosition inductionHypothesis =>
    obtain ⟨others, readOthers, rfl⟩ := Option.map_eq_some_iff.1 read
    obtain ⟨written, small⟩ := Number.readUnsigned?_eq_some_iff.1 isPosition
    rw [(Text.cutFirst?_eq cut).1]
    exact .index written small (inductionHypothesis readOthers)
  | case7 => cases read

theorem steps?_of_writesSteps {text : List Char} {steps : List Segment}
    (written : WritesSteps text steps) : steps? text = some steps := by
  induction written with
  | nil => rw [steps?]
  | field isName others inductionHypothesis =>
    obtain ⟨taken, dropped⟩ := Text.span_of_ended isName.2 others.not_isNameCharacter_head
    rw [steps?, taken, dropped, inductionHypothesis]
    simp [isName.1]
  | @index inside rest position steps written small others inductionHypothesis =>
    have cut := Text.cutFirst?_append (not_mem_of_writesNatural_trim written) rest
    have isPosition := Number.readUnsigned?_eq_some_iff.2 ⟨written, small⟩
    rw [steps?]
    split
    · next none => simp [cut] at none
    · next before after found =>
      obtain ⟨rfl, rfl⟩ : inside = before ∧ rest = after := by simpa [cut] using found
      simp only [isPosition, inductionHypothesis]
      rfl

theorem steps?_eq_some_iff {text : List Char} {steps : List Segment} :
    steps? text = some steps ↔ WritesSteps text steps :=
  ⟨writesSteps_of_steps?, steps?_of_writesSteps⟩

/-- A text is read as a path exactly if it writes the path. -/
theorem read?_eq_some_iff {text : List Char} {path : Path} :
    read? text = some path ↔ Writes text path := by
  unfold read?
  constructor
  · intro read
    simp only at read
    split at read
    · cases read
    · next filled =>
      obtain ⟨steps, readSteps, rfl⟩ := Option.map_eq_some_iff.1 read
      refine .intro (isName_takeWhile (eq_false_of_ne_true filled))
        (steps?_eq_some_iff.1 readSteps) ?_
      rw [String.toList_ofList, List.takeWhile_append_dropWhile]
  · rintro ⟨isName, others, whole⟩
    obtain ⟨taken, dropped⟩ := Text.span_of_ended isName.2 others.not_isNameCharacter_head
    simp only [whole, taken, dropped, steps?_eq_some_iff.2 others]
    simp [isName.1]

/-- The reader of paths accepts exactly the texts that write one, and undoes writing: a path that
has been read is read from its own text, also with its first name replaced by another one. -/
theorem read?_exact (text : List Char) (path : Path) :
    (read? text = some path ↔ Writes text path) ∧
      (Writes text path → read? path.text = some path ∧
        ∀ name, IsName name → read? (path.withRoot name).text = some (path.withRoot name)) := by
  refine ⟨read?_eq_some_iff, fun written => ?_⟩
  have readable := isReadable_of_read? (read?_eq_some_iff.2 written)
  exact ⟨read?_text readable, fun name isName => read?_text (readable.withRoot isName)⟩

/-- A path of a name, a position and a name. -/
def itemId (name : String) : Path :=
  ⟨[.field name, .index 2, .field "id"]⟩

/-- Blanks and a plus sign are read, but not written back. -/
theorem read?_exact_items :
    read? " items[ +2 ].id ".toList = some (itemId "items") ∧
      read? "items[2].id".toList = some (itemId "items") ∧
      read? "rows[2].id".toList = some (itemId "rows") := by
  have two : Number.WritesNatural (Text.trim [' ', '+', '2', ' ']) 2 :=
    .plus ⟨List.cons_ne_nil _ _, List.all_eq_true.1 rfl, rfl⟩
  have isId : IsName "id" := isName_of_all (by decide) (by decide)
  have last : WritesSteps ['.', 'i', 'd'] [.field "id"] := .field isId .nil
  have behind : WritesSteps ['[', ' ', '+', '2', ' ', ']', '.', 'i', 'd'] [.index 2, .field "id"] :=
    .index two (by decide) last
  have written : Writes " items[ +2 ].id ".toList (itemId "items") :=
    .intro (isName_of_all (by decide) (by decide)) behind (by decide)
  have text : (itemId "items").text = "items[2].id".toList := by decide +kernel
  have textRenamed : (itemId "rows").text = "rows[2].id".toList := by decide +kernel
  obtain ⟨read, undoes⟩ := read?_exact " items[ +2 ].id ".toList (itemId "items")
  obtain ⟨back, renamed⟩ := undoes written
  rw [← text, ← textRenamed]
  exact ⟨read.2 written, back, renamed "rows" (isName_of_all (by decide) (by decide))⟩

end DynamicSql.Path
