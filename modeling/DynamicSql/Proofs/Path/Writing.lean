/-
This file proves that paths are read back from the text they are written as. Every path that has
been read consists of names and positions in range (`isReadable_of_read?`), also with its first name
replaced, and such a path is read from its own text (`read?_text`). That text holds characters of
names, points and brackets only, so neither a blank nor a comma nor a brace can stand in it.
-/

import DynamicSql.Path

namespace DynamicSql

/-! ### Texts -/

namespace Text

/-- The codes of the blank characters. -/
def blankCodes : List Nat :=
  [9, 10, 11, 12, 13, 0x20, 0x85, 0xA0, 0x1680, 0x2000, 0x2001, 0x2002, 0x2003, 0x2004, 0x2005,
    0x2006, 0x2007, 0x2008, 0x2009, 0x200A, 0x2028, 0x2029, 0x202F, 0x205F, 0x3000]

theorem toNat_mem_blankCodes {character : Char} (blank : isBlank character = true) :
    character.toNat ∈ blankCodes := by
  simp only [isBlank, Bool.or_eq_true, Bool.and_eq_true, decide_eq_true_eq, beq_iff_eq] at blank
  simp only [blankCodes, List.mem_cons, List.not_mem_nil, or_false]
  omega

theorem isBlank_of_isNameCharacter {character : Char} (name : isNameCharacter character = true) :
    isBlank character = false := by
  have codes : ∀ code ∈ blankCodes, isNameCharacter (Char.ofNat code) = false := by decide +kernel
  cases blank : isBlank character with
  | false => rfl
  | true =>
    have ofCode := codes _ (toNat_mem_blankCodes blank)
    rw [Char.ofNat_toNat, name] at ofCode
    cases ofCode

theorem cutFirst?_eq_none {separator : Char} {text : List Char} (absent : separator ∉ text) :
    cutFirst? separator text = none := by
  cases cut : cutFirst? separator text with
  | none => rfl
  | some parts =>
    rw [(cutFirst?_eq cut).1] at absent
    simp at absent

theorem isNameCharacter_of_isDigit {character : Char} (digit : Number.isDigit character = true) :
    isNameCharacter character = true := by
  have ascii : character.isAlphanum = true := by
    unfold Number.isDigit at digit
    simp only [Bool.and_eq_true, decide_eq_true_eq] at digit
    simp only [Char.isAlphanum, Char.isDigit, Bool.or_eq_true, Bool.and_eq_true, decide_eq_true_eq]
    exact Or.inr digit
  simp [isNameCharacter, isAlphanumeric_of_isAlphanum ascii]

theorem dropWhile_of_ended {belongs : Char → Bool} {rest : List Char}
    (ended : ∀ character ∈ rest.head?, belongs character = false) :
    rest.dropWhile belongs = rest := by
  cases rest with
  | nil => rfl
  | cons character rest => simp [ended character (by simp)]

/-- A run of characters of one class ends where the text goes on with none of the class. -/
theorem span_of_ended {belongs : Char → Bool} {run rest : List Char}
    (all : ∀ character ∈ run, belongs character = true)
    (ended : ∀ character ∈ rest.head?, belongs character = false) :
    (run ++ rest).takeWhile belongs = run ∧ (run ++ rest).dropWhile belongs = rest := by
  rw [List.takeWhile_append_of_pos all, List.dropWhile_append_of_pos all,
    dropWhile_of_ended ended]
  cases rest with
  | nil => simp
  | cons character rest => simp [ended character (by simp)]

/-- Nothing is dropped at the end of a text whose last character is none of the class. -/
theorem reverse_dropWhile_reverse {belongs : Char → Bool} {text : List Char}
    (closed : ∀ character ∈ text.getLast?, belongs character = false) :
    (text.reverse.dropWhile belongs).reverse = text := by
  rw [← List.head?_reverse] at closed
  rw [dropWhile_of_ended closed, List.reverse_reverse]

/-- A text that neither begins nor ends with a blank has none to trim. -/
theorem trim_of_ends {text : List Char}
    (opened : ∀ character ∈ text.head?, isBlank character = false)
    (closed : ∀ character ∈ text.getLast?, isBlank character = false) : trim text = text := by
  have start : trimStart text = text := dropWhile_of_ended opened
  rw [trim, start, trimEnd, reverse_dropWhile_reverse closed]

theorem trim_eq_self {text : List Char} (ink : ∀ character ∈ text, isBlank character = false) :
    trim text = text :=
  trim_of_ends (fun character isHead => ink character (List.mem_of_head? isHead))
    fun character isLast => ink character (List.mem_of_getLast? isLast)

end Text

/-! ### Numbers -/

namespace Number

theorem readUnsigned?_decimal {limit value : Nat} (small : value < limit) :
    readUnsigned? limit (decimal value) = some value := by
  have noSign : ∀ rest, decimal value ≠ '+' :: rest := by
    intro rest equal
    have digits := all_isDigit_decimal value
    rw [equal] at digits
    simp [isDigit] at digits
  unfold readUnsigned?
  split
  · next rest equal => exact absurd equal (noSign rest)
  · simp [small]

end Number

namespace Path

/-! ### Paths that texts write -/

/-- A name that a path can hold. -/
def IsName (name : String) : Prop :=
  name.toList ≠ [] ∧ ∀ character ∈ name.toList, Text.isNameCharacter character = true

theorem isName_of_all {name : String} (filled : name.toList ≠ [])
    (named : name.toList.all Text.isNameCharacter = true) : IsName name :=
  ⟨filled, List.all_eq_true.1 named⟩

/-- A step that can stand behind the first name of a path. -/
def IsStep : Segment → Prop
  | .field name => IsName name
  | .index position => position < positionLimit

/-- A path that some text writes: a name, then steps. -/
def IsReadable (path : Path) : Prop :=
  ∃ name steps, path.segments = .field name :: steps ∧ IsName name ∧ ∀ step ∈ steps, IsStep step

theorem isName_takeWhile {text : List Char}
    (filled : (text.takeWhile Text.isNameCharacter).isEmpty = false) :
    IsName (String.ofList (text.takeWhile Text.isNameCharacter)) := by
  refine ⟨by simpa using filled, fun character member => ?_⟩
  have all := List.all_takeWhile (p := Text.isNameCharacter) (l := text)
  exact List.all_eq_true.1 all character (by simpa using member)

theorem isStep_of_mem_steps? {text : List Char} {steps : List Segment}
    (read : steps? text = some steps) : ∀ step ∈ steps, IsStep step := by
  fun_induction steps? text generalizing steps with
  | case1 =>
    obtain rfl : [] = steps := by simpa using read
    simp
  | case2 => simp at read
  | case3 rest name filled =>
    rename_i inductionHypothesis
    obtain ⟨others, readOthers, rfl⟩ := Option.map_eq_some_iff.1 read
    refine List.forall_mem_cons.2 ⟨isName_takeWhile (eq_false_of_ne_true filled), ?_⟩
    exact inductionHypothesis readOthers
  | case4 => simp at read
  | case5 => simp at read
  | case6 rest inside after cut smaller position isPosition inductionHypothesis =>
    obtain ⟨others, readOthers, rfl⟩ := Option.map_eq_some_iff.1 read
    refine List.forall_mem_cons.2 ⟨?_, inductionHypothesis readOthers⟩
    unfold Number.readUnsigned? at isPosition
    show position < positionLimit
    simpa using (Option.filter_eq_some_iff.1 isPosition).2
  | case7 => simp at read

theorem isReadable_of_read? {text : List Char} {path : Path} (read : read? text = some path) :
    path.IsReadable := by
  unfold read? at read
  simp only at read
  split at read
  · cases read
  · next filled =>
    obtain ⟨steps, readSteps, rfl⟩ := Option.map_eq_some_iff.1 read
    exact ⟨_, steps, rfl, isName_takeWhile (eq_false_of_ne_true filled),
      isStep_of_mem_steps? readSteps⟩

theorem isName_root {path : Path} (readable : path.IsReadable) : IsName path.root := by
  obtain ⟨name, steps, segments, isName, _⟩ := readable
  simpa only [root, segments] using isName

theorem IsReadable.withRoot {path : Path} (readable : path.IsReadable) {name : String}
    (isName : IsName name) : (path.withRoot name).IsReadable := by
  obtain ⟨_, steps, segments, _, areSteps⟩ := readable
  exact ⟨name, steps, by rw [Path.withRoot, segments, List.tail_cons], isName, areSteps⟩

/-! ### What stands in the text of a path -/

/-- The characters that separate the parts of a path. -/
def separators : List Char := ['.', '[', ']']

theorem mem_stepText {step : Segment} (isStep : IsStep step) {character : Char}
    (member : character ∈ stepText step) :
    Text.isNameCharacter character = true ∨ character ∈ separators := by
  cases step with
  | field name =>
    rcases List.mem_cons.1 member with rfl | inName
    · exact Or.inr (by decide)
    · exact Or.inl (isStep.2 character inName)
  | index position =>
    simp only [stepText, List.mem_cons, List.mem_append, List.not_mem_nil, or_false] at member
    rcases member with (rfl | digit) | rfl
    · exact Or.inr (by decide)
    · have isDigit := List.all_eq_true.1 (Number.all_isDigit_decimal position) character digit
      exact Or.inl (Text.isNameCharacter_of_isDigit isDigit)
    · exact Or.inr (by decide)

theorem mem_text {path : Path} (readable : path.IsReadable) {character : Char}
    (member : character ∈ path.text) :
    Text.isNameCharacter character = true ∨ character ∈ separators := by
  obtain ⟨name, steps, segments, isName, areSteps⟩ := readable
  simp only [text, segments, headText, List.mem_append, List.mem_flatMap] at member
  rcases member with inName | ⟨step, isMember, inStep⟩
  · exact Or.inl (isName.2 character inName)
  · exact mem_stepText (areSteps step isMember) inStep

theorem not_mem_text {path : Path} (readable : path.IsReadable) {character : Char}
    (noName : Text.isNameCharacter character = false) (noSeparator : character ∉ separators) :
    character ∉ path.text := by
  intro member
  rcases mem_text readable member with name | separator
  · rw [noName] at name
    cases name
  · exact noSeparator separator

/-- There are no blanks in the text of a path. -/
@[simp]
theorem trim_text {path : Path} (readable : path.IsReadable) : Text.trim path.text = path.text := by
  refine Text.trim_eq_self fun character member => ?_
  rcases mem_text readable member with name | separator
  · exact Text.isBlank_of_isNameCharacter name
  · have signs : separators.any Text.isBlank = false := by decide
    exact eq_false_of_ne_true (List.any_eq_false.1 signs character separator)

/-- A text that does not end with a point. -/
def HasNoFinalPoint (text : List Char) : Prop :=
  ∀ character ∈ text.getLast?, (character == '.') = false

theorem IsName.hasNoFinalPoint {name : String} (isName : IsName name) :
    HasNoFinalPoint name.toList := by
  intro character isLast
  rw [beq_eq_false_iff_ne]
  rintro rfl
  have named := isName.2 '.' (List.mem_of_getLast? isLast)
  revert named
  decide

theorem HasNoFinalPoint.append {front back : List Char} (ends : HasNoFinalPoint front)
    (endsBack : HasNoFinalPoint back) : HasNoFinalPoint (front ++ back) := by
  intro last isLast
  rw [List.getLast?_append] at isLast
  rcases Option.or_eq_some_iff.1 isLast with isLast | ⟨-, isLast⟩
  · exact endsBack last isLast
  · exact ends last isLast

theorem hasNoFinalPoint_stepText {step : Segment} (isStep : IsStep step) :
    HasNoFinalPoint (stepText step) := by
  cases step with
  | field name =>
    intro last isLast
    rw [stepText, List.getLast?_cons_of_ne_nil isStep.1] at isLast
    exact isStep.hasNoFinalPoint last isLast
  | index position =>
    intro last isLast
    rw [stepText, List.getLast?_concat] at isLast
    obtain rfl := Option.some.inj isLast
    rfl

/-- The text of a path does not end with a point. -/
theorem hasNoFinalPoint_text {path : Path} (readable : path.IsReadable) :
    HasNoFinalPoint path.text := by
  obtain ⟨name, steps, segments, isName, areSteps⟩ := readable
  have endsSteps : HasNoFinalPoint (steps.flatMap stepText) := by
    clear segments
    induction steps with
    | nil => exact nofun
    | cons step rest inductionHypothesis =>
      obtain ⟨isStep, areOthers⟩ := List.forall_mem_cons.1 areSteps
      rw [List.flatMap_cons]
      exact (hasNoFinalPoint_stepText isStep).append (inductionHypothesis areOthers)
  simp only [text, segments, headText]
  exact isName.hasNoFinalPoint.append endsSteps

/-! ### Reading back -/

/-- Steps that follow a name do not go on with it. -/
theorem head?_flatMap_stepText (steps : List Segment) :
    ∀ character ∈ (steps.flatMap stepText).head?, Text.isNameCharacter character = false := by
  cases steps with
  | nil => simp
  | cons step rest =>
    cases step <;> simp [stepText] <;> decide

theorem steps?_flatMap_stepText {steps : List Segment} (areSteps : ∀ step ∈ steps, IsStep step) :
    steps? (steps.flatMap stepText) = some steps := by
  induction steps with
  | nil => simp [steps?]
  | cons step rest inductionHypothesis =>
    obtain ⟨isStep, areOthers⟩ := List.forall_mem_cons.1 areSteps
    have readRest := inductionHypothesis areOthers
    cases step with
    | field name =>
      obtain ⟨taken, dropped⟩ := Text.span_of_ended isStep.2 (head?_flatMap_stepText rest)
      rw [List.flatMap_cons, stepText, List.cons_append, steps?, taken, dropped, readRest]
      simp [isStep.1]
    | index position =>
      have closed : ']' ∉ Number.decimal position := fun member => by
        have isDigit := List.all_eq_true.1 (Number.all_isDigit_decimal position) _ member
        cases isDigit
      have ink : ∀ character ∈ Number.decimal position, Text.isBlank character = false :=
        fun character member => Text.isBlank_of_isNameCharacter (Text.isNameCharacter_of_isDigit
          (List.all_eq_true.1 (Number.all_isDigit_decimal position) character member))
      have cut := Text.cutFirst?_append closed (rest.flatMap stepText)
      rw [List.flatMap_cons, stepText, List.cons_append, List.cons_append, List.append_assoc,
        List.singleton_append, steps?]
      split
      · next none => simp [cut] at none
      · next inside after found =>
        obtain ⟨rfl, rfl⟩ : Number.decimal position = inside ∧ rest.flatMap stepText = after := by
          simpa [cut] using found
        simp only [Text.trim_eq_self ink, Number.readUnsigned?_decimal isStep, readRest]
        rfl

/-- A path that some text writes is read back from its own text. -/
@[simp]
theorem read?_text {path : Path} (readable : path.IsReadable) : read? path.text = some path := by
  have trimmed := trim_text readable
  obtain ⟨name, steps, segments, isName, areSteps⟩ := readable
  obtain ⟨taken, dropped⟩ := Text.span_of_ended isName.2 (head?_flatMap_stepText steps)
  have written : path.text = name.toList ++ steps.flatMap stepText := by
    simp only [text, segments, headText]
  rw [read?, trimmed, written, taken, dropped, steps?_flatMap_stepText areSteps]
  obtain ⟨_⟩ := path
  simp_all [isName.1]

end Path
end DynamicSql
