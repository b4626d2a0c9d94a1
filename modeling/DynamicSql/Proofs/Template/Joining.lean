/-
This file proves when a clause is kept from running into what follows it. The blanks at the ends of
a body are taken away, and a clause puts a space between itself and the text before it, but nothing
behind itself. So a word behind a clause whose suffix is empty, or behind a loop whose closing is,
stands apart from it exactly if something blank is written between, or if what is written first
behind the clause, or first of the word's own template, is written by a clause or a loop.

What is written between and the template of the word are joined to the clause one after the other,
and both clauses and loops that are not closed end with ink; from there on it is a question about
texts (`exists_gap`).
-/

import DynamicSql.Proofs.Template.Repetition

namespace DynamicSql.Template

/-! ### Ends of clauses -/

/-- What a clause takes away and puts around, and its body. -/
def Node.dressing? : Node → Option (Trimming × Node)
  | .whereClause body => some (.ofWhere, body)
  | .setClause body => some (.ofSet, body)
  | .trim trimming body => some (trimming, body)
  | _ => none

/-- A clause or a loop with nothing to close it, of which the body is rendered with a blank at its
end; the body of a loop counts in the last repetition that is not blank. -/
inductive Node.BreaksOff (policy : EmptyCollection) (parameter : Value) (draft : Draft) :
    Node → Prop
  | clause {node body : Node} {trimming : Trimming} {text : List Char}
      (isClause : node.dressing? = some (trimming, body))
      (noSuffix : trimming.suffixText.getD "" = "")
      (rendered : ((body.apply policy parameter).aside draft).2 = .ok text)
      (blankEnd : ¬ Text.EndsWithInk text) : BreaksOff policy parameter draft node
  | loop {header : Loop} {body : Node} {entries : List (Value × Value)} {position : Nat}
      {entry : Value × Value} (noClosing : header.closing = "")
      (hasEntries : HasEntries (header.collection.eval (draft.resolve parameter)) entries)
      (isEntry : entries[position]? = some entry)
      (filled : Text.isAllBlank
        (header.turn (body.apply policy parameter) draft entries position entry).1.text = false)
      (last : ∀ later > position, ∀ other, entries[later]? = some other → Text.isAllBlank
        (header.turn (body.apply policy parameter) draft entries later other).1.text = true)
      (blankEnd : ¬ Text.EndsWithInk
        (header.turn (body.apply policy parameter) draft entries position entry).1.text) :
      BreaksOff policy parameter draft (.loop header body)

variable {policy : EmptyCollection} {parameter : Value} {draft : Draft}

theorem apply_of_dressing? {node body : Node} {trimming : Trimming}
    (isClause : node.dressing? = some (trimming, body)) :
    node.apply policy parameter = writeClause trimming (body.apply policy parameter) := by
  unfold Node.dressing? at isClause
  split at isClause
  · cases isClause
    rfl
  · cases isClause
    rfl
  · cases isClause
    rfl
  · cases isClause

theorem ends_intercalate (separator : List Char) {parts : List (List Char)} (filled : parts ≠ [])
    (ends : ∀ part ∈ parts, part ≠ [] ∧ Text.EndsWithInk part) :
    List.intercalate separator parts ≠ [] ∧
      Text.EndsWithInk (List.intercalate separator parts) := by
  induction parts with
  | nil => exact absurd rfl filled
  | cons part rest inductionHypothesis =>
    cases rest with
    | nil =>
      rw [List.intercalate_singleton]
      exact ends part List.mem_cons_self
    | cons other rest =>
      obtain ⟨filledRest, endsRest⟩ := inductionHypothesis (List.cons_ne_nil _ _)
        fun part member => ends part (List.mem_cons_of_mem _ member)
      rw [List.intercalate_cons_cons]
      exact ⟨List.append_ne_nil_of_right_ne_nil _ filledRest, endsRest.append filledRest _⟩

theorem Loop.ends_of_mem_parts {header : Loop} {step : Step} {entries : List (Value × Value)}
    {part : List Char} (member : part ∈ header.parts step draft entries) :
    part ≠ [] ∧ Text.EndsWithInk part := by
  obtain ⟨member, filled⟩ := List.mem_filter.1 member
  obtain ⟨text, -, rfl⟩ := List.mem_map.1 member
  exact ⟨by simpa using filled, (Text.isMiddle_trim text).ends⟩

theorem Loop.parts_ne_nil {header : Loop} {step : Step} {entries : List (Value × Value)}
    {position : Nat} {entry : Value × Value} (isEntry : entries[position]? = some entry)
    (filled : Text.isAllBlank (header.turn step draft entries position entry).1.text = false) :
    header.parts step draft entries ≠ [] := by
  refine List.ne_nil_of_mem (a := Text.trim (header.turn step draft entries position entry).1.text)
    (List.mem_filter.2 ⟨List.mem_map_of_mem (List.mem_of_getElem? (i := position) ?_), ?_⟩)
  · rw [List.getElem?_mapIdx, isEntry]
    rfl
  · have kept : Text.trim (header.turn step draft entries position entry).1.text ≠ [] := by
      rw [Ne, Text.trim_eq_nil_iff, filled]
      exact Bool.false_ne_true
    simpa using kept

/-- A text with a clause behind it that ends with ink. -/
theorem ends_appendClause (text : List Char) {front core : List Char} (filled : core ≠ [])
    (ends : Text.EndsWithInk core) :
    appendClause text (front ++ core) ≠ [] ∧
      Text.EndsWithInk (appendClause text (front ++ core)) := by
  rw [appendClause_eq text (List.append_ne_nil_of_right_ne_nil front filled), ← List.append_assoc]
  exact ⟨List.append_ne_nil_of_right_ne_nil _ filled, ends.append filled _⟩

/-- A clause that is not closed ends with ink, if it writes anything. -/
theorem Node.BreaksOff.ends {node : Node} (breaksOff : node.BreaksOff policy parameter draft)
    (succeeds : (node.apply policy parameter draft).2 = none)
    (emits : (node.apply policy parameter draft).1.text ≠ draft.text) :
    (node.apply policy parameter draft).1.text ≠ [] ∧
      Text.EndsWithInk (node.apply policy parameter draft).1.text := by
  cases breaksOff with
  | @clause _ body trimming text isClause noSuffix rendered blankEnd =>
    obtain ⟨head, tail, cut⟩ := Trimming.exists_cut trimming text
    rw [apply_of_dressing? isClause, text_writeClause, rendered] at emits ⊢
    simp only at emits ⊢
    split at emits
    · exact absurd rfl emits
    · next filled =>
      rw [if_neg filled, Trimming.dressed_of_no_suffix noSuffix]
      exact ends_appendClause draft.text filled cut.endsWithInk_core
  | @loop header body entries position entry noClosing hasEntries isEntry filled last blankEnd =>
    have nonempty : entries ≠ [] := by
      rintro rfl
      cases isEntry
    have succeed := succeed_of_loop_apply policy parameter hasEntries nonempty succeeds
    rw [loop_apply_of_succeeds policy parameter hasEntries nonempty succeed]
    obtain ⟨filledParts, endsParts⟩ := ends_intercalate header.separator.toList
      (Loop.parts_ne_nil isEntry filled) fun part => Loop.ends_of_mem_parts
    simp only [Loop.written, noClosing]
    rw [show "".toList = [] from rfl, List.append_nil]
    exact ends_appendClause draft.text filledParts endsParts

/-! ### Texts behind a clause -/

theorem exists_isBlank_of_not_endsWithInk {text : List Char} (blankEnd : ¬ Text.EndsWithInk text) :
    ∃ character ∈ text, Text.isBlank character = true := by
  unfold Text.EndsWithInk at blankEnd
  push Not at blankEnd
  obtain ⟨character, isLast, blank⟩ := blankEnd
  exact ⟨character, List.mem_of_getLast? isLast, by simpa using blank⟩

/-- Two texts joined to one that ends with ink: the second one stands apart from it if there is a
blank in the first, or a gap before either. -/
theorem exists_gap {text : List Char} (filled : text ≠ []) (ends : Text.EndsWithInk text)
    (first second : Bool) (passed : List Char) {own : List Char} (word : own ≠ []) :
    ∃ gap, joined second (joined first text passed) own = text ++ gap ++ own ∧
      ((∃ character ∈ gap, Text.isBlank character = true) ↔
        (∃ character ∈ passed, Text.isBlank character = true) ∨
          (passed ≠ [] ∧ first = true) ∨ second = true) := by
  have space : gapBehind text = [' '] := if_pos ⟨filled, ends⟩
  have blank : Text.isBlank ' ' = true := by decide
  rw [joined_of_ne_nil second _ word]
  by_cases nothing : passed = []
  · rw [nothing, joined_nil_right, space]
    refine ⟨_, rfl, ?_⟩
    cases second <;> simp [blank]
  · rw [joined_of_ne_nil first text nothing, gapBehind_append _ nothing, space]
    refine ⟨(if first then [' '] else []) ++ passed ++ (if second then gapBehind passed else []),
      by simp only [List.append_assoc], ?_⟩
    cases first with
    | true => simp [blank, nothing]
    | false =>
      cases second with
      | false => simp
      | true =>
        refine iff_of_true ?_ (Or.inr (Or.inr rfl))
        by_cases ink : Text.EndsWithInk passed
        · exact ⟨' ', by simp [gapBehind, nothing, ink], blank⟩
        · obtain ⟨character, member, blank⟩ := exists_isBlank_of_not_endsWithInk ink
          exact ⟨character, by simp [member], blank⟩

/-! ### Sequences -/

theorem Step.eq_none_of_followedBy {first second : Step}
    (ends : (first.followedBy second draft).2 = none) : (first draft).2 = none := by
  unfold Step.followedBy at ends
  revert ends
  rcases first draft with ⟨later, _ | fault⟩
  · exact fun _ => rfl
  · nofun

theorem Step.followedBy_eq {first second : Step} (ends : (first draft).2 = none) :
    first.followedBy second draft = second (first draft).1 := by
  unfold Step.followedBy
  revert ends
  rcases first draft with ⟨later, _ | fault⟩
  · exact fun _ => rfl
  · nofun

theorem applyEach_cons {node : Node} {rest : List Node}
    (ends : (Node.applyEach policy parameter (node :: rest) draft).2 = none) :
    (node.apply policy parameter draft).2 = none ∧
      Node.applyEach policy parameter (node :: rest) draft =
        Node.applyEach policy parameter rest (node.apply policy parameter draft).1 :=
  ⟨Step.eq_none_of_followedBy ends, Step.followedBy_eq (Step.eq_none_of_followedBy ends)⟩

/-- A sequence that ends without a fault, in two parts. -/
theorem applyEach_append {front back : List Node}
    (ends : (Node.applyEach policy parameter (front ++ back) draft).2 = none) :
    Node.applyEach policy parameter (front ++ back) draft =
      Node.applyEach policy parameter back (Node.applyEach policy parameter front draft).1 := by
  induction front generalizing draft with
  | nil => rfl
  | cons node rest inductionHypothesis =>
    rw [List.cons_append] at ends ⊢
    obtain ⟨first, others⟩ := applyEach_cons ends
    have whole : Node.applyEach policy parameter (node :: rest) draft =
        Node.applyEach policy parameter rest (node.apply policy parameter draft).1 :=
      Step.followedBy_eq first
    rw [others, whole]
    exact inductionHypothesis (others ▸ ends)

theorem Local.text_eq {led : Draft → Bool} {step : Step} (isLocal : Local led step)
    (draft : Draft) : (step draft).1.text =
      joined (led draft.cleared) draft.text (step draft.cleared).1.text :=
  congrArg (fun outcome => outcome.1.text) (isLocal.joins draft)

theorem Local.exists_text_eq {led : Draft → Bool} {step : Step} (isLocal : Local led step)
    (draft : Draft) : ∃ more, (step draft).1.text = draft.text ++ more := by
  rw [isLocal.text_eq]
  by_cases nothing : (step draft.cleared).1.text = []
  · exact ⟨[], by rw [nothing, joined_nil_right, List.append_nil]⟩
  · exact ⟨_, by rw [joined_of_ne_nil _ _ nothing, List.append_assoc]⟩

/-- A clause and a template behind it in a sequence, and the draft from which it is rendered. -/
structure Joint where
  policy : EmptyCollection
  parameter : Value
  draft : Draft
  before : List Node
  clause : Node
  between : List Node
  sibling : Node
  after : List Node

namespace Joint

variable (joint : Joint)

/-- The sequence as a whole. -/
def rendered : Draft × Option LoopFault :=
  (Node.mixed (joint.before ++ joint.clause :: (joint.between ++ joint.sibling :: joint.after))).apply
    joint.policy joint.parameter joint.draft

/-- The draft before the clause. -/
def atClause : Draft :=
  (Node.applyEach joint.policy joint.parameter joint.before joint.draft).1

/-- The draft behind the clause. -/
def behindClause : Draft :=
  (joint.clause.apply joint.policy joint.parameter joint.atClause).1

/-- The draft before the sibling. -/
def atSibling : Draft :=
  (Node.applyEach joint.policy joint.parameter joint.between joint.behindClause).1

/-- The draft behind the sibling. -/
def behindSibling : Draft :=
  (joint.sibling.apply joint.policy joint.parameter joint.atSibling).1

/-- What is written between the clause and the sibling. -/
def passed : List Char :=
  (Node.applyEach joint.policy joint.parameter joint.between joint.behindClause.cleared).1.text

/-- What the sibling writes. -/
def own : List Char :=
  (joint.sibling.apply joint.policy joint.parameter joint.atSibling.cleared).1.text

/-- The clause writes something and breaks off, and the sibling begins with a word. -/
structure IsAbrupt : Prop where
  renders : joint.rendered.2 = none
  breaksOff : joint.clause.BreaksOff joint.policy joint.parameter joint.atClause
  emits : joint.behindClause.text ≠ joint.atClause.text
  word : Trimming.startsWithWord joint.own = true

/-- There is a blank between the clause and what the sibling writes. -/
def IsSeparated : Prop :=
  ∃ gap rest, joint.rendered.1.text = joint.behindClause.text ++ gap ++ joint.own ++ rest ∧
    joint.behindSibling.text = joint.behindClause.text ++ gap ++ joint.own ∧
    ∃ character ∈ gap, Text.isBlank character = true

/-- Something blank is written between the clause and the sibling, or what is written first there is
written by a clause or a loop, or what the sibling writes first is. -/
def IsSpaced : Prop :=
  (∃ character ∈ joint.passed, Text.isBlank character = true) ∨
    (joint.passed ≠ [] ∧ Node.areLed joint.policy joint.parameter joint.between
      joint.behindClause.cleared = true) ∨
    joint.sibling.isLed joint.policy joint.parameter joint.atSibling.cleared = true

variable {joint}

/-- The sequence, seen from the clause and from the sibling. -/
theorem parted (renders : joint.rendered.2 = none) :
    (joint.clause.apply joint.policy joint.parameter joint.atClause).2 = none ∧
      joint.rendered =
        Node.applyEach joint.policy joint.parameter joint.after joint.behindSibling := by
  have fromClause : joint.rendered = Node.applyEach joint.policy joint.parameter
      (joint.clause :: (joint.between ++ joint.sibling :: joint.after)) joint.atClause :=
    applyEach_append renders
  rw [fromClause] at renders
  obtain ⟨succeeds, behindClause⟩ := applyEach_cons renders
  rw [behindClause] at renders
  have fromSibling := applyEach_append renders
  rw [fromSibling] at renders
  refine ⟨succeeds, ?_⟩
  rw [fromClause, behindClause, fromSibling]
  exact (applyEach_cons renders).2

theorem own_ne_nil (word : Trimming.startsWithWord joint.own = true) : joint.own ≠ [] := by
  intro nothing
  rw [nothing] at word
  cases word

/-- What is written between the clause and the sibling is joined to the clause. -/
theorem text_atSibling (joint : Joint) : joint.atSibling.text =
    joined (Node.areLed joint.policy joint.parameter joint.between joint.behindClause.cleared)
      joint.behindClause.text joint.passed :=
  (local_applyEach joint.policy joint.parameter joint.between).text_eq joint.behindClause

/-- What the sibling writes is joined to all before it. -/
theorem text_behindSibling (joint : Joint) : joint.behindSibling.text =
    joined (joint.sibling.isLed joint.policy joint.parameter joint.atSibling.cleared)
      joint.atSibling.text joint.own :=
  (local_apply joint.policy joint.parameter joint.sibling).text_eq joint.atSibling

/-- Whether a word behind a clause that is not closed stands apart from it is decided by what writes
first behind the clause. -/
theorem isSeparated_iff (joint : Joint) (abrupt : joint.IsAbrupt) :
    joint.IsSeparated ↔ joint.IsSpaced := by
  obtain ⟨succeeds, behind⟩ := parted abrupt.renders
  obtain ⟨filled, ends⟩ :
      joint.behindClause.text ≠ [] ∧ Text.EndsWithInk joint.behindClause.text :=
    abrupt.breaksOff.ends succeeds abrupt.emits
  obtain ⟨gap, parts, blank⟩ := exists_gap filled ends (Node.areLed joint.policy joint.parameter
    joint.between joint.behindClause.cleared) (joint.sibling.isLed joint.policy joint.parameter
    joint.atSibling.cleared) joint.passed (own_ne_nil abrupt.word)
  rw [← text_atSibling, ← text_behindSibling] at parts
  refine Iff.trans ?_ blank
  constructor
  · rintro ⟨other, rest, -, otherParts, otherBlank⟩
    have same : other = gap := by
      have joined := otherParts.symm.trans parts
      exact List.append_cancel_left (List.append_cancel_right joined)
    exact same ▸ otherBlank
  · intro isBlank
    obtain ⟨rest, whole⟩ :=
      (local_applyEach joint.policy joint.parameter joint.after).exists_text_eq joint.behindSibling
    refine ⟨gap, rest, ?_, parts, isBlank⟩
    rw [behind, whole, parts]

/-- A loop whose repetitions end in a blank, and behind it a clause that begins with a word. -/
def loopThenClause : Joint where
  policy := .error
  parameter := .map [("ids", .list [.int64 7, .int64 8])]
  draft := .empty
  before := [.text ⟨[.literal ['(']]⟩]
  clause := .loop ⟨.path (.ofName "ids"), "ids", none, none, "", ",", ""⟩
    (.text ⟨[.literal ['a', ' ']]⟩)
  between := [.bind "b" (.value .null)]
  sibling := .trim ⟨some "c", none, [], []⟩ (.text ⟨[.literal ['d']]⟩)
  after := [.text ⟨[.literal [')']]⟩]

theorem isSeparated_iff_loopThenClause :
    loopThenClause.IsAbrupt ∧ String.ofList loopThenClause.rendered.1.text = "( a,a c d)" ∧
      loopThenClause.IsSeparated := by
  have abrupt : loopThenClause.IsAbrupt := by
    refine ⟨rfl, ?_, ?_, rfl⟩
    · have isEntry : [((.int64 0, .int64 7) : Value × Value), (.int64 1, .int64 8)][1]? =
        some (.int64 1, .int64 8) := rfl
      refine .loop rfl (.list [.int64 7, .int64 8]) isEntry rfl ?_ (by decide +kernel)
      rintro (_ | _ | later) behind other isEntry
      · cases behind
      · exact absurd behind (Nat.lt_irrefl 1)
      · cases isEntry
    · decide +kernel
  exact ⟨abrupt, rfl, (isSeparated_iff loopThenClause abrupt).2 (Or.inr (Or.inr rfl))⟩

/-- A clause whose body ends in a blank, and behind it a text that begins with a word. -/
def clauseThenText : Joint where
  policy := .error
  parameter := .null
  draft := .empty
  before := [.text ⟨[.literal "select a from b ".toList]⟩]
  clause := .whereClause (.text ⟨[.literal "c = 1 ".toList]⟩)
  between := []
  sibling := .text ⟨[.literal "limit 1".toList]⟩
  after := []

/-- The text stands right behind the clause. -/
theorem not_isSeparated_clauseThenText :
    clauseThenText.IsAbrupt ∧
      String.ofList clauseThenText.rendered.1.text = "select a from b WHERE c = 1limit 1" ∧
      ¬ clauseThenText.IsSeparated := by
  refine ⟨⟨rfl, ?_, ?_, rfl⟩, rfl, ?_⟩
  · have blankEnd : ¬ Text.EndsWithInk "c = 1 ".toList := by decide +kernel
    exact .clause rfl rfl (by rfl) blankEnd
  · decide +kernel
  · rintro ⟨gap, rest, -, parts, character, member, -⟩
    have lengths := congrArg List.length parts
    rw [List.length_append, List.length_append] at lengths
    have adjacent : clauseThenText.behindSibling.text.length =
        clauseThenText.behindClause.text.length + clauseThenText.own.length := rfl
    have nothing : gap = [] := List.eq_nil_of_length_eq_zero (by omega)
    rw [nothing] at member
    cases member

end Joint

end DynamicSql.Template
