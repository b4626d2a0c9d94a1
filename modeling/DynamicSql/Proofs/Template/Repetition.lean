/-
This file proves what a loop comes to. The draft before a repetition (`reached`) is that of the loop
after the body has been rendered for all entries before, each time with the names of the loop in
scope and onto nothing; behind each the names from before are in scope again, and the text of the
loop is as it was. If every repetition succeeds, the trimmed texts of those that are not blank stand
between the opening and the closing, with the separator between each two; if one fails, the first
that does decides, and nothing is written.

Everything is read off the walk over the entries, in which what follows an entry is a loop from the
draft behind it. The names come from the locality of the body.
-/

import DynamicSql.Proofs.Template.Locality

namespace DynamicSql.Template

/-- The positions and items of a list, or the keys and values of a map. -/
inductive HasEntries : Value → List (Value × Value) → Prop
  | list (items : List Value) : HasEntries (.list items)
      (items.mapIdx fun position item => (.int64 (Int64.ofNat position), item))
  | map (entries : Fields Value) : HasEntries (.map entries)
      (entries.map fun entry => (.string entry.1, entry.2))

theorem itemsFrom_eq (start : Nat) (items : List Value) :
    itemsFrom start items =
      items.mapIdx fun position item => (.int64 (Int64.ofNat (start + position)), item) := by
  induction items generalizing start with
  | nil => rfl
  | cons item rest inductionHypothesis =>
    rw [itemsFrom, inductionHypothesis, List.mapIdx_cons]
    simp only [Nat.add_zero, Nat.add_comm, Nat.add_left_comm]

theorem HasEntries.entriesOf_eq {collection : Value} {entries : List (Value × Value)}
    (hasEntries : HasEntries collection entries) (source : String) :
    entriesOf source collection = .ok entries := by
  cases hasEntries with
  | list items =>
    rw [entriesOf, itemsFrom_eq]
    simp only [Nat.zero_add]
  | map entries => rfl

namespace Loop

variable (header : Loop) (step : Step) (draft : Draft)

/-! ### Repetitions -/

/-- A draft with the names of the loop in scope, the item within the position, and no text. -/
def enter (entry : Value × Value) : Draft :=
  ((draft.pushNamed header.index entry.1 .loop).pushNamed header.item entry.2 .loop).cleared

/-- The draft behind a repetition: what the body has left, with the names and the text from before.
-/
def leave (entry : Value × Value) : Draft :=
  { (step (header.enter draft entry)).1.keepScopes draft.scopes.length with text := draft.text }

/-- The draft before the repetition at a position. -/
def reached (entries : List (Value × Value)) (position : Nat) : Draft :=
  (entries.take position).foldl (header.leave step) draft

/-- What the body comes to in the repetition at a position. -/
def turn (entries : List (Value × Value)) (position : Nat) (entry : Value × Value) :
    Draft × Option LoopFault :=
  step (header.enter (header.reached step draft entries position) entry)

/-- The trimmed texts of the repetitions that are not blank. -/
def parts (entries : List (Value × Value)) : List (List Char) :=
  ((entries.mapIdx fun position entry => (header.turn step draft entries position entry).1.text).map
    Text.trim).filter fun part => !part.isEmpty

/-- A repetition in which the body succeeds. -/
def Succeeds (entries : List (Value × Value)) (position : Nat) : Prop :=
  ∀ entry, entries[position]? = some entry → (header.turn step draft entries position entry).2 = none

variable {header step draft}
variable {entry : Value × Value} {rest entries : List (Value × Value)} {position : Nat}

theorem repetition_cleared (header : Loop) (step : Step) (draft : Draft) (entry : Value × Value) :
    repetition header step entry draft.cleared = step (header.enter draft entry) := by
  unfold repetition enter
  cases header.index <;> cases header.item <;> rfl

theorem aside_repetition (entry : Value × Value) :
    (repetition header step entry).aside draft =
      (header.leave step draft entry,
        match (step (header.enter draft entry)).2 with
        | none => .ok (step (header.enter draft entry)).1.text
        | some fault => .error fault) := by
  unfold Step.aside leave
  rw [← repetition_cleared header step draft entry]
  rfl

theorem succeeds_cons : header.Succeeds step draft (entry :: rest) (position + 1) ↔
    header.Succeeds step (header.leave step draft entry) rest position := Iff.rfl

theorem parts_cons (entry : Value × Value) (rest : List (Value × Value)) :
    header.parts step draft (entry :: rest) =
      let part := Text.trim (step (header.enter draft entry)).1.text
      let others := header.parts step (header.leave step draft entry) rest
      if part.isEmpty then others else part :: others := by
  have flipped (part : List Char) (others : List (List Char)) :
      (if !part.isEmpty then part :: others else others) =
        if part.isEmpty then others else part :: others := by
    cases part.isEmpty <;> rfl
  unfold parts
  rw [List.mapIdx_cons, List.map_cons, List.filter_cons]
  exact flipped _ _

theorem repeatBody_of_succeeds (succeed : ∀ position, header.Succeeds step draft entries position) :
    repeatBody header step entries draft =
      (header.reached step draft entries entries.length, .ok (header.parts step draft entries)) := by
  induction entries generalizing draft with
  | nil => rfl
  | cons entry rest inductionHypothesis =>
    have first : (step (header.enter draft entry)).2 = none := succeed 0 entry rfl
    have others := inductionHypothesis fun position => succeeds_cons.1 (succeed (position + 1))
    unfold repeatBody
    rw [aside_repetition, first]
    simp only
    rw [others, parts_cons]
    rfl

theorem repeatBody_of_fails {fault : LoopFault} (isEntry : entries[position]? = some entry)
    (fails : (header.turn step draft entries position entry).2 = some fault)
    (succeed : ∀ earlier < position, header.Succeeds step draft entries earlier) :
    (repeatBody header step entries draft).2 = .error fault := by
  induction entries generalizing draft position with
  | nil => cases isEntry
  | cons other rest inductionHypothesis =>
    unfold repeatBody
    rw [aside_repetition]
    cases position with
    | zero =>
      obtain rfl : other = entry := Option.some.inj isEntry
      have fails : (step (header.enter draft other)).2 = some fault := fails
      rw [fails]
    | succ position =>
      have first : (step (header.enter draft other)).2 = none :=
        succeed 0 (Nat.succ_pos position) other rfl
      have later : (repeatBody header step rest (header.leave step draft other)).2 = .error fault :=
        inductionHypothesis isEntry fails fun earlier before =>
          succeeds_cons.1 (succeed (earlier + 1) (Nat.succ_lt_succ before))
      rw [first]
      simp only
      revert later
      rcases repeatBody header step rest (header.leave step draft other) with ⟨last, found | texts⟩
      · exact id
      · nofun

theorem succeeds_zero (first : (step (header.enter draft entry)).2 = none) :
    header.Succeeds step draft (entry :: rest) 0 := by
  rintro _ ⟨⟩
  exact first

/-- Either every repetition succeeds, or there is a first one that fails. -/
theorem succeed_or_exists_fails (header : Loop) (step : Step) (draft : Draft)
    (entries : List (Value × Value)) :
    (∀ position, header.Succeeds step draft entries position) ∨
      ∃ position entry fault, entries[position]? = some entry ∧
        (header.turn step draft entries position entry).2 = some fault ∧
        ∀ earlier < position, header.Succeeds step draft entries earlier := by
  induction entries generalizing draft with
  | nil => exact Or.inl fun _ => nofun
  | cons entry rest inductionHypothesis =>
    cases first : (step (header.enter draft entry)).2 with
    | some fault => exact Or.inr ⟨0, entry, fault, rfl, first, nofun⟩
    | none =>
      rcases inductionHypothesis (header.leave step draft entry) with
        succeed | ⟨position, other, fault, isEntry, fails, succeed⟩
      · refine Or.inl fun position => ?_
        cases position with
        | zero => exact succeeds_zero first
        | succ position => exact succeeds_cons.2 (succeed position)
      · refine Or.inr ⟨position + 1, other, fault, isEntry, fails, fun earlier before => ?_⟩
        cases earlier with
        | zero => exact succeeds_zero first
        | succ earlier => exact succeeds_cons.2 (succeed earlier (Nat.lt_of_succ_lt_succ before))

/-! ### Names in a repetition -/

/-- The names in scope when the body of a repetition begins, the item being the innermost one. -/
theorem names_enter (entry : Value × Value) :
    (header.enter draft entry).names = (header.item.map fun name => (name, entry.2)).toList ++
      ((header.index.map fun name => (name, entry.1)).toList ++ draft.names) := by
  show ((draft.pushNamed header.index entry.1 .loop).pushNamed header.item entry.2 .loop).names = _
  rw [Draft.names_pushNamed, Draft.names_pushNamed]

theorem resolve_enter {item : String} (isItem : header.item = some item) (parameter : Value)
    (entry : Value × Value) {path : Path} (root : path.root = item) :
    (header.enter draft entry).resolve parameter path = Value.entry? path.tail entry.2 := by
  unfold enter
  rw [isItem]
  simp [Draft.resolve, Draft.cleared, Draft.pushNamed, Draft.push, root]

theorem names_reached {led : Draft → Bool} (isLocal : Local led step) (draft : Draft)
    (entries : List (Value × Value)) (position : Nat) :
    (header.reached step draft entries position).names = draft.names := by
  unfold reached
  induction entries.take position generalizing draft with
  | nil => rfl
  | cons entry rest inductionHypothesis =>
    have kept := names_aside (isLocal.behind_repetition header entry) draft
    rw [aside_repetition] at kept
    rw [List.foldl_cons, inductionHypothesis]
    exact kept

/-- The text of a loop: its opening, the trimmed texts of the repetitions that are not blank with
the separator between each two, and its closing. -/
def written (header : Loop) (step : Step) (draft : Draft) (entries : List (Value × Value)) :
    List Char :=
  header.opening.toList ++
    List.intercalate header.separator.toList (header.parts step draft entries) ++
    header.closing.toList

end Loop

/-! ### Loops -/

section

variable (policy : EmptyCollection) (parameter : Value) {header : Loop} {body : Node}
  {draft : Draft} {entries : List (Value × Value)}
  (hasEntries : HasEntries (header.collection.eval (draft.resolve parameter)) entries)
  (filled : entries ≠ [])

include hasEntries filled

theorem loop_apply_eq_repeatBody :
    (Node.loop header body).apply policy parameter draft =
      match repeatBody header (body.apply policy parameter) entries draft with
      | (later, .error fault) => (later, some fault)
      | (later, .ok texts) =>
        ({ later with text := appendClause later.text (header.assemble texts) }, none) := by
  have unempty : (entries.isEmpty && policy == .error) = false := by
    rw [List.isEmpty_eq_false_iff.2 filled, Bool.false_and]
  show writeLoop policy header _ (body.apply policy parameter) draft = _
  unfold writeLoop
  rw [hasEntries.entriesOf_eq]
  simp only [unempty]
  rfl

theorem loop_apply_of_succeeds
    (succeed : ∀ position, header.Succeeds (body.apply policy parameter) draft entries position) :
    (Node.loop header body).apply policy parameter draft =
      ({ header.reached (body.apply policy parameter) draft entries entries.length with
        text := appendClause draft.text
          (header.written (body.apply policy parameter) draft entries) }, none) := by
  have text := text_repeatBody header (body.apply policy parameter) entries draft
  rw [loop_apply_eq_repeatBody policy parameter hasEntries filled]
  rw [Loop.repeatBody_of_succeeds succeed] at text ⊢
  rw [← text]
  rfl

theorem loop_apply_of_fails {position : Nat} {entry : Value × Value} {fault : LoopFault}
    (isEntry : entries[position]? = some entry)
    (fails : (header.turn (body.apply policy parameter) draft entries position entry).2 =
      some fault)
    (succeed : ∀ earlier < position,
      header.Succeeds (body.apply policy parameter) draft entries earlier) :
    ((Node.loop header body).apply policy parameter draft).2 = some fault ∧
      ((Node.loop header body).apply policy parameter draft).1.text = draft.text := by
  have text := text_repeatBody header (body.apply policy parameter) entries draft
  have failed := Loop.repeatBody_of_fails isEntry fails succeed
  rw [loop_apply_eq_repeatBody policy parameter hasEntries filled]
  revert text failed
  rcases repeatBody header (body.apply policy parameter) entries draft with ⟨later, other | texts⟩
  · intro text failed
    obtain rfl : other = fault := Except.error.inj failed
    exact ⟨rfl, text⟩
  · nofun

theorem succeed_of_loop_apply
    (ends : ((Node.loop header body).apply policy parameter draft).2 = none) :
    ∀ position, header.Succeeds (body.apply policy parameter) draft entries position := by
  rcases Loop.succeed_or_exists_fails header (body.apply policy parameter) draft entries with
    succeed | ⟨position, entry, fault, isEntry, fails, succeed⟩
  · exact succeed
  · have failed := loop_apply_of_fails policy parameter hasEntries filled isEntry fails succeed
    rw [failed.1] at ends
    cases ends

end

/-- A loop over entries, the collection being evaluated before the first repetition. Each repetition
begins with the names from before the loop, and with that of the position and that of the item
within it. If all succeed, their texts are written behind a space where a clause has one, unless
there is nothing to write; else the first fault is that of the loop, and the text stays. -/
theorem loop_apply_eq (policy : EmptyCollection) (parameter : Value) (header : Loop) (body : Node)
    (draft : Draft) {entries : List (Value × Value)}
    (hasEntries : HasEntries (header.collection.eval (draft.resolve parameter)) entries)
    (filled : entries ≠ []) :
    let step := body.apply policy parameter
    let written := header.written step draft entries
    let after := (Node.loop header body).apply policy parameter draft
    (∀ position entry,
      let start := header.enter (header.reached step draft entries position) entry
      start.names = (header.item.map fun name => (name, entry.2)).toList ++
        ((header.index.map fun name => (name, entry.1)).toList ++ draft.names) ∧
      ∀ path, header.item = some path.root →
        start.resolve parameter path = Value.entry? path.tail entry.2) ∧
    ((∀ position, header.Succeeds step draft entries position) →
      after = ({ header.reached step draft entries entries.length with
        text := draft.text ++ (if written = [] then [] else gapBehind draft.text) ++ written },
        none)) ∧
    ∀ position entry fault, entries[position]? = some entry →
      (header.turn step draft entries position entry).2 = some fault →
      (∀ earlier < position, header.Succeeds step draft entries earlier) →
      after.2 = some fault ∧ after.1.text = draft.text := by
  intro step written after
  refine ⟨fun position entry => ⟨?_, ?_⟩, fun succeed => ?_, ?_⟩
  · rw [Loop.names_enter, Loop.names_reached (local_apply policy parameter body)]
  · exact fun path isItem => Loop.resolve_enter isItem parameter entry rfl
  · rw [← appendClause_eq_ite]
    exact loop_apply_of_succeeds policy parameter hasEntries filled succeed
  · exact fun position entry fault isEntry fails succeed =>
      loop_apply_of_fails policy parameter hasEntries filled isEntry fails succeed

/-- A loop that gives the position and the item one name. -/
def listed : Loop :=
  ⟨.path (.ofName "ids"), "ids", some "x", some "x", "(", ", ", ")"⟩

/-- A mark for a name whose value counts as true. -/
def marked : Node :=
  .condition (.path (.ofName "x")) "x" (.text ⟨[.literal [' ', '?']]⟩)

/-- A parameter with a list of which every other item counts as true. -/
def flagged : Value :=
  .map [("ids", .list [.bool true, .bool false, .bool true, .bool false])]

/-- The items decide and not their positions, and a blank repetition has no separator. -/
theorem loop_apply_eq_listed :
    let draft := { Draft.empty with text := ['i', 'n'] }
    let entries := [(.int64 0, .bool true), (.int64 1, .bool false), (.int64 2, .bool true),
      (.int64 3, .bool false)]
    let after := (Node.loop listed marked).apply .error flagged draft
    HasEntries (listed.collection.eval (draft.resolve flagged)) entries ∧ entries ≠ [] ∧
      after.2 = none ∧ String.ofList after.1.text = "in (?, ?)" := by
  intro draft entries after
  have hasEntries : HasEntries (listed.collection.eval (draft.resolve flagged)) entries :=
    .list [.bool true, .bool false, .bool true, .bool false]
  have filled : entries ≠ [] := List.cons_ne_nil _ _
  have succeed : ∀ position,
      listed.Succeeds (marked.apply .error flagged) draft entries position := by
    rintro (_ | _ | _ | _ | position) entry isEntry
    · cases isEntry
      rfl
    · cases isEntry
      rfl
    · cases isEntry
      rfl
    · cases isEntry
      rfl
    · cases isEntry
  have reached := (loop_apply_eq .error flagged listed marked draft hasEntries filled).2.1 succeed
  refine ⟨hasEntries, filled, congrArg Prod.snd reached, ?_⟩
  rw [show after = _ from reached]
  rfl

end DynamicSql.Template
