/-
This file compares two renderings of one template for two parameters. While they take the same
decisions they stay in lockstep: the same names are in scope, the same names have been generated
for them, and the same text has been written. Only the values of the names may differ.

What a rendering decides is the outcome of each test it evaluates and the number of entries of each
loop it runs. The decisions of one part are followed by those of the next, so two renderings are
compared with any decisions behind theirs: what is left behind equal parts is equal again.
-/

import DynamicSql.Template.Rendering
import Mathlib.Data.List.Basic

namespace DynamicSql.Template

/-! ### Decisions -/

/-- A decision of a rendering: the outcome of a test, or the number of entries of a loop. -/
inductive Decision where
  | test (outcome : Bool)
  | entries (count : Nat)
  deriving DecidableEq

/-- The decisions that a step takes from a draft. -/
abbrev Log := Draft → List Decision

namespace Log

/-- The decisions of two steps, one after the other; the second one is not taken after a fault. -/
def followedBy (first : Step) (log second : Log) : Log := fun draft =>
  log draft ++
    match first draft with
    | (later, none) => second later
    | (_, some _) => []

/-- The outcome of a test, and the decisions of what it selects. -/
def guarded (outcome : Draft → Bool) (log otherwise : Log) : Log := fun draft =>
  .test (outcome draft) :: if outcome draft then log draft else otherwise draft

/-- The decisions of a step that writes onto nothing. -/
def aside (log : Log) : Log := fun draft =>
  log { draft with text := [] }

/-- The decisions of one repetition. -/
def repetition (header : Loop) (log : Log) (entry : Value × Value) : Log := fun draft =>
  log ((draft.pushNamed header.index entry.1 .loop).pushNamed header.item entry.2 .loop)

/-- The decisions of the repetitions, up to the first fault. -/
def repeatBody (header : Loop) (body : Step) (log : Log) : List (Value × Value) → Log
  | [], _ => []
  | entry :: rest, draft =>
    (repetition header log entry).aside draft ++
      match (Template.repetition header body entry).aside draft with
      | (later, .ok _) => repeatBody header body log rest later
      | (_, .error _) => []

/-- The number of entries of a loop, and the decisions of its repetitions. -/
def writeLoop (policy : EmptyCollection) (header : Loop) (collection : Value) (body : Step)
    (log : Log) : Log := fun draft =>
  match entriesOf header.collectionSource collection with
  | .error _ => []
  | .ok entries =>
    if entries.isEmpty && policy == .error then []
    else .entries entries.length :: repeatBody header body log entries draft

end Log

mutual

/-- The decisions of a template. -/
def Node.decisions (policy : EmptyCollection) (parameter : Value) : Node → Log
  | .text _ => fun _ => []
  | .mixed nodes => Node.decisionsOfEach policy parameter nodes
  | .whereClause body => (Node.decisions policy parameter body).aside
  | .setClause body => (Node.decisions policy parameter body).aside
  | .trim _ body => (Node.decisions policy parameter body).aside
  | .condition test _ body =>
    Log.guarded (fun draft => test.evalBool (draft.resolve parameter))
      (Node.decisions policy parameter body) fun _ => []
  | .choose branches otherwise =>
    Node.decisionsOfFirst policy parameter branches
      (Node.decisionsOfOption policy parameter otherwise)
  | .loop header body => fun draft =>
    Log.writeLoop policy header (header.collection.eval (draft.resolve parameter))
      (Node.apply policy parameter body) (Node.decisions policy parameter body) draft
  | .bind _ _ => fun _ => []

/-- The decisions of templates, up to the first fault. -/
def Node.decisionsOfEach (policy : EmptyCollection) (parameter : Value) : List Node → Log
  | [] => fun _ => []
  | node :: rest =>
    Log.followedBy (Node.apply policy parameter node) (Node.decisions policy parameter node)
      (Node.decisionsOfEach policy parameter rest)

/-- The decisions of branches, up to the first one whose test holds. -/
def Node.decisionsOfFirst (policy : EmptyCollection) (parameter : Value) :
    List (Expr × String × Node) → Log → Log
  | [], otherwise => otherwise
  | (test, _, body) :: rest, otherwise =>
    Log.guarded (fun draft => test.evalBool (draft.resolve parameter))
      (Node.decisions policy parameter body)
      (Node.decisionsOfFirst policy parameter rest otherwise)

/-- The decisions of a template that may be missing. -/
def Node.decisionsOfOption (policy : EmptyCollection) (parameter : Value) : Option Node → Log
  | none => fun _ => []
  | some body => Node.decisions policy parameter body

end

/-! ### Drafts that differ in values only -/

/-- What two scopes have in common: the name, what introduced it, and the name generated for it. -/
def Scope.outline (scope : Scope) : String × Origin × Option String :=
  (scope.name, scope.origin, scope.generated)

/-- Two drafts that differ in values only. -/
structure Draft.Alike (draft other : Draft) : Prop where
  scopes : draft.scopes.map Scope.outline = other.scopes.map Scope.outline
  nextBinding : draft.nextBinding = other.nextBinding
  text : draft.text = other.text

namespace Draft.Alike

variable {draft other : Draft}

theorem refl (draft : Draft) : draft.Alike draft :=
  ⟨rfl, rfl, rfl⟩

theorem length_scopes (alike : draft.Alike other) :
    draft.scopes.length = other.scopes.length := by
  have lengths := congrArg List.length alike.scopes
  rwa [List.length_map, List.length_map] at lengths

theorem withText (alike : draft.Alike other) (text : List Char) :
    { draft with text }.Alike { other with text } :=
  ⟨alike.scopes, alike.nextBinding, rfl⟩

theorem write (alike : draft.Alike other) (text : List Char) :
    (draft.write text).Alike (other.write text) :=
  ⟨alike.scopes, alike.nextBinding, congrArg (· ++ text) alike.text⟩

theorem push (alike : draft.Alike other) (name : String) (value otherValue : Value)
    (origin : Origin) : (draft.push name value origin).Alike (other.push name otherValue origin) :=
  ⟨congrArg (List.cons (name, origin, none)) alike.scopes, alike.nextBinding, alike.text⟩

theorem pushNamed (alike : draft.Alike other) (name : Option String) (value otherValue : Value)
    (origin : Origin) :
    (draft.pushNamed name value origin).Alike (other.pushNamed name otherValue origin) := by
  cases name with
  | none => exact alike
  | some name => exact alike.push name value otherValue origin

theorem keepScopes (alike : draft.Alike other) (count : Nat) :
    (draft.keepScopes count).Alike (other.keepScopes count) := by
  refine ⟨?_, alike.nextBinding, alike.text⟩
  show (draft.scopes.drop _).map _ = (other.scopes.drop _).map _
  rw [List.map_drop, List.map_drop, alike.scopes, alike.length_scopes]

end Draft.Alike

/-! ### Generated names -/

theorem rel_find?_outline {scopes others : List Scope}
    (same : scopes.map Scope.outline = others.map Scope.outline) (name : String) :
    Option.Rel (fun scope other => Scope.outline scope = Scope.outline other)
      (scopes.find? fun scope => scope.name == name)
      (others.find? fun scope => scope.name == name) := by
  induction scopes generalizing others with
  | nil =>
    cases others with
    | nil => exact .none
    | cons other rest => cases same
  | cons scope rest inductionHypothesis =>
    cases others with
    | nil => cases same
    | cons other others =>
      obtain ⟨first, later⟩ := List.cons.inj same
      have names : scope.name = other.name := congrArg Prod.fst first
      rw [List.find?_cons, List.find?_cons, names]
      split
      · exact .some first
      · exact inductionHypothesis later

theorem map_outline_noteGenerated {scopes others : List Scope}
    (same : scopes.map Scope.outline = others.map Scope.outline) (name generated : String) :
    (Draft.noteGenerated name generated scopes).map Scope.outline =
      (Draft.noteGenerated name generated others).map Scope.outline := by
  induction scopes generalizing others with
  | nil =>
    cases others with
    | nil => rfl
    | cons other rest => cases same
  | cons scope rest inductionHypothesis =>
    cases others with
    | nil => cases same
    | cons other others =>
      obtain ⟨first, later⟩ := List.cons.inj same
      obtain ⟨names, origins, -⟩ : scope.name = other.name ∧ scope.origin = other.origin ∧
          scope.generated = other.generated := by simpa [Scope.outline] using first
      unfold Draft.noteGenerated
      rw [names]
      split
      · rw [List.map_cons, List.map_cons, later, Scope.outline, Scope.outline, origins]
      · rw [List.map_cons, List.map_cons, first, inductionHypothesis later]

/-- Drafts that differ in values only generate the same name. -/
theorem Draft.Alike.bindingFor {draft other : Draft} (alike : draft.Alike other) (name : String) :
    Option.Rel (fun bound otherBound => bound.1 = otherBound.1 ∧ bound.2.Alike otherBound.2)
      (draft.bindingFor name) (other.bindingFor name) := by
  have found := rel_find?_outline alike.scopes name
  unfold Draft.bindingFor
  generalize draft.scopes.find? _ = scope at found ⊢
  generalize other.scopes.find? _ = otherScope at found ⊢
  cases found with
  | none => exact .none
  | @some scope otherScope same =>
    obtain ⟨names, origins, notes⟩ : scope.name = otherScope.name ∧
        scope.origin = otherScope.origin ∧ scope.generated = otherScope.generated := by
      simpa [Scope.outline] using same
    simp only [names, origins, notes, alike.nextBinding]
    split
    · exact .some ⟨rfl, alike⟩
    · exact .some ⟨rfl, map_outline_noteGenerated alike.scopes _ _, rfl, alike.text⟩

/-! ### Texts -/

theorem Draft.Alike.writePart {draft other : Draft} (alike : draft.Alike other) (part : TextPart) :
    (Template.writePart draft part).Alike (Template.writePart other part) := by
  cases part with
  | literal text => exact alike.write text
  | placeholder path options inside =>
    have bound := alike.bindingFor path.root
    unfold Template.writePart writePlaceholder
    simp only
    generalize draft.bindingFor path.root = binding at bound ⊢
    generalize other.bindingFor path.root = otherBinding at bound ⊢
    cases bound with
    | none => exact alike.write _
    | @some binding otherBinding same =>
      obtain ⟨generated, later⟩ := binding
      obtain ⟨_, otherLater⟩ := otherBinding
      obtain ⟨rfl, alikeLater⟩ := same
      exact alikeLater.write _

theorem Draft.Alike.writeText {draft other : Draft} (alike : draft.Alike other)
    (content : StaticText) :
    (Template.writeText content draft).Alike (Template.writeText content other) := by
  obtain ⟨parts⟩ := content
  unfold Template.writeText
  induction parts generalizing draft other with
  | nil => exact alike
  | cons part rest inductionHypothesis => exact inductionHypothesis (alike.writePart part)

/-! ### Steps in lockstep -/

/-- From drafts that differ in values only, two steps that take the same decisions come to drafts
that differ in values only, and the decisions that follow are the same. -/
def Lockstep (step otherStep : Step) (log otherLog : Log) : Prop :=
  ∀ ⦃draft other later otherLater : Draft⦄ ⦃rest otherRest : List Decision⦄, draft.Alike other →
    step draft = (later, none) → otherStep other = (otherLater, none) →
    log draft ++ rest = otherLog other ++ otherRest → later.Alike otherLater ∧ rest = otherRest

/-- What an enclosed step that has ended without a fault has done. -/
theorem Step.exists_of_enclosed {step : Step} {draft later : Draft}
    (finished : step.enclosed draft = (later, none)) :
    ∃ after, step draft = (after, none) ∧ later = after.keepScopes draft.scopes.length := by
  unfold Step.enclosed at finished
  generalize step draft = outcome at finished
  obtain ⟨after, fault⟩ := outcome
  obtain ⟨rfl, rfl⟩ := Prod.mk.inj finished
  exact ⟨after, rfl, rfl⟩

/-- What a step that has written text aside has done. -/
theorem Step.exists_of_aside {step : Step} {draft later : Draft} {text : List Char}
    (written : step.aside draft = (later, .ok text)) :
    ∃ after, step { draft with text := [] } = (after, none) ∧ text = after.text ∧
      later = { after.keepScopes draft.scopes.length with text := draft.text } := by
  unfold Step.aside at written
  generalize step { draft with text := [] } = outcome at written
  obtain ⟨after, fault⟩ := outcome
  cases fault with
  | none =>
    obtain ⟨rfl, same⟩ := Prod.mk.inj written
    exact ⟨after, rfl, (Except.ok.inj same).symm, rfl⟩
  | some fault => cases written

variable {step otherStep second otherSecond body otherBody : Step}
  {log otherLog secondLog otherSecondLog : Log}

theorem Lockstep.pass : Lockstep (fun draft => (draft, none)) (fun draft => (draft, none))
    (fun _ => []) fun _ => [] := by
  intro draft other later otherLater rest otherRest alike finished otherFinished same
  obtain ⟨rfl, -⟩ := Prod.mk.inj finished
  obtain ⟨rfl, -⟩ := Prod.mk.inj otherFinished
  exact ⟨alike, same⟩

theorem Lockstep.followedBy (lockstep : Lockstep step otherStep log otherLog)
    (lockstepSecond : Lockstep second otherSecond secondLog otherSecondLog) :
    Lockstep (step.followedBy second) (otherStep.followedBy otherSecond)
      (Log.followedBy step log secondLog) (Log.followedBy otherStep otherLog otherSecondLog) := by
  intro draft other later otherLater rest otherRest alike finished otherFinished same
  unfold Step.followedBy at finished otherFinished
  unfold Log.followedBy at same
  split at finished
  · next middle reached =>
    split at otherFinished
    · next otherMiddle otherReached =>
      rw [reached, otherReached, List.append_assoc, List.append_assoc] at same
      obtain ⟨alikeMiddle, sameSecond⟩ := lockstep alike reached otherReached same
      exact lockstepSecond alikeMiddle finished otherFinished sameSecond
    · cases otherFinished
  · cases finished

theorem Lockstep.enclosed (lockstep : Lockstep step otherStep log otherLog) :
    Lockstep step.enclosed otherStep.enclosed log otherLog := by
  intro draft other later otherLater rest otherRest alike finished otherFinished same
  obtain ⟨after, reached, rfl⟩ := Step.exists_of_enclosed finished
  obtain ⟨otherAfter, otherReached, rfl⟩ := Step.exists_of_enclosed otherFinished
  obtain ⟨alikeAfter, sameRest⟩ := lockstep alike reached otherReached same
  rw [alike.length_scopes]
  exact ⟨alikeAfter.keepScopes _, sameRest⟩

/-- A test whose outcome is the same selects the same. -/
theorem Lockstep.guarded (outcome otherOutcome : Draft → Bool)
    (lockstep : Lockstep step otherStep log otherLog)
    (lockstepSecond : Lockstep second otherSecond secondLog otherSecondLog) :
    Lockstep (fun draft => if outcome draft then step draft else second draft)
      (fun draft => if otherOutcome draft then otherStep draft else otherSecond draft)
      (Log.guarded outcome log secondLog) (Log.guarded otherOutcome otherLog otherSecondLog) := by
  intro draft other later otherLater rest otherRest alike finished otherFinished same
  unfold Log.guarded at same
  obtain ⟨sameTest, sameRest⟩ := List.cons.inj same
  have outcomes : outcome draft = otherOutcome other := Decision.test.inj sameTest
  simp only [outcomes] at finished sameRest
  cases holds : otherOutcome other with
  | true =>
    simp only [holds, if_true] at finished otherFinished sameRest
    exact lockstep alike finished otherFinished sameRest
  | false =>
    simp only [holds, Bool.false_eq_true, if_false] at finished otherFinished sameRest
    exact lockstepSecond alike finished otherFinished sameRest

/-- What is written aside in lockstep is the same text. -/
theorem Lockstep.aside (lockstep : Lockstep step otherStep log otherLog)
    {draft other later otherLater : Draft} {text otherText : List Char}
    {rest otherRest : List Decision} (alike : draft.Alike other)
    (written : step.aside draft = (later, .ok text))
    (otherWritten : otherStep.aside other = (otherLater, .ok otherText))
    (same : log.aside draft ++ rest = otherLog.aside other ++ otherRest) :
    later.Alike otherLater ∧ text = otherText ∧ rest = otherRest := by
  obtain ⟨after, finished, rfl, rfl⟩ := Step.exists_of_aside written
  obtain ⟨otherAfter, otherFinished, rfl, rfl⟩ := Step.exists_of_aside otherWritten
  obtain ⟨alikeAfter, sameRest⟩ := lockstep (alike.withText []) finished otherFinished same
  refine ⟨?_, alikeAfter.text, sameRest⟩
  rw [alike.text, alike.length_scopes]
  exact (alikeAfter.keepScopes _).withText _

theorem Lockstep.writeClause (trimming : Trimming)
    (lockstep : Lockstep step otherStep log otherLog) :
    Lockstep (writeClause trimming step) (writeClause trimming otherStep) log.aside
      otherLog.aside := by
  intro draft other later otherLater rest otherRest alike finished otherFinished same
  unfold Template.writeClause at finished otherFinished
  split at finished
  · cases finished
  · next middle text written =>
    split at otherFinished
    · cases otherFinished
    · next otherMiddle otherText otherWritten =>
      obtain ⟨alikeMiddle, rfl, sameRest⟩ := lockstep.aside alike written otherWritten same
      refine ⟨?_, sameRest⟩
      cases wrapped : trimming.wrap? text with
      | none =>
        rw [wrapped] at finished otherFinished
        obtain ⟨rfl, -⟩ := Prod.mk.inj finished
        obtain ⟨rfl, -⟩ := Prod.mk.inj otherFinished
        exact alikeMiddle
      | some clause =>
        rw [wrapped] at finished otherFinished
        obtain ⟨rfl, -⟩ := Prod.mk.inj finished
        obtain ⟨rfl, -⟩ := Prod.mk.inj otherFinished
        rw [alikeMiddle.text]
        exact alikeMiddle.withText _

/-! ### Loops in lockstep -/

theorem Lockstep.repetition (header : Loop) (lockstep : Lockstep body otherBody log otherLog)
    (entry otherEntry : Value × Value) :
    Lockstep (repetition header body entry) (repetition header otherBody otherEntry)
      (log.repetition header entry) (otherLog.repetition header otherEntry) := by
  intro draft other later otherLater rest otherRest alike finished otherFinished same
  exact lockstep ((alike.pushNamed header.index entry.1 otherEntry.1 .loop).pushNamed header.item
    entry.2 otherEntry.2 .loop) finished otherFinished same

/-- As many repetitions in lockstep write the same texts. -/
theorem Lockstep.repeatBody (header : Loop) (lockstep : Lockstep body otherBody log otherLog)
    {entries otherEntries : List (Value × Value)} (asMany : entries.length = otherEntries.length)
    {draft other later otherLater : Draft} {texts otherTexts : List (List Char)}
    {rest otherRest : List Decision} (alike : draft.Alike other)
    (written : repeatBody header body entries draft = (later, .ok texts))
    (otherWritten : repeatBody header otherBody otherEntries other = (otherLater, .ok otherTexts))
    (same : Log.repeatBody header body log entries draft ++ rest =
      Log.repeatBody header otherBody otherLog otherEntries other ++ otherRest) :
    later.Alike otherLater ∧ texts = otherTexts ∧ rest = otherRest := by
  induction entries generalizing otherEntries draft other later otherLater texts otherTexts with
  | nil =>
    obtain rfl := List.length_eq_zero_iff.1 asMany.symm
    obtain ⟨rfl, sameTexts⟩ := Prod.mk.inj written
    obtain ⟨rfl, sameOthers⟩ := Prod.mk.inj otherWritten
    exact ⟨alike, (Except.ok.inj sameTexts).symm.trans (Except.ok.inj sameOthers), same⟩
  | cons entry entries inductionHypothesis =>
    obtain ⟨otherEntry, otherEntries, rfl⟩ :=
      List.exists_cons_of_length_pos (by rw [← asMany]; exact Nat.succ_pos _)
    unfold Template.repeatBody at written otherWritten
    unfold Log.repeatBody at same
    split at written
    · cases written
    · next middle text first =>
      split at otherWritten
      · cases otherWritten
      · next otherMiddle otherText otherFirst =>
        rw [first, otherFirst, List.append_assoc, List.append_assoc] at same
        obtain ⟨alikeMiddle, rfl, sameLater⟩ :=
          (lockstep.repetition header entry otherEntry).aside alike first otherFirst same
        split at written
        · cases written
        · next last others writtenLater =>
          split at otherWritten
          · cases otherWritten
          · next otherLast otherOthers otherWrittenLater =>
            obtain ⟨alikeLast, rfl, sameRest⟩ := inductionHypothesis
              (Nat.succ.inj asMany) alikeMiddle writtenLater otherWrittenLater sameLater
            obtain ⟨rfl, sameTexts⟩ := Prod.mk.inj written
            obtain ⟨rfl, sameOthers⟩ := Prod.mk.inj otherWritten
            exact ⟨alikeLast, (Except.ok.inj sameTexts).symm.trans (Except.ok.inj sameOthers),
              sameRest⟩

theorem Lockstep.writeLoop (policy : EmptyCollection) (header : Loop)
    (collection otherCollection : Value) (lockstep : Lockstep body otherBody log otherLog) :
    Lockstep (writeLoop policy header collection body)
      (writeLoop policy header otherCollection otherBody)
      (Log.writeLoop policy header collection body log)
      (Log.writeLoop policy header otherCollection otherBody otherLog) := by
  intro draft other later otherLater rest otherRest alike finished otherFinished same
  unfold Template.writeLoop at finished otherFinished
  unfold Log.writeLoop at same
  generalize entriesOf header.collectionSource collection = outcome at finished same
  generalize entriesOf header.collectionSource otherCollection = otherOutcome
    at otherFinished same
  cases outcome with
  | error fault => cases finished
  | ok entries =>
    cases otherOutcome with
    | error fault => cases otherFinished
    | ok otherEntries =>
      simp only at finished otherFinished same
      split at finished
      · cases finished
      · next going =>
        split at otherFinished
        · cases otherFinished
        · next otherGoing =>
          rw [if_neg going, if_neg otherGoing] at same
          obtain ⟨sameCount, sameLater⟩ := List.cons.inj same
          split at finished
          · cases finished
          · next last texts written =>
            split at otherFinished
            · cases otherFinished
            · next otherLast otherTexts otherWritten =>
              obtain ⟨alikeLast, rfl, sameRest⟩ := lockstep.repeatBody header
                (Decision.entries.inj sameCount) alike written otherWritten sameLater
              obtain ⟨rfl, -⟩ := Prod.mk.inj finished
              obtain ⟨rfl, -⟩ := Prod.mk.inj otherFinished
              refine ⟨?_, sameRest⟩
              rw [alikeLast.text]
              exact alikeLast.withText _

/-! ### Templates in lockstep -/

variable (policy : EmptyCollection) (parameter other : Value)

mutual

theorem lockstep_apply (node : Node) :
    Lockstep (node.apply policy parameter) (node.apply policy other)
      (node.decisions policy parameter) (node.decisions policy other) := by
  cases node with
  | text content =>
    intro draft otherDraft later otherLater rest otherRest alike finished otherFinished same
    obtain ⟨rfl, -⟩ := Prod.mk.inj finished
    obtain ⟨rfl, -⟩ := Prod.mk.inj otherFinished
    exact ⟨alike.writeText content, same⟩
  | mixed nodes => exact lockstep_applyEach nodes
  | whereClause body => exact (lockstep_apply body).writeClause .ofWhere
  | setClause body => exact (lockstep_apply body).writeClause .ofSet
  | trim trimming body => exact (lockstep_apply body).writeClause trimming
  | condition test source body => exact .guarded _ _ (lockstep_apply body).enclosed .pass
  | choose branches otherwise =>
    exact lockstep_applyFirst branches (lockstep_applyOption otherwise)
  | loop header body =>
    intro draft otherDraft later otherLater rest otherRest alike finished otherFinished same
    exact (lockstep_apply body).writeLoop policy header _ _ alike finished otherFinished same
  | bind name value =>
    intro draft otherDraft later otherLater rest otherRest alike finished otherFinished same
    obtain ⟨rfl, -⟩ := Prod.mk.inj finished
    obtain ⟨rfl, -⟩ := Prod.mk.inj otherFinished
    exact ⟨alike.push name _ _ .bind, same⟩

theorem lockstep_applyEach (nodes : List Node) :
    Lockstep (Node.applyEach policy parameter nodes) (Node.applyEach policy other nodes)
      (Node.decisionsOfEach policy parameter nodes)
      (Node.decisionsOfEach policy other nodes) := by
  cases nodes with
  | nil => exact .pass
  | cons node rest => exact (lockstep_apply node).followedBy (lockstep_applyEach rest)

theorem lockstep_applyFirst (branches : List (Expr × String × Node))
    {ending otherEnding : Step} {endingLog otherEndingLog : Log}
    (lockstep : Lockstep ending otherEnding endingLog otherEndingLog) :
    Lockstep (Node.applyFirst policy parameter branches ending)
      (Node.applyFirst policy other branches otherEnding)
      (Node.decisionsOfFirst policy parameter branches endingLog)
      (Node.decisionsOfFirst policy other branches otherEndingLog) := by
  match branches with
  | [] => exact lockstep
  | (_, _, body) :: rest =>
    exact .guarded _ _ (lockstep_apply body).enclosed (lockstep_applyFirst rest lockstep)

theorem lockstep_applyOption (otherwise : Option Node) :
    Lockstep (Node.applyOption policy parameter otherwise)
      (Node.applyOption policy other otherwise)
      (Node.decisionsOfOption policy parameter otherwise)
      (Node.decisionsOfOption policy other otherwise) := by
  cases otherwise with
  | none => exact .pass
  | some body => exact (lockstep_apply body).enclosed

end

end DynamicSql.Template
