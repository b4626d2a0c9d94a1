/-
This file proves that rendering is local. The names in scope stay, below those that a template
introduces. And a template writes the same behind any text, but for the space that keeps what a
clause or a loop writes from the text before it; `isLed` says whether what a template writes first
is written by a clause or a loop, so that there is such a space.

One law for each way in which steps are put together, then one induction along templates. The law
of two steps one after the other is that of the texts: joining twice is joining what is joined.
-/

import DynamicSql.Proofs.Template.Bindings
import DynamicSql.Proofs.Template.Dressing

namespace DynamicSql.Template

/-! ### Texts joined -/

/-- A text behind another one, with the gap of a clause between them if it is led. -/
def joined (led : Bool) (text written : List Char) : List Char :=
  if led then appendClause text written else text ++ written

variable {led : Bool} {text written : List Char}

theorem gapBehind_append (front : List Char) {back : List Char} (filled : back ≠ []) :
    gapBehind (front ++ back) = gapBehind back := by
  unfold gapBehind
  refine if_congr ?_ rfl rfl
  constructor
  · exact fun ink => ⟨filled, ink.2.of_append⟩
  · exact fun ink => ⟨List.append_ne_nil_of_right_ne_nil front filled, ink.2.append filled front⟩

@[simp]
theorem joined_nil_right (led : Bool) (text : List Char) : joined led text [] = text := by
  cases led with
  | false => exact List.append_nil text
  | true => exact appendClause_nil text

@[simp]
theorem joined_nil_left (led : Bool) (written : List Char) : joined led [] written = written := by
  cases led with
  | false => rfl
  | true => cases written <;> rfl

theorem joined_of_ne_nil (led : Bool) (text : List Char) (filled : written ≠ []) :
    joined led text written = text ++ (if led then gapBehind text else []) ++ written := by
  cases led with
  | false => exact (congrArg (· ++ written) (List.append_nil text)).symm
  | true => exact appendClause_eq text filled

/-- What is written first leads. -/
theorem joined_joined (first second : Bool) (text front back : List Char) :
    joined second (joined first text front) back =
      joined (if front.isEmpty then second else first) text (joined second front back) := by
  cases front with
  | nil =>
    rw [joined_nil_right, joined_nil_left]
    rfl
  | cons character front =>
    have filled : character :: front ≠ [] := List.cons_ne_nil character front
    rw [List.isEmpty_cons, if_neg Bool.false_ne_true, joined_of_ne_nil first text filled]
    by_cases nothing : back = []
    · rw [nothing, joined_nil_right, joined_nil_right, joined_of_ne_nil first text filled]
    · rw [joined_of_ne_nil second _ nothing, joined_of_ne_nil second _ nothing,
        gapBehind_append _ filled, joined_of_ne_nil first text (by simp)]
      simp only [List.append_assoc]

/-! ### Names -/

namespace Draft

variable {draft : Draft}

@[simp]
theorem names_pushNamed (draft : Draft) (name : Option String) (value : Value) (origin : Origin) :
    (draft.pushNamed name value origin).names =
      (name.map fun name => (name, value)).toList ++ draft.names := by
  cases name <;> rfl

theorem names_bindingFor {later : Draft} {name generated : String}
    (bound : draft.bindingFor name = some (generated, later)) : later.names = draft.names := by
  unfold Draft.bindingFor at bound
  split at bound
  · cases bound
  · split at bound
    · obtain ⟨-, rfl⟩ := Prod.mk.inj (Option.some.inj bound)
      rfl
    · obtain ⟨-, rfl⟩ := Prod.mk.inj (Option.some.inj bound)
      exact Draft.names_noteGenerated name _ draft.scopes

@[simp]
theorem names_writePart (draft : Draft) (part : TextPart) :
    (writePart draft part).names = draft.names := by
  cases part with
  | literal text => rfl
  | placeholder path options inside =>
    show (writePlaceholder path options inside draft).names = draft.names
    unfold writePlaceholder
    split
    · next later isBound => exact (names_bindingFor isBound : later.names = draft.names)
    · rfl

@[simp]
theorem names_writeText (content : StaticText) (draft : Draft) :
    (writeText content draft).names = draft.names := by
  obtain ⟨parts⟩ := content
  unfold writeText
  induction parts generalizing draft with
  | nil => rfl
  | cons part rest inductionHypothesis =>
    exact (inductionHypothesis _).trans (names_writePart draft part)

end Draft

/-! ### Texts moved -/

namespace Draft

variable {draft : Draft}

/-- The draft without its text. -/
def cleared (draft : Draft) : Draft :=
  { draft with text := [] }

/-- The draft with its text behind another one. -/
def behindText (draft : Draft) (led : Bool) (text : List Char) : Draft :=
  { draft with text := joined led text draft.text }

@[simp]
theorem cleared_behindText (led : Bool) (text : List Char) :
    (draft.behindText led text).cleared = draft.cleared := rfl

theorem behindText_of_text_eq_nil (nothing : draft.text = []) (led : Bool) (text : List Char) :
    draft.behindText led text = { draft with text } := by
  unfold behindText
  rw [nothing, joined_nil_right]

@[simp]
theorem cleared_behindText_text (draft : Draft) (led : Bool) :
    draft.cleared.behindText led draft.text = draft := by
  rw [behindText_of_text_eq_nil rfl]
  rfl

theorem behindText_behindText (first second : Bool) (text front : List Char) :
    (draft.behindText second front).behindText (if front.isEmpty then second else first) text =
      draft.behindText second (joined first text front) := by
  unfold behindText
  rw [joined_joined]

theorem behindText_appendClause (nothing : draft.text = []) (text clause : List Char) :
    { draft with text := appendClause draft.text clause }.behindText true text =
      { draft with text := appendClause text clause } := by
  show { draft with text := joined true text (appendClause draft.text clause) } = _
  rw [nothing]
  show { draft with text := joined true text (joined true [] clause) } = _
  rw [joined_nil_left]
  rfl

theorem bindingFor_behindText (draft : Draft) (led : Bool) (text : List Char) (name : String) :
    (draft.behindText led text).bindingFor name =
      (draft.bindingFor name).map fun bound => (bound.1, bound.2.behindText led text) := by
  have sameScopes : (draft.behindText led text).scopes = draft.scopes := rfl
  unfold Draft.bindingFor
  rw [sameScopes]
  cases draft.scopes.find? fun scope => scope.name == name with
  | none => rfl
  | some scope =>
    obtain ⟨name, value, origin, _ | generated⟩ := scope
    · rfl
    · rfl

theorem write_behindText (draft : Draft) (text more : List Char) :
    (draft.behindText false text).write more = (draft.write more).behindText false text := by
  show { draft with text := (text ++ draft.text) ++ more } =
    { draft with text := text ++ (draft.text ++ more) }
  rw [List.append_assoc]

theorem writePart_behindText (draft : Draft) (text : List Char) (part : TextPart) :
    writePart (draft.behindText false text) part =
      (writePart draft part).behindText false text := by
  cases part with
  | literal more => exact write_behindText draft text more
  | placeholder path options inside =>
    show writePlaceholder path options inside (draft.behindText false text) =
      (writePlaceholder path options inside draft).behindText false text
    unfold writePlaceholder
    rw [bindingFor_behindText]
    cases draft.bindingFor path.root with
    | none => exact write_behindText draft text _
    | some bound => exact write_behindText bound.2 text _

theorem writeText_behindText (content : StaticText) (draft : Draft) (text : List Char) :
    writeText content (draft.behindText false text) =
      (writeText content draft).behindText false text := by
  obtain ⟨parts⟩ := content
  unfold writeText
  induction parts generalizing draft with
  | nil => rfl
  | cons part rest inductionHypothesis =>
    rw [List.foldl_cons, List.foldl_cons, writePart_behindText]
    exact inductionHypothesis _

end Draft

/-! ### What is written aside -/

section

variable {step : Step} {draft : Draft}

theorem names_aside (behind : ∀ draft : Draft, draft.names <:+ (step draft).1.names)
    (draft : Draft) : (step.aside draft).1.names = draft.names :=
  Draft.names_keepScopes_length (behind draft.cleared)

/-- What is written aside is not written behind the text of the draft. -/
theorem aside_eq (step : Step) (draft : Draft) :
    step.aside draft =
      ({ (step.aside draft.cleared).1 with text := draft.text }, (step.aside draft.cleared).2) := rfl

theorem repeatBody_withText (header : Loop) (body : Step) (entries : List (Value × Value))
    (draft : Draft) (text : List Char) :
    repeatBody header body entries { draft with text } =
      ({ (repeatBody header body entries draft).1 with text },
        (repeatBody header body entries draft).2) := by
  induction entries generalizing draft with
  | nil => rfl
  | cons entry rest inductionHypothesis =>
    have first : (repetition header body entry).aside { draft with text } =
      ({ ((repetition header body entry).aside draft).1 with text },
        ((repetition header body entry).aside draft).2) := rfl
    unfold repeatBody
    rw [first]
    rcases (repetition header body entry).aside draft with ⟨later, fault | part⟩
    · rfl
    · simp only
      rw [inductionHypothesis]
      rcases repeatBody header body rest later with ⟨last, fault | parts⟩ <;> rfl

@[simp]
theorem text_repeatBody (header : Loop) (body : Step) (entries : List (Value × Value))
    (draft : Draft) : (repeatBody header body entries draft).1.text = draft.text := by
  have separate := repeatBody_withText header body entries draft draft.text
  exact congrArg (fun outcome => outcome.1.text) separate

end

/-! ### Local steps -/

/-- A step that keeps the names in scope and writes the same behind any text, `led` telling of a
cleared draft whether there is the gap of a clause before what is written. -/
structure Local (led : Draft → Bool) (step : Step) : Prop where
  behind : ∀ draft : Draft, draft.names <:+ (step draft).1.names
  joins : ∀ draft : Draft, step draft =
    ((step draft.cleared).1.behindText (led draft.cleared) draft.text, (step draft.cleared).2)

namespace Local

variable {led ledSecond : Draft → Bool} {step second body : Step} {draft : Draft}

theorem pass : Local (fun _ => false) fun draft => (draft, none) where
  behind _ := List.suffix_rfl
  joins draft := by simp

theorem push (name : String) (value : Draft → Value) (origin : Origin)
    (blind : ∀ draft : Draft, value draft.cleared = value draft) :
    Local (fun _ => false) fun draft => (draft.push name (value draft) origin, none) where
  behind draft := List.suffix_cons _ _
  joins draft := by
    rw [blind, Draft.behindText_of_text_eq_nil rfl]
    rfl

/-- What the first step writes leads, and if it writes nothing, what the second one does. -/
theorem followedBy (first : Local led step) (next : Local ledSecond second) :
    Local (fun draft =>
      if (step draft).1.text.isEmpty then ledSecond (step draft).1 else led draft)
      (step.followedBy second) where
  behind draft := by
    have behind := first.behind draft
    unfold Step.followedBy
    split
    · next later reached =>
      rw [reached] at behind
      exact behind.trans (next.behind later)
    · next reached =>
      rw [reached] at behind
      exact behind
  joins draft := by
    unfold Step.followedBy
    rw [first.joins draft]
    rcases step draft.cleared with ⟨later, _ | fault⟩
    · have lead : (if later.text.isEmpty then ledSecond later else led draft.cleared) =
          if later.text.isEmpty then ledSecond later.cleared else led draft.cleared := by
        split
        · next nothing => rw [Draft.cleared, ← List.isEmpty_iff.1 nothing]
        · rfl
      simp only
      rw [next.joins later, next.joins (later.behindText _ _), Draft.cleared_behindText, lead,
        Draft.behindText_behindText]
      rfl
    · simp only
      split
      · next nothing =>
        rw [Draft.behindText_of_text_eq_nil (List.isEmpty_iff.1 nothing),
          Draft.behindText_of_text_eq_nil (List.isEmpty_iff.1 nothing)]
      · rfl

theorem enclosed (isLocal : Local led step) : Local led step.enclosed where
  behind draft := Draft.names_keepScopes_length (isLocal.behind draft) ▸ List.suffix_rfl
  joins draft := by
    show (((step draft).1.keepScopes draft.scopes.length, (step draft).2) : _ × _) = _
    rw [isLocal.joins draft]
    rfl

theorem guarded (outcome : Draft → Bool)
    (blind : ∀ draft : Draft, outcome draft.cleared = outcome draft) (isLocal : Local led step)
    (isLocalSecond : Local ledSecond second) :
    Local (fun draft => if outcome draft then led draft else ledSecond draft)
      fun draft => if outcome draft then step draft else second draft where
  behind draft := by
    split
    · exact isLocal.behind draft
    · exact isLocalSecond.behind draft
  joins draft := by
    rw [blind]
    split
    · exact isLocal.joins draft
    · exact isLocalSecond.joins draft

theorem writeText (content : StaticText) :
    Local (fun _ => false) fun draft => (Template.writeText content draft, none) where
  behind draft := Draft.names_writeText content draft ▸ List.suffix_rfl
  joins draft := by rw [← Draft.writeText_behindText, Draft.cleared_behindText_text]

theorem writeClause (trimming : Trimming) (isLocal : Local led step) :
    Local (fun _ => true) (writeClause trimming step) where
  behind draft := by
    have names := names_aside isLocal.behind draft
    unfold Template.writeClause
    split
    · next written =>
      rw [written] at names
      exact names ▸ List.suffix_rfl
    · next written =>
      rw [written] at names
      split
      · exact names ▸ List.suffix_rfl
      · exact names ▸ List.suffix_rfl
  joins draft := by
    have nothing : (step.aside draft.cleared).1.text = [] := rfl
    unfold Template.writeClause
    rw [aside_eq]
    revert nothing
    rcases step.aside draft.cleared with ⟨later, fault | body⟩
    · intro nothing
      simp only
      rw [Draft.behindText_of_text_eq_nil nothing]
    · intro nothing
      simp only
      cases trimming.wrap? body with
      | none => simp only; rw [Draft.behindText_of_text_eq_nil nothing]
      | some clause =>
        simp only
        rw [Draft.behindText_appendClause nothing]

theorem behind_repetition (header : Loop) (isLocal : Local led body) (entry : Value × Value)
    (draft : Draft) : draft.names <:+ (repetition header body entry draft).1.names := by
  refine List.IsSuffix.trans ?_ (isLocal.behind _)
  rw [Draft.names_pushNamed, Draft.names_pushNamed]
  exact (List.suffix_append _ _).trans (List.suffix_append _ _)

@[simp]
theorem names_repeatBody (header : Loop) (isLocal : Local led body)
    (entries : List (Value × Value)) (draft : Draft) :
    (repeatBody header body entries draft).1.names = draft.names := by
  induction entries generalizing draft with
  | nil => rfl
  | cons entry rest inductionHypothesis =>
    have first := names_aside (isLocal.behind_repetition header entry) draft
    unfold repeatBody
    split
    · next written =>
      rw [written] at first
      exact first
    · next later text written =>
      rw [written] at first
      have others := inductionHypothesis later
      split
      · next writtenRest =>
        rw [writtenRest] at others
        exact others.trans first
      · next writtenRest =>
        rw [writtenRest] at others
        exact others.trans first

theorem writeLoop (policy : EmptyCollection) (header : Loop) (collection : Draft → Value)
    (blind : ∀ draft : Draft, collection draft.cleared = collection draft)
    (isLocal : Local led body) :
    Local (fun _ => true)
      fun draft => Template.writeLoop policy header (collection draft) body draft where
  behind draft := by
    unfold Template.writeLoop
    split
    · exact List.suffix_rfl
    · next entries isCollection =>
      split
      · exact List.suffix_rfl
      · have names := isLocal.names_repeatBody header entries draft
        split
        · next written =>
          rw [written] at names
          exact names ▸ List.suffix_rfl
        · next written =>
          rw [written] at names
          exact names ▸ List.suffix_rfl
  joins draft := by
    rw [blind]
    unfold Template.writeLoop
    split
    · simp only
      rw [Draft.cleared_behindText_text]
    · split
      · simp only
        rw [Draft.cleared_behindText_text]
      · next entries isCollection nonempty =>
        have separate : repeatBody header body entries draft =
            ({ (repeatBody header body entries draft.cleared).1 with text := draft.text },
              (repeatBody header body entries draft.cleared).2) :=
          repeatBody_withText header body entries draft.cleared draft.text
        have nothing : (repeatBody header body entries draft.cleared).1.text = [] :=
          text_repeatBody header body entries draft.cleared
        rw [separate]
        revert nothing
        rcases repeatBody header body entries draft.cleared with ⟨later, fault | texts⟩
        · intro nothing
          simp only
          rw [Draft.behindText_of_text_eq_nil nothing]
        · intro nothing
          simp only
          rw [Draft.behindText_appendClause nothing]

end Local

/-! ### Templates -/

mutual

/-- What the template writes first, if anything, is written by a clause or a loop. -/
def Node.isLed (policy : EmptyCollection) (parameter : Value) : Node → Draft → Bool
  | .text _ => fun _ => false
  | .mixed nodes => Node.areLed policy parameter nodes
  | .whereClause _ => fun _ => true
  | .setClause _ => fun _ => true
  | .trim _ _ => fun _ => true
  | .condition test _ body => fun draft =>
    if test.evalBool (draft.resolve parameter) then Node.isLed policy parameter body draft
    else false
  | .choose branches otherwise =>
    Node.isFirstLed policy parameter branches (Node.isOptionLed policy parameter otherwise)
  | .loop _ _ => fun _ => true
  | .bind _ _ => fun _ => false

/-- `isLed` for templates one after the other: the first one that writes anything decides. -/
def Node.areLed (policy : EmptyCollection) (parameter : Value) : List Node → Draft → Bool
  | [] => fun _ => false
  | node :: rest => fun draft =>
    if (node.apply policy parameter draft).1.text.isEmpty then
      Node.areLed policy parameter rest (node.apply policy parameter draft).1
    else Node.isLed policy parameter node draft

/-- `isLed` for the first branch whose test holds. -/
def Node.isFirstLed (policy : EmptyCollection) (parameter : Value) :
    List (Expr × String × Node) → (Draft → Bool) → Draft → Bool
  | [], otherwise => otherwise
  | (test, _, body) :: rest, otherwise => fun draft =>
    if test.evalBool (draft.resolve parameter) then Node.isLed policy parameter body draft
    else Node.isFirstLed policy parameter rest otherwise draft

/-- `isLed` for a template that may be missing. -/
def Node.isOptionLed (policy : EmptyCollection) (parameter : Value) :
    Option Node → Draft → Bool
  | none => fun _ => false
  | some body => Node.isLed policy parameter body

end

variable (policy : EmptyCollection) (parameter : Value)

mutual

theorem local_apply (node : Node) :
    Local (node.isLed policy parameter) (node.apply policy parameter) := by
  cases node with
  | text content => exact .writeText content
  | mixed nodes => exact local_applyEach nodes
  | whereClause body => exact (local_apply body).writeClause .ofWhere
  | setClause body => exact (local_apply body).writeClause .ofSet
  | trim trimming body => exact (local_apply body).writeClause trimming
  | condition test source body =>
    exact .guarded _ (fun _ => rfl) (local_apply body).enclosed .pass
  | choose branches otherwise => exact local_applyFirst branches (local_applyOption otherwise)
  | loop header body =>
    exact (local_apply body).writeLoop policy header _ fun _ => rfl
  | bind name value => exact .push name _ .bind fun _ => rfl

theorem local_applyEach (nodes : List Node) :
    Local (Node.areLed policy parameter nodes) (Node.applyEach policy parameter nodes) := by
  cases nodes with
  | nil => exact .pass
  | cons node rest => exact (local_apply node).followedBy (local_applyEach rest)

theorem local_applyFirst (branches : List (Expr × String × Node)) {led : Draft → Bool}
    {ending : Step} (isLocal : Local led ending) :
    Local (Node.isFirstLed policy parameter branches led)
      (Node.applyFirst policy parameter branches ending) := by
  match branches with
  | [] => exact isLocal
  | (_, _, body) :: rest =>
    exact .guarded _ (fun _ => rfl) (local_apply body).enclosed (local_applyFirst rest isLocal)

theorem local_applyOption (otherwise : Option Node) :
    Local (Node.isOptionLed policy parameter otherwise)
      (Node.applyOption policy parameter otherwise) := by
  cases otherwise with
  | none => exact .pass
  | some body => exact (local_apply body).enclosed

end

end DynamicSql.Template
