/-
This file compares the two policies for empty collections. From one draft, a step under the strict
policy ends as it does under the lenient one, unless it ends in the fault of an empty collection.
This is kept by all ways in which steps are put together, since what follows an equal step starts
from an equal draft, and nothing follows a fault. So the lenient policy only adds successes.
-/

import DynamicSql.Execution
import DynamicSql.Proofs.Outcome
import DynamicSql.Proofs.Template.Requirement

namespace DynamicSql.Template

/-! ### Steps -/

/-- A strict step ends as a lenient one does, or in the fault of an empty collection. -/
def Relaxes (strict lenient : Step) : Prop :=
  ∀ draft, strict draft = lenient draft ∨ ∃ source, (strict draft).2 = some (.empty source)

/-- Two outcomes with results are the same, or the first is the fault of an empty collection. -/
def RelaxesAt {Result : Type} (strict lenient : Draft × Except LoopFault Result) : Prop :=
  strict = lenient ∨ ∃ source, strict.2 = .error (.empty source)

namespace Relaxes

variable {strict lenient second otherSecond : Step}

theorem refl (step : Step) : Relaxes step step :=
  fun _ => .inl rfl

theorem followedBy (relaxes : Relaxes strict lenient) (relaxesSecond : Relaxes second otherSecond) :
    Relaxes (strict.followedBy second) (lenient.followedBy otherSecond) := by
  intro draft
  unfold Step.followedBy
  rcases relaxes draft with same | ⟨source, isEmpty⟩
  · rw [← same]
    split
    · exact relaxesSecond _
    · exact .inl rfl
  · have failed : strict draft = (_, some (.empty source)) := Prod.ext rfl isEmpty
    exact .inr ⟨source, by rw [failed]⟩

theorem enclosed (relaxes : Relaxes strict lenient) : Relaxes strict.enclosed lenient.enclosed := by
  intro draft
  unfold Step.enclosed
  rcases relaxes draft with same | isEmpty
  · rw [same]
    exact .inl rfl
  · exact .inr isEmpty

/-- A test has one outcome under both policies. -/
theorem guarded (outcome : Draft → Bool) (relaxes : Relaxes strict lenient)
    (relaxesSecond : Relaxes second otherSecond) :
    Relaxes (fun draft => if outcome draft then strict draft else second draft)
      (fun draft => if outcome draft then lenient draft else otherSecond draft) := by
  intro draft
  simp only
  split
  · exact relaxes draft
  · exact relaxesSecond draft

theorem aside (relaxes : Relaxes strict lenient) (draft : Draft) :
    RelaxesAt (strict.aside draft) (lenient.aside draft) := by
  unfold Step.aside
  rcases relaxes { draft with text := [] } with same | ⟨source, isEmpty⟩
  · rw [same]
    exact .inl rfl
  · refine .inr ⟨source, ?_⟩
    simp only [isEmpty]

theorem writeClause (trimming : Trimming) (relaxes : Relaxes strict lenient) :
    Relaxes (writeClause trimming strict) (writeClause trimming lenient) := by
  intro draft
  unfold Template.writeClause
  rcases relaxes.aside draft with same | ⟨source, isEmpty⟩
  · rw [same]
    exact .inl rfl
  · have failed : strict.aside draft = (_, .error (.empty source)) := Prod.ext rfl isEmpty
    exact .inr ⟨source, by rw [failed]⟩

/-! ### Loops -/

theorem repetition (header : Loop) (relaxes : Relaxes strict lenient) (entry : Value × Value) :
    Relaxes (repetition header strict entry) (repetition header lenient entry) :=
  fun draft =>
    relaxes ((draft.pushNamed header.index entry.1 .loop).pushNamed header.item entry.2 .loop)

theorem repeatBody (header : Loop) (relaxes : Relaxes strict lenient)
    (entries : List (Value × Value)) (draft : Draft) :
    RelaxesAt (repeatBody header strict entries draft)
      (repeatBody header lenient entries draft) := by
  induction entries generalizing draft with
  | nil => exact .inl rfl
  | cons entry rest inductionHypothesis =>
    unfold Template.repeatBody
    rcases (relaxes.repetition header entry).aside draft with same | ⟨source, isEmpty⟩
    · rw [← same]
      split
      · exact .inl rfl
      · next middle text written =>
        rcases inductionHypothesis middle with sameRest | ⟨source, isEmpty⟩
        · rw [sameRest]
          exact .inl rfl
        · have failed : Template.repeatBody header strict rest middle =
              (_, .error (.empty source)) := Prod.ext rfl isEmpty
          exact .inr ⟨source, by rw [failed]⟩
    · have failed : (Template.repetition header strict entry).aside draft =
          (_, .error (.empty source)) := Prod.ext rfl isEmpty
      exact .inr ⟨source, by rw [failed]⟩

/-- The only place where the policies part: a loop without entries. -/
theorem writeLoop (header : Loop) (collection : Value) (relaxes : Relaxes strict lenient) :
    Relaxes (writeLoop .error header collection strict)
      (writeLoop .render header collection lenient) := by
  intro draft
  unfold Template.writeLoop
  split
  · exact .inl rfl
  · next entries _ =>
    cases entries with
    | nil => exact .inr ⟨header.collectionSource, rfl⟩
    | cons entry rest =>
      simp only [List.isEmpty_cons, Bool.false_and, Bool.false_eq_true, if_false]
      rcases relaxes.repeatBody header (entry :: rest) draft with same | ⟨source, isEmpty⟩
      · rw [same]
        exact .inl rfl
      · have failed : Template.repeatBody header strict (entry :: rest) draft =
            (_, .error (.empty source)) := Prod.ext rfl isEmpty
        exact .inr ⟨source, by rw [failed]⟩

end Relaxes

/-! ### Templates -/

variable (parameter : Value)

mutual

theorem relaxes_apply (node : Node) :
    Relaxes (node.apply .error parameter) (node.apply .render parameter) := by
  cases node with
  | text content => exact .refl _
  | mixed nodes => exact relaxes_applyEach nodes
  | whereClause body => exact (relaxes_apply body).writeClause .ofWhere
  | setClause body => exact (relaxes_apply body).writeClause .ofSet
  | trim trimming body => exact (relaxes_apply body).writeClause trimming
  | condition test source body => exact .guarded _ (relaxes_apply body).enclosed (.refl _)
  | choose branches otherwise =>
    exact relaxes_applyFirst branches (relaxes_applyOption otherwise)
  | loop header body =>
    -- The collection is evaluated in the draft that both policies have come to.
    exact fun draft => (relaxes_apply body).writeLoop header _ draft
  | bind name value => exact .refl _

theorem relaxes_applyEach (nodes : List Node) :
    Relaxes (Node.applyEach .error parameter nodes) (Node.applyEach .render parameter nodes) := by
  cases nodes with
  | nil => exact .refl _
  | cons node rest => exact (relaxes_apply node).followedBy (relaxes_applyEach rest)

theorem relaxes_applyFirst (branches : List (Expr × String × Node)) {ending otherEnding : Step}
    (relaxes : Relaxes ending otherEnding) :
    Relaxes (Node.applyFirst .error parameter branches ending)
      (Node.applyFirst .render parameter branches otherEnding) := by
  match branches with
  | [] => exact relaxes
  | (_, _, body) :: rest =>
    exact .guarded _ (relaxes_apply body).enclosed (relaxes_applyFirst rest relaxes)

theorem relaxes_applyOption (otherwise : Option Node) :
    Relaxes (Node.applyOption .error parameter otherwise)
      (Node.applyOption .render parameter otherwise) := by
  cases otherwise with
  | none => exact .refl _
  | some body => exact (relaxes_apply body).enclosed

end

/-- A template renders the same under both policies, unless it fails for an empty collection under
the strict one. -/
theorem render_eq_or_empty (node : Node) :
    node.render .error parameter = node.render .render parameter ∨
      ∃ source, (node.render .error parameter).2 = .error (.of (LoopFault.empty source).cause) := by
  unfold Node.render
  rcases relaxes_apply parameter node .empty with same | ⟨source, isEmpty⟩
  · rw [same]
    exact .inl rfl
  · have failed : node.apply .error parameter .empty = (_, some (.empty source)) :=
      Prod.ext rfl isEmpty
    exact .inr ⟨source, by rw [failed]⟩

end DynamicSql.Template

namespace DynamicSql

open Template (EmptyCollection LoopFault)

/-- The settings with a policy for empty collections. -/
def Settings.withPolicy (settings : Settings) (policy : EmptyCollection) : Settings :=
  { settings with emptyCollection := policy }

/-- The registry with a policy for empty collections. -/
def Registry.withPolicy (registry : Registry) (policy : EmptyCollection) : Registry :=
  { registry with settings := registry.settings.withPolicy policy }

namespace Execution

/-- A lenient outcome only adds successes to a strict one: whatever the strict one gives it gives as
well, and where it fails the strict one fails. -/
structure OnlyAdds (strict lenient : Except Error BoundStatement) : Prop where
  succeeds : ∀ bound, strict = .ok bound → lenient = .ok bound
  fails : ∀ error, lenient = .error error → ∃ other, strict = .error other

namespace OnlyAdds

variable {strict lenient : Except Error BoundStatement}

theorem of_eq (same : strict = lenient) : OnlyAdds strict lenient := by
  rw [same]
  exact ⟨fun _ => id, fun error failed => ⟨error, failed⟩⟩

theorem of_error {error : Error} (failed : strict = .error error) : OnlyAdds strict lenient := by
  refine ⟨fun bound done => ?_, fun _ _ => ⟨error, failed⟩⟩
  rw [failed] at done
  cases done

theorem mapError (onlyAdds : OnlyAdds strict lenient) (rename : Error → Error) :
    OnlyAdds (strict.mapError rename) (lenient.mapError rename) := by
  constructor
  · intro bound done
    rw [onlyAdds.succeeds bound (eq_ok_of_mapError_eq_ok done)]
    rfl
  · intro error failed
    obtain ⟨fault, isFault, -⟩ := exists_of_mapError_eq_error failed
    obtain ⟨other, strictFails⟩ := onlyAdds.fails fault isFault
    rw [strictFails]
    exact ⟨rename other, rfl⟩

end OnlyAdds

/-- A statement is bound the same under both policies, unless binding fails for an empty collection
under the strict one. -/
theorem bind_eq_or_empty (settings : Settings) (statement : Statement) (parameter : Value) :
    bind (settings.withPolicy .error) statement parameter =
        bind (settings.withPolicy .render) statement parameter ∨
      ∃ source, bind (settings.withPolicy .error) statement parameter =
        .error (.of (LoopFault.empty source).cause) := by
  unfold bind Settings.withPolicy
  simp only
  rcases Template.render_eq_or_empty parameter statement.root with same | ⟨source, isEmpty⟩
  · rw [same]
    exact .inl rfl
  · have failed : statement.root.render .error parameter =
        (_, .error (.of (LoopFault.empty source).cause)) := Prod.ext rfl isEmpty
    exact .inr ⟨source, by rw [failed]⟩

theorem onlyAdds_bind (settings : Settings) (statement : Statement) (parameter : Value) :
    OnlyAdds (bind (settings.withPolicy .error) statement parameter)
      (bind (settings.withPolicy .render) statement parameter) := by
  rcases bind_eq_or_empty settings statement parameter with same | ⟨source, isEmpty⟩
  · exact .of_eq same
  · exact .of_error isEmpty

theorem onlyAdds_bindIn (registry : Registry) (statement : Statement) (parameter : Value) :
    OnlyAdds ((registry.withPolicy .error).bind statement parameter)
      ((registry.withPolicy .render).bind statement parameter) :=
  (onlyAdds_bind registry.settings statement parameter).mapError _

/-- The lenient policy for empty collections only adds successes, for every statement, by itself or
in a registry, whatever the parameter and the other settings are. A statement is even bound the same
under both policies, unless it fails for an empty collection under the strict one. -/
theorem lenient_onlyAdds (settings : Settings) (registry : Registry) (parameter : Value) :
    (∀ statement : Statement,
      OnlyAdds (bind (settings.withPolicy .error) statement parameter)
        (bind (settings.withPolicy .render) statement parameter) ∧
      (bind (settings.withPolicy .error) statement parameter =
          bind (settings.withPolicy .render) statement parameter ∨
        ∃ source, bind (settings.withPolicy .error) statement parameter =
          .error (.of (LoopFault.empty source).cause))) ∧
    ∀ id : String,
      OnlyAdds ((registry.withPolicy .error).execute id parameter)
        ((registry.withPolicy .render).execute id parameter) ∧
      ∀ kind, OnlyAdds ((registry.withPolicy .error).executeKind kind id parameter)
        ((registry.withPolicy .render).executeKind kind id parameter) := by
  refine ⟨fun statement => ⟨onlyAdds_bind settings statement parameter,
    bind_eq_or_empty settings statement parameter⟩, fun id => ?_⟩
  have sameStatement : (registry.withPolicy .render).statement id =
      (registry.withPolicy .error).statement id := rfl
  unfold Registry.execute Registry.executeKind
  rw [sameStatement]
  cases (registry.withPolicy .error).statement id with
  | error error => exact ⟨.of_error rfl, fun _ => .of_error rfl⟩
  | ok statement =>
    refine ⟨onlyAdds_bindIn registry statement parameter, fun kind => ?_⟩
    simp only
    split
    · exact onlyAdds_bindIn registry statement parameter
    · exact .of_error rfl

/-- A loop in parentheses over an entry of the parameter. -/
def listed : Template.Node :=
  .loop ⟨.path ⟨[.field "list"]⟩, "list", some "item", none, "(", ",", ")"⟩
    (.text (Template.placeholderText "item"))

example :
    (bind (Settings.standard.withPolicy .error) (Template.statementOf listed)
      (.map [("list", .list [])])).isOk = false ∧
    (bind (Settings.standard.withPolicy .render) (Template.statementOf listed)
      (.map [("list", .list [])])).toOption.map BoundStatement.sql = some "()" := by
  decide +kernel

end Execution

end DynamicSql
