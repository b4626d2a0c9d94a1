/-
This file says when a statement of a document that has been accepted can still fail because of its
placeholders. Accepting a document only looks at each text by itself. The rendered text also has
what stands around and between its texts, and what is taken away from their ends, so a statement
can be accepted and fail when it is executed: exactly if placeholders are not well placed in the
rendered text. Of a plain template they always are.
-/

import DynamicSql.Proofs.Document.Compilation
import DynamicSql.Proofs.Template.Placement

namespace DynamicSql.Execution

open Template (Draft LoopFault Node StaticText TextFault WellPlaced)

/-- Binding succeeds or ends in the fault of a loop. -/
def EndsWell (outcome : Except Error BoundStatement) : Prop :=
  (∃ bound, outcome = .ok bound) ∨ ∃ fault : LoopFault, outcome = .error (.of fault.cause)

/-- In every text that the statement comes to for the parameter, placeholders are well placed. -/
def RendersWellPlaced (settings : Settings) (statement : Statement) (parameter : Value) : Prop :=
  ∀ draft text, statement.root.render settings.emptyCollection parameter = (draft, .ok text) →
    WellPlaced text.toList

theorem not_endsWell_faultCause (fault : TextFault) :
    ¬ EndsWell (.error (.of (faultCause fault))) := by
  rintro (⟨bound, same⟩ | ⟨other, same⟩)
  · cases same
  · have causes := congrArg Error.outermost (Except.error.inj same)
    cases fault <;> cases other <;> cases causes

/-- A rendered text can be bound exactly if placeholders are well placed in it. -/
theorem endsWell_bindText_iff (settings : Settings) (statement : Statement)
    (resolve : Path → Option Value) (rendered : String) :
    EndsWell (bindText settings statement resolve rendered) ↔ WellPlaced rendered.toList := by
  rw [← Template.exists_read_iff]
  unfold bindText
  cases StaticText.read rendered.toList with
  | error fault =>
    refine iff_of_false (not_endsWell_faultCause fault) ?_
    rintro ⟨content, read⟩
    cases read
  | ok content => exact iff_of_true (Or.inl ⟨_, rfl⟩) ⟨content, rfl⟩

theorem endsWell_bind_iff (settings : Settings) (statement : Statement) (parameter : Value) :
    EndsWell (bind settings statement parameter) ↔
      RendersWellPlaced settings statement parameter := by
  unfold bind RendersWellPlaced
  cases rendered : statement.root.render settings.emptyCollection parameter with
  | mk draft outcome =>
    cases outcome with
    | error error =>
      refine iff_of_true (Or.inr ?_) fun later text same => (by cases same)
      unfold Node.render at rendered
      split at rendered
      · cases rendered
      · next later fault _ =>
        obtain ⟨-, same⟩ := Prod.mk.inj rendered
        obtain rfl := Except.error.inj same
        exact ⟨fault, rfl⟩
    | ok text =>
      refine (endsWell_bindText_iff settings statement _ text).trans ?_
      constructor
      · rintro wellPlaced later other same
        obtain ⟨-, same⟩ := Prod.mk.inj same
        obtain rfl := Except.ok.inj same
        exact wellPlaced
      · intro wellPlaced
        exact wellPlaced draft text rfl

theorem rendersWellPlaced {statement : Statement} (isRead : statement.root.IsRead)
    (plain : statement.root.IsPlain) (settings : Settings) (parameter : Value) :
    RendersWellPlaced settings statement parameter := by
  intro draft text rendered
  have kept := Template.keeps_apply settings.emptyCollection parameter statement.root
    (isRead.readPlain plain) .empty .empty
  unfold Node.render at rendered
  split at rendered
  · next later finished =>
    obtain ⟨rfl, same⟩ := Prod.mk.inj rendered
    obtain rfl := Except.ok.inj same
    rw [finished] at kept
    rw [String.toList_ofList]
    exact kept.text.wellPlaced
  · cases rendered

/-- A statement of an accepted document succeeds or ends in the fault of a loop exactly if
placeholders are well placed in its rendered text, and always if its template is plain. -/
theorem endsWell_iff_of_read (source : String) (file : Option String)
    (outside : Document.FragmentSource) (mapper : Mapper)
    (accepted : Document.read source file outside = .ok mapper) (statement : Statement)
    (member : statement ∈ mapper.statements) (settings : Settings) (parameter : Value) :
    (EndsWell (bind settings statement parameter) ↔
        RendersWellPlaced settings statement parameter) ∧
      (statement.root.IsPlain → EndsWell (bind settings statement parameter)) := by
  have isIff := endsWell_bind_iff settings statement parameter
  refine ⟨isIff, fun plain => isIff.2 ?_⟩
  exact rendersWellPlaced (Document.isRead_of_read accepted member) plain settings parameter

/-- A document with a loop that writes parentheses and commas around placeholders. -/
def listDocument : String :=
  "<mapper namespace='space'><select id='list'>in <foreach collection='list' item='item' " ++
    "open='(' separator=',' close=')'>#\x7bitem\x7d</foreach></select></mapper>"

theorem endsWell_iff_of_read_listDocument :
    ∃ mapper statement bound, Document.read listDocument none .none = .ok mapper ∧
      statement ∈ mapper.statements ∧
      bind .standard statement (.list [.bool true]) = .ok bound ∧ bound.sql = "in (?)" ∧
      RendersWellPlaced .standard statement (.list [.bool true]) := by
  have one : ((Document.read listDocument none .none).toOption.map fun mapper =>
      mapper.statements.map fun statement =>
        (bind .standard statement (.list [.bool true])).toOption.map BoundStatement.sql) =
          some [some "in (?)"] := by
    decide +kernel
  obtain ⟨mapper, isMapper, isOne⟩ := Option.map_eq_some_iff.1 one
  have accepted := toOption_eq_some_iff.1 isMapper
  obtain ⟨statement, isOnly, isShown⟩ := List.map_eq_singleton_iff.1 isOne
  obtain ⟨bound, isResult, isText⟩ := Option.map_eq_some_iff.1 isShown
  have isBound := toOption_eq_some_iff.1 isResult
  have member : statement ∈ mapper.statements := isOnly ▸ List.mem_singleton_self statement
  have isIff := (endsWell_iff_of_read listDocument none .none mapper accepted statement member
    .standard (.list [.bool true])).1
  exact ⟨mapper, statement, bound, accepted, member, isBound, isText,
    isIff.1 (.inl ⟨bound, isBound⟩)⟩

/-- A document with a raw substitution in the prefix of a clause. -/
def rawDocument : String :=
  "<mapper namespace='space'><select id='raw'><trim prefix='$\x7bcolumn\x7d'>a</trim>" ++
    "</select></mapper>"

/-- The outcome is an error for a feature that is not supported. -/
def isUnsupported : Except Error BoundStatement → Bool
  | .error error => error.any Cause.isUnsupportedFeature
  | .ok _ => false

theorem not_endsWell_of_isUnsupported {outcome : Except Error BoundStatement}
    (unsupported : isUnsupported outcome = true) : ¬ EndsWell outcome := by
  rintro (⟨bound, rfl⟩ | ⟨fault, rfl⟩)
  · cases unsupported
  · cases fault <;> cases unsupported

/-- Accepting a document does not keep its statements from failing because of a placeholder: a raw
substitution around a clause is found only when the statement is executed. -/
theorem not_endsWell_of_read :
    ¬ ∀ (source : String) (file : Option String) (outside : Document.FragmentSource)
      (mapper : Mapper), Document.read source file outside = .ok mapper →
      ∀ statement ∈ mapper.statements, ∀ (settings : Settings) (parameter : Value),
        EndsWell (bind settings statement parameter) := by
  intro endsWell
  have late : ((Document.read rawDocument none .none).toOption.map fun mapper =>
      mapper.statements.any fun statement => isUnsupported (bind .standard statement .null)) =
        some true := by
    decide +kernel
  obtain ⟨mapper, isMapper, isLate⟩ := Option.map_eq_some_iff.1 late
  have accepted := toOption_eq_some_iff.1 isMapper
  obtain ⟨statement, member, unsupported⟩ := List.any_eq_true.1 isLate
  exact not_endsWell_of_isUnsupported unsupported
    (endsWell rawDocument none .none mapper accepted statement member .standard .null)

end DynamicSql.Execution
