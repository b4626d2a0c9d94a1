/-
This file proves that a parameter reaches the text of a statement by decisions only. Two parameters
for which the rendering of a statement takes the same decisions give the same text, so the same
fault is found in it, or the statements bound to them are the same but for the values of their
arguments. Nothing is asked of the texts of the template.
-/

import DynamicSql.Execution
import DynamicSql.Proofs.Template.Lockstep
import DynamicSql.Proofs.Template.Requirement

namespace DynamicSql.Execution

open Template (Decision Draft Node TextFault placeholderText statementOf)

/-- The decisions that binding a statement to a parameter takes. -/
def decisions (settings : Settings) (statement : Statement) (parameter : Value) : List Decision :=
  statement.root.decisions settings.emptyCollection parameter .empty

/-- Two outcomes of binding that differ in the values of the arguments only: the same fault of the
text, or the same statement with as many arguments. -/
inductive DifferInValues : Except Error BoundStatement → Except Error BoundStatement → Prop
  | fault (fault : TextFault) :
      DifferInValues (.error (.of (faultCause fault))) (.error (.of (faultCause fault)))
  | bound (bound : BoundStatement) (arguments : List Value)
      (asMany : arguments.length = bound.arguments.length) :
      DifferInValues (.ok bound) (.ok { bound with arguments })

theorem differInValues_bindText (settings : Settings) (statement : Statement)
    (resolve otherResolve : Path → Option Value) (rendered : String) :
    DifferInValues (bindText settings statement resolve rendered)
      (bindText settings statement otherResolve rendered) := by
  unfold bindText
  cases Template.StaticText.read rendered.toList with
  | error fault => exact .fault fault
  | ok text =>
    refine .bound _ _ ?_
    rw [List.length_map, List.length_map]

/-- What a rendering that has given a text has done. -/
theorem exists_of_render {node : Node} {policy : Template.EmptyCollection} {parameter : Value}
    {draft : Draft} {text : String}
    (rendered : node.render policy parameter = (draft, .ok text)) :
    node.apply policy parameter .empty = (draft, none) ∧ text = String.ofList draft.text := by
  unfold Node.render at rendered
  split at rendered
  · next finished =>
    obtain ⟨rfl, same⟩ := Prod.mk.inj rendered
    exact ⟨finished, (Except.ok.inj same).symm⟩
  · cases rendered

/-- Two parameters for which a statement renders with the same decisions give the same text, and
bound statements that differ in the values of their arguments only. -/
theorem bind_of_decisions_eq (settings : Settings) (statement : Statement)
    (parameter other : Value) (draft otherDraft : Draft) (text otherText : String)
    (rendered : statement.root.render settings.emptyCollection parameter = (draft, .ok text))
    (otherRendered :
      statement.root.render settings.emptyCollection other = (otherDraft, .ok otherText))
    (same : decisions settings statement parameter = decisions settings statement other) :
    text = otherText ∧
      DifferInValues (bind settings statement parameter) (bind settings statement other) := by
  obtain ⟨finished, rfl⟩ := exists_of_render rendered
  obtain ⟨otherFinished, rfl⟩ := exists_of_render otherRendered
  have lockstep := Template.lockstep_apply settings.emptyCollection parameter other statement.root
  obtain ⟨alike, -⟩ := lockstep (.refl .empty) finished otherFinished (congrArg (· ++ []) same)
  refine ⟨congrArg String.ofList alike.text, ?_⟩
  unfold bind
  rw [rendered, otherRendered, alike.text]
  exact differInValues_bindText settings statement _ _ _

/-- A condition on one entry of the parameter, and a loop over another. -/
def filtered : Node :=
  .mixed [.condition (.path ⟨[.field "name"]⟩) "name" (.text (placeholderText "name")),
    .loop ⟨.path ⟨[.field "list"]⟩, "list", some "item", some "key", "(", ",", ")"⟩
      (.text (placeholderText "item"))]

/-- A parameter with a name and a list. -/
def named (name : String) (list : Value) : Value :=
  .map [("name", .string name), ("list", list)]

theorem bind_of_decisions_eq_filtered :
    decisions .standard (statementOf filtered) (named "v" (.list [.null, .bool true])) =
        [.test true, .entries 2] ∧
      DifferInValues
        (bind .standard (statementOf filtered) (named "v" (.list [.null, .bool true])))
        (bind .standard (statementOf filtered)
          (named "w" (.map [("a", .null), ("b", .string "; drop table")]))) := by
  have decided : decisions .standard (statementOf filtered)
      (named "v" (.list [.null, .bool true])) = [.test true, .entries 2] := by
    decide +kernel
  have otherDecided : decisions .standard (statementOf filtered)
      (named "w" (.map [("a", .null), ("b", .string "; drop table")])) =
        [.test true, .entries 2] := by
    decide +kernel
  refine ⟨decided, (bind_of_decisions_eq .standard (statementOf filtered) _ _ _ _
    "#\x7bname\x7d (#\x7b__frch_item_0\x7d,#\x7b__frch_item_1\x7d)"
    "#\x7bname\x7d (#\x7b__frch_item_0\x7d,#\x7b__frch_item_1\x7d)"
    (Prod.ext rfl ?_) (Prod.ext rfl ?_) (decided.trans otherDecided.symm)).2⟩
  · decide +kernel
  · decide +kernel

end DynamicSql.Execution
