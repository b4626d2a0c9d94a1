/-
This file proves that a name bound to the value of an expression stands for the expression.
Replacing paths by expressions and evaluating is the same as evaluating over a source that has the
values of these expressions at the paths: this is one induction over the expression. A draft with
one more name in scope is such a source, as long as no path goes on behind the name. Conditions
follow, since an expression holds exactly if its value counts as true.
-/

import DynamicSql.Proofs.Expr.Paths
import DynamicSql.Template.Rendering

namespace DynamicSql

namespace Expr

/-! ### Replacing paths -/

mutual

/-- The expression with an expression in the place of every path. -/
def substitute (replacement : Path → Expr) : Expr → Expr
  | .value literal => .value literal
  | .path target => replacement target
  | .size operand => .size (substitute replacement operand)
  | .concat operands => .concat (substituteEach replacement operands)
  | .not operand => .not (substitute replacement operand)
  | .and operands => .and (substituteEach replacement operands)
  | .or operands => .or (substituteEach replacement operands)
  | .compare comparison left right =>
    .compare comparison (substitute replacement left) (substitute replacement right)

/-- The operands, each with an expression in the place of every path. -/
def substituteEach (replacement : Path → Expr) : List Expr → List Expr
  | [] => []
  | operand :: rest => substitute replacement operand :: substituteEach replacement rest

end

/-- The replacement of a name that stands by itself; all other paths are kept. -/
def replacing (name : String) (replacement : Expr) (path : Path) : Expr :=
  if path = .ofName name then replacement else .path path

variable {inner outer : Path → Option Value} {replacement : Path → Expr}

mutual

/-- Replacing paths makes no difference over a source that has the values of the replacements at the
paths. -/
theorem eval_substitute (expr : Expr)
    (agree : ∀ path ∈ expr.paths,
      (inner path).getD .null = (replacement path).eval outer) :
    (expr.substitute replacement).eval outer = expr.eval inner := by
  cases expr with
  | value literal => rfl
  | path target => exact (agree target (by simp [paths])).symm
  | size operand =>
    have same := eval_substitute operand (by simpa only [paths] using agree)
    rw [substitute, eval, eval, same]
  | concat operands =>
    have same := evalEach_substituteEach operands (by simpa only [paths] using agree)
    rw [substitute, eval, eval, same]
  | not operand =>
    have same := eval_substitute operand (by simpa only [paths] using agree)
    rw [substitute, eval, eval, evalBool_eq_isTruthy, evalBool_eq_isTruthy, same]
  | and operands =>
    have same := evalEach_substituteEach operands (by simpa only [paths] using agree)
    rw [substitute, eval, eval, evalAll_eq_all, evalAll_eq_all, same]
  | or operands =>
    have same := evalEach_substituteEach operands (by simpa only [paths] using agree)
    rw [substitute, eval, eval, evalAny_eq_any, evalAny_eq_any, same]
  | compare comparison left right =>
    simp only [paths, List.forall_mem_append] at agree
    rw [substitute, eval, eval, eval_substitute left agree.1, eval_substitute right agree.2]

theorem evalEach_substituteEach (operands : List Expr)
    (agree : ∀ path ∈ pathsOfEach operands,
      (inner path).getD .null = (replacement path).eval outer) :
    evalEach outer (substituteEach replacement operands) = evalEach inner operands := by
  cases operands with
  | nil => rfl
  | cons operand rest =>
    simp only [pathsOfEach, List.forall_mem_append] at agree
    rw [substituteEach, evalEach, evalEach, eval_substitute operand agree.1,
      evalEach_substituteEach rest agree.2]

end

end Expr

/-! ### Names in scope -/

namespace Template

variable (draft : Draft) (parameter : Value)

/-- The innermost name in scope is found first, and what a path goes on with is looked up in its
value. -/
theorem Draft.resolve_push (name : String) (value : Value) (origin : Origin) (path : Path) :
    (draft.push name value origin).resolve parameter path =
      if path.root = name then value.entry? path.tail else draft.resolve parameter path := by
  rw [Draft.resolve, Draft.push, List.find?_cons]
  by_cases same : path.root = name
  · simp [same]
  · have different : (name == path.root) = false := beq_false_of_ne (Ne.symm same)
    rw [if_neg same, different]
    rfl

/-- A name bound to the value of an expression has that value, and no other path is touched. -/
theorem Draft.getD_resolve_push (name : String) (expr : Expr) (origin : Origin) {path : Path}
    (bare : path.root = name → path = .ofName name) :
    ((draft.push name (expr.eval (draft.resolve parameter)) origin).resolve parameter path).getD
        .null =
      (Expr.replacing name expr path).eval (draft.resolve parameter) := by
  rw [Draft.resolve_push, Expr.replacing]
  by_cases same : path.root = name
  · obtain rfl := bare same
    rw [if_pos same, if_pos rfl]
    rfl
  · have different : path ≠ .ofName name := by
      rintro rfl
      exact same rfl
    rw [if_neg same, if_neg different, Expr.eval]

/-- A condition on a name bound to the value of an expression decides as the expression does. -/
theorem decides_push (name : String) (expr : Expr) (origin : Origin) :
    Expr.evalBool ((draft.push name (expr.eval (draft.resolve parameter)) origin).resolve parameter)
        (.path (.ofName name)) =
      expr.evalBool (draft.resolve parameter) := by
  rw [Expr.evalBool_eq_isTruthy, Expr.evalBool_eq_isTruthy, Expr.eval,
    draft.getD_resolve_push parameter name expr origin fun _ => rfl, Expr.replacing, if_pos rfl]

theorem Step.followedBy_pass (step : Step) :
    step.followedBy (fun draft => (draft, none)) = step := by
  funext draft
  rw [Step.followedBy]
  rcases step draft with ⟨after, _ | fault⟩ <;> rfl

/-- A name bound to the value of an expression stands for the expression: over the draft with the
name in scope, an expression in which no path goes on behind the name has the value, and holds as a
condition, as over the draft before with the name replaced. So a condition on the name that follows
a binding decides as the expression does, since an expression holds exactly if its value counts as
true. -/
theorem eval_push_eq_eval_substitute (name : String) (expr : Expr) {target : Expr}
    (bare : ∀ path ∈ target.paths, path.root = name → path = .ofName name) :
    let outer := draft.resolve parameter
    let inner (origin : Origin) := (draft.push name (expr.eval outer) origin).resolve parameter
    (∀ origin, target.eval (inner origin) =
        (target.substitute (Expr.replacing name expr)).eval outer) ∧
      (∀ origin, target.evalBool (inner origin) =
        (target.substitute (Expr.replacing name expr)).evalBool outer) ∧
      (∀ policy source body,
        (Node.mixed [.bind name expr,
            .condition (.path (.ofName name)) source body]).apply policy parameter draft =
          let bound := draft.push name (expr.eval outer) .bind
          if expr.evalBool outer then Step.enclosed (body.apply policy parameter) bound
          else (bound, none)) ∧
      ∀ resolve, expr.evalBool resolve = (expr.eval resolve).isTruthy := by
  intro outer inner
  have same (origin : Origin) : target.eval (inner origin) =
      (target.substitute (Expr.replacing name expr)).eval outer :=
    (Expr.eval_substitute target fun path member =>
      draft.getD_resolve_push parameter name expr origin (bare path member)).symm
  refine ⟨same, fun origin => ?_, fun policy source body => ?_,
    fun resolve => Expr.evalBool_eq_isTruthy resolve expr⟩
  · rw [Expr.evalBool_eq_isTruthy, same, ← Expr.evalBool_eq_isTruthy]
  · rw [Node.apply, Node.applyEach, Node.applyEach, Node.applyEach, Step.followedBy_pass]
    have decided := decides_push draft parameter name expr .bind
    simp only [Step.followedBy, Node.apply, decided, outer]

/-- A name bound again, to an expression that has the old value of the name in it. -/
theorem eval_push_eq_eval_substitute_rebound :
    let draft := Draft.empty.push "name" (.string "Jo") .loop
    let pattern : Expr := .concat [.value (.string "%"), .path (.ofName "name")]
    let test (operand : Expr) : Expr :=
      .and [.compare .equal operand (.value (.string "%Jo")),
        .compare .equal (.size operand) (.value (.int64 3))]
    let target := test (.path (.ofName "name"))
    let inner := (draft.push "name" (pattern.eval (draft.resolve .null)) .bind).resolve .null
    (∀ path ∈ target.paths, path.root = "name" → path = .ofName "name") ∧
      target.evalBool inner = (test pattern).evalBool (draft.resolve .null) ∧
        target.evalBool inner = true := by
  intro draft pattern test target inner
  have bare : ∀ path ∈ target.paths, path.root = "name" → path = .ofName "name" := by
    intro path member _
    have isName : path ∈ [.ofName "name", .ofName "name"] := member
    simpa using isName
  obtain ⟨-, same, -⟩ := eval_push_eq_eval_substitute draft .null "name" pattern bare
  exact ⟨bare, same .bind, by decide +kernel⟩

end Template

end DynamicSql
