/-
This file proves that binding a statement in two phases is the same as evaluating it directly.
Rendering writes placeholders, some of them renamed to generated bindings, and binding reads them
back from the finished text, after everything that clauses and loops have cut away and joined. The
result is what the direct evaluation gives, which looks each placeholder up where it is written and
never reads text again, as long as braces come into the text by placeholders only and no path
begins with a reserved name.
-/

import DynamicSql.Proofs.Outcome
import DynamicSql.Proofs.Template.Marking
import DynamicSql.Proofs.Template.Reading
import DynamicSql.Proofs.Template.Simulation

namespace DynamicSql.Execution

open Template (Draft Node Sign Stands Spells placeholderText statementOf)

/-! ### The two phases -/

/-- Rendering ends in the fault that the direct evaluation ends in, or in a text that spells its
signs. -/
theorem render_cases {node : Node} (isRead : node.IsRead) (plain : node.IsPlain)
    (avoids : node.Avoids Template.Reserved) (policy : Template.EmptyCollection)
    (parameter : Value) :
    (∃ draft fault, node.render policy parameter = (draft, .error (.of fault.cause)) ∧
      Template.Direct.render node policy parameter = .error fault) ∨
    ∃ draft signs, node.render policy parameter = (draft, .ok (String.ofList draft.text)) ∧
      Template.Direct.render node policy parameter = .ok signs ∧
        Spells (Stands parameter draft) signs draft.text := by
  have agrees := Template.simulates_apply policy node
    (Template.meets_followed isRead plain avoids) _ _
      (Template.follows_empty parameter)
  unfold Node.render Template.Direct.render
  generalize node.apply policy parameter .empty = outcome at agrees ⊢
  generalize Template.Direct.apply policy parameter node ⟨[], []⟩ = reference at agrees ⊢
  cases agrees with
  | @failed draft fault => exact Or.inl ⟨draft, fault, rfl, rfl⟩
  | @done draft sheet follows grown behind =>
    exact Or.inr ⟨draft, sheet.signs, rfl, rfl, follows.text⟩

/-- The values of the paths read from a text are what the holes hold. -/
theorem map_resolveBound {parameter : Value} {draft : Draft} {signs : List (Sign Value)}
    {parts : List Template.TextPart}
    (readsAs : Template.ReadsAs (Stands parameter draft) signs parts) :
    (placeholderPaths parts).map (fun path => (draft.resolveBound parameter path).getD .null) =
      Template.Direct.arguments signs := by
  have paths := readsAs.paths
  generalize placeholderPaths parts = found at paths ⊢
  generalize Template.Direct.arguments signs = contents at paths ⊢
  induction paths with
  | nil => rfl
  | cons first _ inductionHypothesis =>
    obtain ⟨inside, names, path, namesPath, _, value⟩ := first
    obtain rfl := Option.some.inj (names.symm.trans namesPath)
    rw [List.map_cons, value, inductionHypothesis]

theorem bind_eq (settings : Settings) {statement : Statement} (isRead : statement.root.IsRead)
    (plain : statement.root.IsPlain) (avoids : statement.root.Avoids Template.Reserved)
    (parameter : Value) :
    bind settings statement parameter = Template.Direct.bind settings statement parameter := by
  unfold bind Template.Direct.bind
  rcases render_cases isRead plain avoids settings.emptyCollection parameter with
    ⟨draft, fault, rendered, direct⟩ | ⟨draft, signs, rendered, direct, spells⟩
  · rw [rendered, direct]
  · obtain ⟨parts, read, readsAs⟩ := spells.read fun _ _ ⟨path, names, _⟩ => ⟨path, names⟩
    rw [rendered, direct]
    simp only [bindText, String.toList_ofList, read, readsAs.marked, map_resolveBound readsAs,
      Template.Direct.tidy_markedText, Template.Direct.arguments_tidy]

/-! ### Markers and arguments -/

/-- The bound statement has its markers at the holes of some signs, the marker of each hole with
the position of what it holds among the arguments. -/
def MarksArguments (dialect : Dialect) (bound : BoundStatement) : Prop :=
  ∃ signs : List (Sign Value),
    bound.sql.toList = Template.Direct.markedText dialect 1 signs ∧
    bound.arguments = Template.Direct.arguments signs ∧
    ∀ before value after, signs = before ++ .hole value :: after →
      ∃ position, position = (Template.Direct.arguments before).length ∧
        bound.arguments[position]? = some value ∧
        bound.sql.toList = Template.Direct.markedText dialect 1 before ++
          dialect.marker (position + 1) ++ Template.Direct.markedText dialect (position + 2) after

theorem marksArguments_direct {settings : Settings} {statement : Statement} {parameter : Value}
    {bound : BoundStatement}
    (isBound : Template.Direct.bind settings statement parameter = .ok bound) :
    MarksArguments settings.dialect bound := by
  unfold Template.Direct.bind at isBound
  split at isBound
  · cases isBound
  · next signs _ =>
    obtain rfl := Except.ok.inj isBound
    refine ⟨Sign.tidy settings.shrinkBlanks signs, String.toList_ofList, rfl, ?_⟩
    intro before value after split
    refine ⟨_, rfl, ?_, ?_⟩
    · simp only [split, Template.Direct.arguments_append, Template.Direct.arguments]
      simp
    · simp only [split, String.toList_ofList, Template.Direct.markedText_append,
        Template.Direct.markedText]
      rw [List.append_assoc, Nat.add_comm 1, Nat.add_assoc]

/-- Binding in two phases is binding directly, and the markers stand for the arguments. -/
theorem bind_eq_direct (settings : Settings) (statement : Statement) (parameter : Value)
    (isRead : statement.root.IsRead) (plain : statement.root.IsPlain)
    (avoids : statement.root.Avoids Template.Reserved) :
    bind settings statement parameter = Template.Direct.bind settings statement parameter ∧
      ∀ bound, bind settings statement parameter = .ok bound →
        MarksArguments settings.dialect bound := by
  have same := bind_eq settings isRead plain avoids parameter
  refine ⟨same, fun bound isBound => ?_⟩
  rw [same] at isBound
  exact marksArguments_direct isBound

/-- A name that is bound, used by a loop for its entries, and used again behind the loop. -/
def shadowed : Node :=
  .mixed [.bind "x" (.value (.string "v")),
    .loop ⟨.path ⟨[.field "list"]⟩, "list", some "x", none, "(", ",", ")"⟩
      (.text (placeholderText "x")),
    .text (placeholderText "x")]

/-- In the loop the name stands for the entries, and behind it for the bound value again. -/
theorem bind_eq_direct_shadowed : ∃ bound,
    bind .standard (statementOf shadowed) (.list [.bool true, .null]) = .ok bound ∧
      Template.Direct.bind .standard (statementOf shadowed) (.list [.bool true, .null]) =
        .ok bound ∧
      bound.sql = "(?,?)?" ∧
      (bound.arguments.map fun argument => argument.toJson.render) = ["true", "null", "\"v\""] ∧
      MarksArguments .mysql bound := by
  have shown : (bind .standard (statementOf shadowed) (.list [.bool true, .null])).toOption.map
      (fun bound => (bound.sql, bound.arguments.map fun argument => argument.toJson.render)) =
        some ("(?,?)?", ["true", "null", "\"v\""]) := by
    decide +kernel
  obtain ⟨bound, isResult, isShown⟩ := Option.map_eq_some_iff.1 shown
  have isBound := toOption_eq_some_iff.1 isResult
  obtain ⟨isText, areArguments⟩ := Prod.mk.inj isShown
  have isRead : (placeholderText "x").IsRead := ⟨"#\x7bx\x7d".toList, by decide +kernel⟩
  have free : ∀ {name : String}, name = "x" ∨ name = "list" → ¬ Template.Reserved name := by
    rintro name (rfl | rfl) <;> exact Template.not_reserved (by decide)
  have avoids : shadowed.Avoids Template.Reserved := by
    refine ⟨?_, ⟨trivial, ?_, Template.avoids_placeholderText (free (Or.inl rfl))⟩,
      Template.avoids_placeholderText (free (Or.inl rfl)), trivial⟩
    · intro path member
      cases member
    · intro path member
      obtain rfl := List.mem_singleton.1 member
      exact free (Or.inr rfl)
  obtain ⟨same, marks⟩ := bind_eq_direct .standard (statementOf shadowed)
    (.list [.bool true, .null])
    ⟨trivial, ⟨trivial, trivial, isRead⟩, isRead, trivial⟩
    ⟨trivial, ⟨⟨by decide, by decide, by decide⟩, trivial, Template.isPlain_placeholderText "x"⟩,
      Template.isPlain_placeholderText "x", trivial⟩ avoids
  exact ⟨bound, isBound, same.symm.trans isBound, isText, areArguments, marks bound isBound⟩

/-- A name that is bound and used, and a placeholder for the binding that is generated for it. -/
def captured : Node :=
  .mixed [.bind "x" (.value (.string "v")), .text (placeholderText "x"),
    .text (placeholderText "__bind_x_0")]

/-- The last argument is null. -/
def endsInNull : Except Error BoundStatement → Bool
  | .ok bound => (bound.arguments.getLast?.map Value.isNull).getD false
  | .error _ => false

/-- Avoiding the names that are reserved for loops is not enough: a placeholder can still lead to
the binding that is generated for a bound name. -/
theorem bind_ne_direct_captured :
    ¬ ∀ (settings : Settings) (statement : Statement) (parameter : Value),
      statement.root.IsRead → statement.root.IsPlain →
      statement.root.Avoids (fun name => "__frch".toList <+: name.toList) →
      bind settings statement parameter = Template.Direct.bind settings statement parameter := by
  intro same
  have isRead : (placeholderText "x").IsRead ∧ (placeholderText "__bind_x_0").IsRead :=
    ⟨⟨"#\x7bx\x7d".toList, by decide +kernel⟩,
      ⟨"#\x7b__bind_x_0\x7d".toList, by decide +kernel⟩⟩
  have avoids : (placeholderText "x").Avoids (fun name => "__frch".toList <+: name.toList) ∧
      (placeholderText "__bind_x_0").Avoids fun name => "__frch".toList <+: name.toList :=
    ⟨Template.avoids_placeholderText (show ¬ "__frch".toList <+: "x".toList by decide),
      Template.avoids_placeholderText (show ¬ "__frch".toList <+: "__bind_x_0".toList by decide)⟩
  have equal := same .standard (statementOf captured) (.map [])
    ⟨trivial, isRead.1, isRead.2, trivial⟩
    ⟨trivial, Template.isPlain_placeholderText _, Template.isPlain_placeholderText _, trivial⟩
    ⟨fun _ member => (nomatch member), avoids.1, avoids.2, trivial⟩
  have bound : endsInNull (bind .standard (statementOf captured) (.map [])) = false := by
    decide +kernel
  have direct : endsInNull (Template.Direct.bind .standard (statementOf captured) (.map [])) =
      true := by
    decide +kernel
  rw [equal, direct] at bound
  cases bound

end DynamicSql.Execution
