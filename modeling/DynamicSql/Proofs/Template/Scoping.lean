/-
This file proves that rendering keeps names and generated bindings in order, whatever it ends in.
Every step is framed: it leaves the names that were in scope before it, below those it may have
introduced itself, and never changes or loses a generated binding. All templates but bindings and
sequences enclose their names, so that exactly the names from before are in scope again when they
end, also when they end in a fault. Generated names are counted, and as many bindings are there as
have been counted; so the next name is new, each name noted at a scope leads to the value of the
scope, and no two scopes have the same one.
-/

import DynamicSql.Proofs.Template.Bindings
import DynamicSql.Template.Rendering

namespace DynamicSql.Template

namespace Draft

/-! ### Drafts in order -/

/-- The generated names noted at scopes. -/
def notes (scopes : List Scope) : List String :=
  scopes.filterMap Scope.generated

/-- A draft whose generated names are counted and noted at one scope each. -/
structure Orderly (draft : Draft) : Prop where
  sound : draft.Sound
  counted : draft.bindings.length = draft.nextBinding
  distinct : (Fields.names draft.bindings).Nodup
  unshared : (notes draft.scopes).Nodup

theorem orderly_empty : empty.Orderly where
  sound := sound_empty
  counted := rfl
  distinct := List.nodup_nil
  unshared := List.nodup_nil

variable {draft later last : Draft}

theorem Orderly.push (orderly : draft.Orderly) (name : String) (value : Value) (origin : Origin) :
    (draft.push name value origin).Orderly :=
  ⟨orderly.sound.push name value origin, orderly.counted, orderly.distinct, orderly.unshared⟩

theorem Orderly.keepScopes (orderly : draft.Orderly) (count : Nat) :
    (draft.keepScopes count).Orderly :=
  ⟨orderly.sound.keepScopes count, orderly.counted, orderly.distinct,
    orderly.unshared.sublist ((List.drop_sublist _ _).filterMap _)⟩

theorem Orderly.withText (orderly : draft.Orderly) (text : List Char) :
    { draft with text }.Orderly :=
  ⟨orderly.sound.withText text, orderly.counted, orderly.distinct, orderly.unshared⟩

/-- A name that is noted is bound. -/
theorem Sound.mem_names_of_mem_notes (sound : draft.Sound) {generated : String}
    (member : generated ∈ notes draft.scopes) : generated ∈ Fields.names draft.bindings := by
  obtain ⟨scope, isScope, noted⟩ := List.mem_filterMap.1 member
  exact Fields.mem_names_of_get? (sound.noted scope isScope generated noted).1

theorem mem_notes_noteGenerated {name generated other : String} {scopes : List Scope}
    (member : other ∈ notes (noteGenerated name generated scopes)) :
    other = generated ∨ other ∈ notes scopes := by
  obtain ⟨scope, isScope, noted⟩ := List.mem_filterMap.1 member
  rcases mem_noteGenerated isScope with old | ⟨_, _, rfl⟩
  · exact Or.inr (List.mem_filterMap.2 ⟨scope, old, noted⟩)
  · exact Or.inl (Option.some.inj noted).symm

/-- Noting a new name leaves the names distinct. -/
theorem nodup_notes_noteGenerated (name : String) {generated : String} {scopes : List Scope}
    (distinct : (notes scopes).Nodup) (fresh : generated ∉ notes scopes) :
    (notes (noteGenerated name generated scopes)).Nodup := by
  induction scopes with
  | nil => exact List.nodup_nil
  | cons scope rest inductionHypothesis =>
    unfold notes at distinct fresh inductionHypothesis ⊢
    have among : rest.filterMap Scope.generated ⊆ (scope :: rest).filterMap Scope.generated :=
      ((List.sublist_cons_self scope rest).filterMap _).subset
    have distinctRest : (rest.filterMap Scope.generated).Nodup :=
      distinct.sublist ((List.sublist_cons_self scope rest).filterMap _)
    have freshRest : generated ∉ rest.filterMap Scope.generated := fun member =>
      fresh (among member)
    unfold noteGenerated
    split
    · exact List.nodup_cons.2 ⟨freshRest, distinctRest⟩
    -- The name goes to a scope further out, so a note of this one stays in front of it.
    · cases noted : scope.generated with
      | none =>
        rw [List.filterMap_cons_none noted]
        exact inductionHypothesis distinctRest freshRest
      | some other =>
        rw [List.filterMap_cons_some noted] at distinct fresh ⊢
        refine List.nodup_cons.2 ⟨fun member => ?_, inductionHypothesis distinctRest freshRest⟩
        rcases mem_notes_noteGenerated member with rfl | old
        · exact fresh List.mem_cons_self
        · exact (List.nodup_cons.1 distinct).1 old

theorem Orderly.bindingFor (orderly : draft.Orderly) {name generated : String}
    (bound : draft.bindingFor name = some (generated, later)) : later.Orderly := by
  have sound := (orderly.sound.bindingFor bound).sound
  unfold Draft.bindingFor at bound
  split at bound
  · cases bound
  · next scope found =>
    split at bound
    · obtain ⟨-, rfl⟩ := Prod.mk.inj (Option.some.inj bound)
      exact orderly
    · obtain ⟨rfl, rfl⟩ := Prod.mk.inj (Option.some.inj bound)
      have fresh := orderly.sound.fresh scope.origin scope.name
      refine ⟨sound, ?_, Fields.nodup_names_put orderly.distinct, ?_⟩
      · rw [Fields.length_put_of_not_mem fresh, orderly.counted]
      · exact nodup_notes_noteGenerated name orderly.unshared fun member =>
          fresh (orderly.sound.mem_names_of_mem_notes member)

/-! ### What stays -/

/-- What stays of a draft in a later one: the generated bindings, and the names in scope below those
that have been introduced since. If names are enclosed, there are none of these. -/
structure Frames (encloses : Bool) (draft later : Draft) : Prop where
  orderly : later.Orderly
  grown : draft.Extends later
  behind : draft.names <:+ later.names
  restored : encloses = true → later.names = draft.names

variable {encloses : Bool}

theorem Frames.of_names (orderly : later.Orderly) (grown : draft.Extends later)
    (names : later.names = draft.names) : draft.Frames encloses later :=
  ⟨orderly, grown, names ▸ List.suffix_rfl, fun _ => names⟩

theorem Frames.refl (orderly : draft.Orderly) : draft.Frames encloses draft :=
  .of_names orderly (.refl draft) rfl

theorem Frames.trans (frames : draft.Frames encloses later) (again : later.Frames encloses last) :
    draft.Frames encloses last :=
  ⟨again.orderly, frames.grown.trans again.grown, frames.behind.trans again.behind,
    fun enclosed => (again.restored enclosed).trans (frames.restored enclosed)⟩

theorem Frames.opened (frames : draft.Frames encloses later) : draft.Frames false later :=
  ⟨frames.orderly, frames.grown, frames.behind, nofun⟩

theorem Frames.push (orderly : draft.Orderly) (name : String) (value : Value) (origin : Origin) :
    draft.Frames false (draft.push name value origin) :=
  ⟨orderly.push name value origin, .of_eq rfl, List.suffix_cons _ _, nofun⟩

theorem Frames.pushNamed (orderly : draft.Orderly) (name : Option String) (value : Value)
    (origin : Origin) : draft.Frames false (draft.pushNamed name value origin) := by
  cases name with
  | none => exact .refl orderly
  | some name => exact .push orderly name value origin

theorem Frames.withText (frames : draft.Frames encloses later) (text : List Char) :
    draft.Frames encloses { later with text } :=
  ⟨frames.orderly.withText text, frames.grown.trans (.of_eq rfl), frames.behind, frames.restored⟩

/-- The names that have been introduced since are dropped again. -/
theorem Frames.keepScopes (frames : draft.Frames false later) :
    draft.Frames encloses (later.keepScopes draft.scopes.length) :=
  .of_names (frames.orderly.keepScopes _) (frames.grown.trans (.of_eq rfl))
    (names_keepScopes_length frames.behind)

theorem Frames.writePart (orderly : draft.Orderly) (part : TextPart) :
    draft.Frames encloses (Template.writePart draft part) := by
  cases part with
  | literal text => exact (Frames.refl orderly).withText _
  | placeholder path options inside =>
    show draft.Frames encloses (writePlaceholder path options inside draft)
    unfold writePlaceholder
    split
    · next generated later isBound =>
      have bound := orderly.sound.bindingFor isBound
      exact (Frames.of_names (orderly.bindingFor isBound) bound.grown bound.names).withText _
    · exact (Frames.refl orderly).withText _

theorem Frames.writeText (orderly : draft.Orderly) (content : StaticText) :
    draft.Frames encloses (Template.writeText content draft) := by
  obtain ⟨parts⟩ := content
  unfold Template.writeText
  induction parts generalizing draft with
  | nil => exact .refl orderly
  | cons part rest inductionHypothesis =>
    have first : draft.Frames encloses (Template.writePart draft part) := .writePart orderly part
    exact first.trans (inductionHypothesis first.orderly)

end Draft

/-! ### Framed steps -/

/-- A step of which a draft in order is framed, whatever the step ends in. -/
def Framed (encloses : Bool) (step : Step) : Prop :=
  ∀ ⦃draft : Draft⦄, draft.Orderly → draft.Frames encloses (step draft).1

namespace Framed

variable {encloses : Bool} {step second body : Step} {draft later : Draft}

theorem opened (framed : Framed encloses step) : Framed false step :=
  fun _ orderly => (framed orderly).opened

theorem pass : Framed encloses fun draft => (draft, none) :=
  fun _ orderly => .refl orderly

theorem followedBy (framed : Framed encloses step) (framedSecond : Framed encloses second) :
    Framed encloses (step.followedBy second) := by
  intro draft orderly
  have frames := framed orderly
  unfold Step.followedBy
  split
  · next later reached =>
    rw [reached] at frames
    exact frames.trans (framedSecond frames.orderly)
  · next later fault reached =>
    rw [reached] at frames
    exact frames

theorem enclosed (framed : Framed false step) : Framed encloses step.enclosed :=
  fun _ orderly => (framed orderly).keepScopes

theorem guarded (outcome : Draft → Bool) (framed : Framed encloses step)
    (framedSecond : Framed encloses second) :
    Framed encloses fun draft => if outcome draft then step draft else second draft := by
  intro draft orderly
  simp only
  split
  · exact framed orderly
  · exact framedSecond orderly

/-- What is written aside leaves nothing in scope. -/
theorem aside (framed : Framed false step) (orderly : draft.Orderly) :
    draft.Frames encloses (step.aside draft).1 := by
  have onNothing : draft.Frames false { draft with text := [] } :=
    (Draft.Frames.refl orderly).withText []
  exact ((onNothing.trans (framed onNothing.orderly)).keepScopes).withText _

theorem writeClause (trimming : Trimming) (framed : Framed false step) :
    Framed encloses (writeClause trimming step) := by
  intro draft orderly
  have frames : draft.Frames encloses (step.aside draft).1 := framed.aside orderly
  unfold Template.writeClause
  split
  · next written =>
    rw [written] at frames
    exact frames
  · next later text written =>
    rw [written] at frames
    split
    · exact frames.withText _
    · exact frames

theorem repetition (header : Loop) (framed : Framed false body) (entry : Value × Value) :
    Framed false (repetition header body entry) := by
  intro draft orderly
  have index : draft.Frames false (draft.pushNamed header.index entry.1 .loop) :=
    .pushNamed orderly header.index entry.1 .loop
  have item := Draft.Frames.pushNamed index.orderly header.item entry.2 .loop
  exact (index.trans item).trans (framed item.orderly)

theorem repeatBody (header : Loop) (framed : Framed false body) (entries : List (Value × Value))
    (orderly : draft.Orderly) :
    draft.Frames encloses (repeatBody header body entries draft).1 := by
  induction entries generalizing draft with
  | nil => exact .refl orderly
  | cons entry rest inductionHypothesis =>
    have first : draft.Frames encloses ((Template.repetition header body entry).aside draft).1 :=
      (framed.repetition header entry).aside orderly
    unfold Template.repeatBody
    split
    · next written =>
      rw [written] at first
      exact first
    · next middle text written =>
      rw [written] at first
      have others := first.trans (inductionHypothesis first.orderly)
      split
      · next writtenRest =>
        rw [writtenRest] at others
        exact others
      · next writtenRest =>
        rw [writtenRest] at others
        exact others

theorem writeLoop (policy : EmptyCollection) (header : Loop) (collection : Value)
    (framed : Framed false body) : Framed encloses (writeLoop policy header collection body) := by
  intro draft orderly
  unfold Template.writeLoop
  split
  · exact .refl orderly
  · next entries isCollection =>
    split
    · exact .refl orderly
    · have frames : draft.Frames encloses (Template.repeatBody header body entries draft).1 :=
        framed.repeatBody header entries orderly
      split
      · next written =>
        rw [written] at frames
        exact frames
      · next written =>
        rw [written] at frames
        exact frames.withText _

end Framed

/-! ### Templates -/

/-- A template that encloses the names introduced within it: any but a binding and a sequence. -/
def Node.encloses : Node → Bool
  | .mixed _ => false
  | .bind _ _ => false
  | _ => true

variable (policy : EmptyCollection) (parameter : Value)

mutual

/-- Templates are framed. What is rendered within a condition, a branch, a clause or a loop may
leave names; it is what surrounds it that drops them. -/
theorem framed_apply (node : Node) : Framed node.encloses (node.apply policy parameter) := by
  cases node with
  | text content => exact fun draft orderly => .writeText orderly content
  | mixed nodes => exact framed_applyEach nodes
  | whereClause body => exact (framed_apply body).opened.writeClause .ofWhere
  | setClause body => exact (framed_apply body).opened.writeClause .ofSet
  | trim trimming body => exact (framed_apply body).opened.writeClause trimming
  | condition test source body => exact .guarded _ (framed_apply body).opened.enclosed .pass
  | choose branches otherwise => exact framed_applyFirst branches (framed_applyOption otherwise)
  | loop header body =>
    exact fun _ orderly => (framed_apply body).opened.writeLoop policy header _ orderly
  | bind name value => exact fun draft orderly => .push orderly name _ .bind

theorem framed_applyEach (nodes : List Node) :
    Framed false (Node.applyEach policy parameter nodes) := by
  cases nodes with
  | nil => exact .pass
  | cons node rest => exact (framed_apply node).opened.followedBy (framed_applyEach rest)

theorem framed_applyFirst (branches : List (Expr × String × Node)) {ending : Step}
    (framed : Framed true ending) :
    Framed true (Node.applyFirst policy parameter branches ending) := by
  match branches with
  | [] => exact framed
  | (_, _, body) :: rest =>
    exact .guarded _ (framed_apply body).opened.enclosed (framed_applyFirst rest framed)

theorem framed_applyOption (otherwise : Option Node) :
    Framed true (Node.applyOption policy parameter otherwise) := by
  cases otherwise with
  | none => exact .pass
  | some body => exact (framed_apply body).opened.enclosed

end

/-! ### Rendering -/

namespace Draft

/-- The drafts that occur when templates are rendered with a parameter. Templates are rendered one
after the other and within each other, and around those within, names come and go and the text is
set aside. -/
inductive Occurs : Draft → Prop where
  | empty : Occurs empty
  | apply {draft : Draft} (occurs : Occurs draft) (node : Node) :
      Occurs (node.apply policy parameter draft).1
  | push {draft : Draft} (occurs : Occurs draft) (name : String) (value : Value)
      (origin : Origin) : Occurs (draft.push name value origin)
  | keepScopes {draft : Draft} (occurs : Occurs draft) (count : Nat) :
      Occurs (draft.keepScopes count)
  | withText {draft : Draft} (occurs : Occurs draft) (text : List Char) :
      Occurs { draft with text }

variable {policy : EmptyCollection} {parameter : Value} {draft : Draft}

theorem Occurs.orderly (occurs : Occurs policy parameter draft) : draft.Orderly := by
  induction occurs with
  | empty => exact orderly_empty
  | apply _ node orderly => exact (framed_apply policy parameter node orderly).orderly
  | push _ name value origin orderly => exact orderly.push name value origin
  | keepScopes _ count orderly => exact orderly.keepScopes count
  | withText _ text orderly => exact orderly.withText text

/-- Whatever rendering a template ends in, the names from before are in scope below those of the
template, which leaves none if it encloses them; the generated bindings from before are there, and
the number of them is counted, so that the next name is new; each scope for which a name has been
generated has one of its own, which leads to its value. -/
theorem Occurs.apply_framed (occurs : Occurs policy parameter draft) (node : Node) :
    let later := (node.apply policy parameter draft).1
    (draft.names <:+ later.names ∧ (node.encloses = true → later.names = draft.names)) ∧
      draft.Extends later ∧
      (later.bindings.length = later.nextBinding ∧ (Fields.names later.bindings).Nodup ∧
        ∀ origin name,
          generatedName origin name later.nextBinding ∉ Fields.names later.bindings) ∧
      (∀ scope ∈ later.scopes, ∀ generated, scope.generated = some generated →
        Fields.get? generated later.bindings = some scope.value) ∧
      (notes later.scopes).Nodup := by
  have frames := framed_apply policy parameter node occurs.orderly
  have orderly := frames.orderly
  refine ⟨⟨frames.behind, frames.restored⟩, frames.grown,
    ⟨orderly.counted, orderly.distinct, orderly.sound.fresh⟩, ?_, orderly.unshared⟩
  exact fun scope isScope generated noted =>
    (orderly.sound.noted scope isScope generated noted).1

/-- A name that is introduced and used. -/
def introduced (name : String) : Node :=
  .mixed [.bind name (.value (.bool true)), .text ⟨[.placeholder (.ofName name) none name.toList]⟩]

/-- A condition in which a name is introduced and used before a loop over nothing ends it. -/
def interrupted : Node :=
  .condition (.value (.bool true)) "true" (.mixed [introduced "second",
    .loop ⟨.value .null, "none", none, none, "", "", ""⟩ (.mixed [])])

/-- Behind a first name, the second one is dropped with the fault; its binding stays. -/
theorem Occurs.apply_framed_interrupted :
    let draft := ((introduced "first").apply .error .null Draft.empty).1
    let later := (interrupted.apply .error .null draft).1
    Occurs .error .null draft ∧ (interrupted.apply .error .null draft).2 = some (.missing "none") ∧
      draft.names.map Prod.fst = ["first"] ∧ later.names = draft.names ∧
      Fields.names draft.bindings = ["__bind_first_0"] ∧
      Fields.names later.bindings = ["__bind_first_0", "__bind_second_1"] ∧
      notes later.scopes = ["__bind_first_0"] := by
  have occurs : Occurs .error .null ((introduced "first").apply .error .null Draft.empty).1 :=
    .apply .empty (introduced "first")
  have kept := occurs.apply_framed interrupted
  exact ⟨occurs, by decide +kernel, by decide +kernel, kept.1.2 rfl, by decide +kernel,
    by decide +kernel, by decide +kernel⟩

end Draft

end DynamicSql.Template
