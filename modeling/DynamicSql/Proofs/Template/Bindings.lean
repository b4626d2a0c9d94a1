/-
This file proves how generated bindings are kept. Generated names are numbered, so no two of them
are the same (`generatedName_injective`), and they begin with a reserved start. A draft is sound if
its bindings have such names with numbers below the next one, and if the names noted at its scopes
lead to the values of the scopes. Scopes come and go, but bindings only grow (`Draft.Extends`): what
a generated name leads to never changes.
-/

import DynamicSql.Proofs.Path.Writing
import DynamicSql.Template.Draft

namespace DynamicSql

namespace Template

/-! ### Generated names -/

/-- The start of the names generated for an origin. -/
def Origin.start (origin : Origin) : List Char :=
  ("__" ++ origin.mark ++ "_").toList

/-- A name that begins like the names generated for an origin. -/
def Origin.Reserves (origin : Origin) (name : String) : Prop :=
  origin.start <+: name.toList

/-- A name that begins like a generated one. -/
def Reserved (name : String) : Prop :=
  ∃ origin : Origin, origin.Reserves name

@[simp]
theorem toList_generatedName (origin : Origin) (name : String) (number : Nat) :
    (generatedName origin name number).toList =
      origin.start ++ name.toList ++ '_' :: Number.decimal number := by
  simp [generatedName, Origin.start]

theorem reserved_generatedName (origin : Origin) (name : String) (number : Nat) :
    Reserved (generatedName origin name number) := by
  refine ⟨origin, ?_⟩
  rw [Origin.Reserves, toList_generatedName, List.append_assoc]
  exact List.prefix_append _ _

theorem not_mem_decimal {character : Char} (noDigit : Number.isDigit character = false)
    (number : Nat) : character ∉ Number.decimal number := fun member => by
  have digit := List.all_eq_true.1 (Number.all_isDigit_decimal number) character member
  rw [noDigit] at digit
  cases digit

theorem not_reserved {name : String} (other : name.toList.head? ≠ some '_') : ¬ Reserved name := by
  rintro ⟨origin, rest, whole⟩
  cases origin <;> simp [← whole, Origin.start, Origin.mark] at other

/-- The number of a generated name stands behind its last underscore. -/
theorem generatedName_injective {origin other : Origin} {name root : String} {number count : Nat}
    (same : generatedName origin name number = generatedName other root count) :
    number = count := by
  have lists := congrArg (fun text => text.toList.reverse) same
  simp only [toList_generatedName, List.reverse_append, List.reverse_cons, List.append_assoc,
    List.cons_append] at lists
  have underscore : ∀ number, '_' ∉ (Number.decimal number).reverse := fun number member =>
    not_mem_decimal (by decide) number (List.mem_reverse.1 member)
  have cuts := congrArg (Text.cutFirst? '_') lists
  rw [Text.cutFirst?_append (underscore number), Text.cutFirst?_append (underscore count)] at cuts
  have digits : Number.decimal number = Number.decimal count := by
    simpa using congrArg Prod.fst (Option.some.inj cuts)
  rw [← Number.valueOf_decimal number, digits, Number.valueOf_decimal]

theorem isName_generatedName (origin : Origin) {name : String} (isName : Path.IsName name)
    (number : Nat) : Path.IsName (generatedName origin name number) := by
  have start : origin.start.all Text.isNameCharacter = true := by
    cases origin <;> decide
  refine ⟨by simp, fun character member => ?_⟩
  rw [toList_generatedName] at member
  simp only [List.mem_append, List.mem_cons] at member
  rcases member with (inStart | inName) | rfl | digit
  · exact List.all_eq_true.1 start character inStart
  · exact isName.2 character inName
  · decide
  · exact Text.isNameCharacter_of_isDigit
      (List.all_eq_true.1 (Number.all_isDigit_decimal number) character digit)

namespace Draft

/-! ### Sound drafts -/

/-- The name and the value of a scope. -/
def entryOf (scope : Scope) : String × Value :=
  (scope.name, scope.value)

/-- The names in scope with their values, the innermost first. -/
def names (draft : Draft) : Fields Value :=
  draft.scopes.map entryOf

/-- What is known of the generated names of a draft. -/
structure Sound (draft : Draft) : Prop where
  noted : ∀ scope ∈ draft.scopes, ∀ generated, scope.generated = some generated →
    Fields.get? generated draft.bindings = some scope.value ∧
      ∃ number, generated = generatedName scope.origin scope.name number
  numbered : ∀ name ∈ Fields.names draft.bindings, ∃ origin root number,
    number < draft.nextBinding ∧ name = generatedName origin root number

theorem sound_empty : empty.Sound where
  noted := by simp [empty]
  numbered := by simp [empty, Fields.names]

/-- The next name to be generated is new. -/
theorem Sound.fresh {draft : Draft} (sound : draft.Sound) (origin : Origin) (name : String) :
    generatedName origin name draft.nextBinding ∉ Fields.names draft.bindings := by
  intro member
  obtain ⟨other, root, number, below, same⟩ := sound.numbered _ member
  exact absurd below (by simp [generatedName_injective same])

theorem Sound.reserved {draft : Draft} (sound : draft.Sound) {name : String}
    (member : name ∈ Fields.names draft.bindings) : Reserved name := by
  obtain ⟨origin, root, number, _, rfl⟩ := sound.numbered name member
  exact reserved_generatedName origin root number

theorem Sound.of_scopes {draft later : Draft} (sound : draft.Sound)
    (bindings : later.bindings = draft.bindings) (next : later.nextBinding = draft.nextBinding)
    (scopes : ∀ scope ∈ later.scopes, scope ∈ draft.scopes ∨ scope.generated = none) :
    later.Sound where
  noted scope member generated noted := by
    rw [bindings]
    rcases scopes scope member with old | unnoted
    · exact sound.noted scope old generated noted
    · rw [unnoted] at noted
      cases noted
  numbered := by
    rw [bindings, next]
    exact sound.numbered

/-! ### Bindings only grow -/

/-- Every binding of the draft is a binding of the later one, with the same value. -/
def Extends (draft later : Draft) : Prop :=
  ∀ name value, Fields.get? name draft.bindings = some value →
    Fields.get? name later.bindings = some value

theorem Extends.of_eq {draft later : Draft} (bindings : later.bindings = draft.bindings) :
    draft.Extends later := by
  intro name value found
  rw [bindings]
  exact found

theorem Extends.refl (draft : Draft) : draft.Extends draft :=
  .of_eq rfl

theorem Extends.trans {draft later last : Draft} (first : draft.Extends later)
    (second : later.Extends last) : draft.Extends last :=
  fun name value found => second name value (first name value found)

/-! ### The binding for a name -/

theorem names_noteGenerated (name generated : String) (scopes : List Scope) :
    (noteGenerated name generated scopes).map entryOf = scopes.map entryOf := by
  induction scopes with
  | nil => rfl
  | cons scope rest inductionHypothesis =>
    unfold noteGenerated
    split
    · rfl
    · rw [List.map_cons, inductionHypothesis, List.map_cons]

theorem mem_noteGenerated {name generated : String} {scopes : List Scope} {scope : Scope}
    (member : scope ∈ noteGenerated name generated scopes) :
    scope ∈ scopes ∨ ∃ old, scopes.find? (fun scope => scope.name == name) = some old ∧
      scope = { old with generated := some generated } := by
  induction scopes with
  | nil => cases member
  | cons first rest inductionHypothesis =>
    unfold noteGenerated at member
    split at member
    · next same =>
      rcases List.mem_cons.1 member with rfl | later
      · exact Or.inr ⟨first, by simp [same], rfl⟩
      · exact Or.inl (List.mem_cons_of_mem _ later)
    · next different =>
      rcases List.mem_cons.1 member with rfl | later
      · exact Or.inl List.mem_cons_self
      · rcases inductionHypothesis later with old | ⟨old, found, rfl⟩
        · exact Or.inl (List.mem_cons_of_mem _ old)
        · exact Or.inr ⟨old, by simpa [different] using found, rfl⟩

/-- The innermost scope of a name gives the value of the name. -/
theorem get?_names (draft : Draft) (name : String) :
    Fields.get? name draft.names =
      (draft.scopes.find? fun scope => scope.name == name).map Scope.value := by
  unfold names
  induction draft.scopes with
  | nil => rfl
  | cons scope rest inductionHypothesis =>
    rw [List.map_cons, List.find?_cons]
    by_cases same : scope.name = name
    · simp [entryOf, Fields.get?, same]
    · have other : (scope.name == name) = false := by simpa using same
      simpa [entryOf, Fields.get?, same, other] using inductionHypothesis

/-- What `bindingFor` gives for a name in scope: the text and the names in scope stay, and the
generated name leads to the value of the innermost scope of the name. -/
structure Bound (draft : Draft) (name generated : String) (later : Draft) : Prop where
  sound : later.Sound
  grown : draft.Extends later
  text : later.text = draft.text
  names : later.names = draft.names
  isGenerated : ∃ origin number, generated = generatedName origin name number
  value : Fields.get? generated later.bindings = Fields.get? name draft.names
  inScope : (Fields.get? name draft.names).isSome

/-- A readable path stays readable with its root renamed to the generated name of the root. -/
theorem Bound.isReadable {draft later : Draft} {path : Path} {generated : String}
    (bound : draft.Bound path.root generated later) (readable : path.IsReadable) :
    (path.withRoot generated).IsReadable := by
  obtain ⟨origin, number, rfl⟩ := bound.isGenerated
  exact readable.withRoot (isName_generatedName origin (Path.isName_root readable) number)

theorem Sound.bindingFor {draft later : Draft} (sound : draft.Sound) {name generated : String}
    (bound : draft.bindingFor name = some (generated, later)) :
    draft.Bound name generated later := by
  unfold Draft.bindingFor at bound
  split at bound
  · cases bound
  · next scope found =>
    have isScope := List.mem_of_find?_eq_some found
    have named : scope.name = name := by simpa using List.find?_some found
    have value : Fields.get? name draft.names = some scope.value := by
      rw [draft.get?_names, found, Option.map_some]
    split at bound
    · next noted isNoted =>
      obtain ⟨rfl, rfl⟩ : noted = generated ∧ draft = later := by simpa using bound
      obtain ⟨leads, number, rfl⟩ := sound.noted scope isScope noted isNoted
      exact ⟨sound, .refl draft, rfl, rfl, ⟨scope.origin, number, by rw [named]⟩,
        by rw [leads, value], by simp [value]⟩
    · obtain ⟨rfl, rfl⟩ := Prod.mk.inj (Option.some.inj bound)
      have fresh := sound.fresh scope.origin scope.name
      have grown : draft.Extends { draft with
          scopes := noteGenerated name
            (generatedName scope.origin scope.name draft.nextBinding) draft.scopes
          bindings := Fields.put (generatedName scope.origin scope.name draft.nextBinding)
            scope.value draft.bindings
          nextBinding := draft.nextBinding + 1 } := by
        intro other entry isBound
        have different : generatedName scope.origin scope.name draft.nextBinding ≠ other :=
          fun same => fresh (same ▸ Fields.mem_names_of_get? isBound)
        simpa [different] using isBound
      refine ⟨⟨?_, ?_⟩, grown, rfl, names_noteGenerated .., ⟨_, _, by rw [named]⟩, ?_, ?_⟩
      · intro member isMember noted isNoted
        rcases mem_noteGenerated isMember with old | ⟨old, foundOld, rfl⟩
        · obtain ⟨leads, number⟩ := sound.noted member old noted isNoted
          exact ⟨grown noted _ leads, number⟩
        · obtain rfl : scope = old := by simpa [found] using foundOld
          obtain rfl := Option.some.inj isNoted
          exact ⟨Fields.get?_put_self .., draft.nextBinding, rfl⟩
      · intro other member
        rw [Fields.names_put, if_neg fresh, List.mem_append, List.mem_singleton] at member
        rcases member with old | rfl
        · obtain ⟨origin, root, number, below, rfl⟩ := sound.numbered other old
          exact ⟨origin, root, number, Nat.lt_succ_of_lt below, rfl⟩
        · exact ⟨scope.origin, scope.name, draft.nextBinding, Nat.lt_succ_self _, rfl⟩
      · simp [value]
      · simp [value]

theorem get?_names_of_bindingFor_eq_none {draft : Draft} {name : String}
    (unbound : draft.bindingFor name = none) : Fields.get? name draft.names = none := by
  unfold bindingFor at unbound
  split at unbound
  · next absent => rw [draft.get?_names, absent, Option.map_none]
  · split at unbound <;> cases unbound

/-! ### Scopes that come and go -/

theorem Sound.push {draft : Draft} (sound : draft.Sound) (name : String) (value : Value)
    (origin : Origin) : (draft.push name value origin).Sound :=
  sound.of_scopes rfl rfl fun scope member => by
    rcases List.mem_cons.1 member with rfl | old
    · exact Or.inr rfl
    · exact Or.inl old

theorem Sound.pushNamed {draft : Draft} (sound : draft.Sound) (name : Option String)
    (value : Value) (origin : Origin) : (draft.pushNamed name value origin).Sound := by
  cases name with
  | none => exact sound
  | some name => exact sound.push name value origin

theorem Sound.keepScopes {draft : Draft} (sound : draft.Sound) (count : Nat) :
    (draft.keepScopes count).Sound :=
  sound.of_scopes rfl rfl fun _ member => Or.inl (List.mem_of_mem_drop member)

theorem Sound.withText {draft : Draft} (sound : draft.Sound) (text : List Char) :
    { draft with text }.Sound :=
  sound.of_scopes rfl rfl fun _ member => Or.inl member

/-- Dropping the scopes that have come on top of names leaves the names. -/
theorem names_keepScopes {draft : Draft} {outer : Fields Value} (behind : outer <:+ draft.names) :
    (draft.keepScopes outer.length).names = outer := by
  obtain ⟨inner, whole⟩ := behind
  have lengths : draft.scopes.length = inner.length + outer.length := by
    have counted := congrArg List.length whole
    simpa [names] using counted.symm
  show (draft.scopes.drop (draft.scopes.length - outer.length)).map entryOf = outer
  rw [List.map_drop, lengths, Nat.add_sub_cancel]
  show draft.names.drop inner.length = outer
  rw [← whole, List.drop_left]

theorem names_keepScopes_length {draft later : Draft} (behind : draft.names <:+ later.names) :
    (later.keepScopes draft.scopes.length).names = draft.names := by
  have length : draft.scopes.length = draft.names.length := by rw [names, List.length_map]
  rw [length]
  exact names_keepScopes behind

end Draft

end Template

end DynamicSql
