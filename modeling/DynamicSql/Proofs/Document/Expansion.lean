/-
This file says what the expansion of includes makes of contents, and when. An include is replaced by
what the fragment that it refers to expands to; everything else stays where it is, and only
properties are put into its texts and the values of its attributes. There is a result exactly if
every include that comes up opens a fragment and no fragment includes itself: each expansion that
comes up within another one opens one more fragment, so they end. A library that finds more expands
at least as much.
-/

import DynamicSql.Document.Include
import DynamicSql.Proofs.Outcome
import Mathlib.Logic.Relation

namespace DynamicSql.Document

open Markup (Content Element Tag)

/-! ### Includes in contents -/

mutual

/-- The includes in contents, at any depth outside of other includes. -/
def includesAmong : List Content → List Element
  | [] => []
  | content :: rest => includesOf content ++ includesAmong rest

/-- The includes in one content. -/
def includesOf : Content → List Element
  | .text _ => []
  | .element tag children =>
    if tag.name = "include" then [⟨tag, children⟩] else includesAmong children

end

@[simp]
theorem includesAmong_append (contents others : List Content) :
    includesAmong (contents ++ others) = includesAmong contents ++ includesAmong others := by
  induction contents with
  | nil => rfl
  | cons content rest inductionHypothesis =>
    rw [List.cons_append, includesAmong, includesAmong, inductionHypothesis, List.append_assoc]

/-! ### What contents expand to -/

/-- Contents with every include replaced by what the fragment that it refers to expands to, and the
properties put in everywhere else. -/
inductive Expansion (library : Library) : Properties → List Content → List Content → Prop
  | nil (properties : Properties) : Expansion library properties [] []
  | text {properties : Properties} {rest expanded : List Content} (text : String)
      (later : Expansion library properties rest expanded) :
      Expansion library properties (.text text :: rest)
        (.text (substitute properties text) :: expanded)
  | element {properties : Properties} {tag : Tag} {children inner rest expanded : List Content}
      (other : tag.name ≠ "include") (inside : Expansion library properties children inner)
      (later : Expansion library properties rest expanded) :
      Expansion library properties (.element tag children :: rest)
        (.element (substituteTag properties tag) inner :: expanded)
  | included {properties passed : Properties} {tag : Tag} {id : String}
      {children body pieces rest expanded : List Content} (named : tag.name = "include")
      (refers : includedId library properties tag = .ok id)
      (passes : passedProperties properties properties (Markup.elementsOf children) = .ok passed)
      (found : library.find? id = some (.ok body)) (inside : Expansion library passed body pieces)
      (later : Expansion library properties rest expanded) :
      Expansion library properties (.element tag children :: rest) (pieces ++ expanded)

variable {library : Library} {properties : Properties} {contents expanded : List Content}

/-- Nothing that has been expanded has an include in it. -/
theorem Expansion.includesAmong_eq_nil
    (expansion : Expansion library properties contents expanded) :
    includesAmong expanded = [] := by
  induction expansion with
  | nil => rfl
  | text text later noneLater => exact noneLater
  | element other inside later noneInside noneLater =>
    rw [includesAmong, includesOf, if_neg (by exact other), noneInside, noneLater, List.append_nil]
  | included named refers passes found inside later noneInside noneLater =>
    rw [includesAmong_append, noneInside, noneLater, List.append_nil]

/-- Contents expand to one thing only. -/
theorem Expansion.unique {other : List Content}
    (expansion : Expansion library properties contents expanded)
    (again : Expansion library properties contents other) : expanded = other := by
  induction expansion generalizing other with
  | nil =>
    cases again
    rfl
  | text text later sameLater =>
    cases again with
    | text _ laterAgain => rw [sameLater laterAgain]
  | element notNamed inside later sameInside sameLater =>
    cases again with
    | element _ insideAgain laterAgain => rw [sameInside insideAgain, sameLater laterAgain]
    | included named => exact absurd named notNamed
  | included named refers passes found inside later sameInside sameLater =>
    cases again with
    | element notNamed => exact absurd named notNamed
    | included _ refersAgain passesAgain foundAgain insideAgain laterAgain =>
      obtain rfl := Except.ok.inj (refers.symm.trans refersAgain)
      obtain rfl := Except.ok.inj (passes.symm.trans passesAgain)
      obtain rfl := Except.ok.inj (Option.some.inj (found.symm.trans foundAgain))
      rw [sameInside insideAgain, sameLater laterAgain]

/-- What contents expand to that stand side by side is what they expand to by themselves. -/
theorem Expansion.exists_of_append {others : List Content}
    (expansion : Expansion library properties (contents ++ others) expanded) :
    ∃ first second, Expansion library properties contents first ∧
      Expansion library properties others second ∧ expanded = first ++ second := by
  induction contents generalizing expanded with
  | nil => exact ⟨[], expanded, .nil properties, expansion, rfl⟩
  | cons content rest inductionHypothesis =>
    cases expansion with
    | text text later =>
      obtain ⟨first, second, isFirst, isSecond, rfl⟩ := inductionHypothesis later
      exact ⟨_, second, .text text isFirst, isSecond, rfl⟩
    | element other inside later =>
      obtain ⟨first, second, isFirst, isSecond, rfl⟩ := inductionHypothesis later
      exact ⟨_, second, .element other inside isFirst, isSecond, rfl⟩
    | included named refers passes found inside later =>
      obtain ⟨first, second, isFirst, isSecond, rfl⟩ := inductionHypothesis later
      refine ⟨_, second, .included named refers passes found inside isFirst, isSecond, ?_⟩
      exact (List.append_assoc ..).symm

/-! ### One include -/

/-- What an include is replaced by while the fragments of `chain` are being expanded. -/
def expandInclude (library : Library) (chain : List String) (properties : Properties) (tag : Tag)
    (children : List Content) : Except IncludeFault (List Content) :=
  match includedId library properties tag with
  | .error fault => .error fault
  | .ok id =>
    if id ∈ chain then .error (.cycle chain id)
    else
      match passedProperties properties properties (Markup.elementsOf children) with
      | .error fault => .error fault
      | .ok passed =>
        match library.find? id with
        | none => .error (.unknown id)
        | some (.error fault) => .error (.malformed fault)
        | some (.ok body) => expandFrom library (chain ++ [id]) passed body

theorem expandFrom_eq (library : Library) (chain : List String) (properties : Properties)
    (contents : List Content) :
    expandFrom library chain properties contents =
      expandEach (expandInclude library chain properties) properties contents := by
  rw [expandFrom]
  congr 1
  funext tag children
  split
  · next fault included => simp only [expandInclude, included]
  · next id included =>
    split
    · next onChain => simp only [expandInclude, included, if_pos onChain]
    · next fresh =>
      split
      · next fault isPassed => simp only [expandInclude, included, if_neg fresh, isPassed]
      · next passed isPassed =>
        split
        · next found => simp only [expandInclude, included, if_neg fresh, isPassed, found]
        · next fault found => simp only [expandInclude, included, if_neg fresh, isPassed, found]
        · next body found => simp only [expandInclude, included, if_neg fresh, isPassed, found]

theorem expandInclude_eq_ok_iff {chain : List String} {tag : Tag}
    {children pieces : List Content} :
    expandInclude library chain properties tag children = .ok pieces ↔
      ∃ id passed body, includedId library properties tag = .ok id ∧ id ∉ chain ∧
        passedProperties properties properties (Markup.elementsOf children) = .ok passed ∧
        library.find? id = some (.ok body) ∧
        expandFrom library (chain ++ [id]) passed body = .ok pieces := by
  constructor
  · intro done
    unfold expandInclude at done
    split at done
    · cases done
    · next id included =>
      split at done
      · cases done
      · next fresh =>
        split at done
        · cases done
        · next passed isPassed =>
          split at done
          · cases done
          · cases done
          · next body found => exact ⟨id, passed, body, included, fresh, isPassed, found, done⟩
  · rintro ⟨id, passed, body, included, fresh, isPassed, found, done⟩
    simp only [expandInclude, included, if_neg fresh, isPassed, found, done]

/-! ### Contents -/

theorem exists_of_expandEach_cons
    {replace : Tag → List Content → Except IncludeFault (List Content)}
    {content : Content} {rest : List Content}
    (done : expandEach replace properties (content :: rest) = .ok expanded) :
    ∃ first others, expandContent replace properties content = .ok first ∧
      expandEach replace properties rest = .ok others ∧ expanded = first ++ others := by
  unfold expandEach at done
  split at done
  · cases done
  · next first isFirst =>
    split at done
    · cases done
    · next others isRest =>
      exact ⟨first, others, isFirst, isRest, (Except.ok.inj done).symm⟩

theorem expandEach_cons {replace : Tag → List Content → Except IncludeFault (List Content)}
    {content : Content} {rest first others : List Content}
    (isFirst : expandContent replace properties content = .ok first)
    (isRest : expandEach replace properties rest = .ok others) :
    expandEach replace properties (content :: rest) = .ok (first ++ others) := by
  simp only [expandEach, isFirst, isRest]

theorem exists_of_expandContent_element
    {replace : Tag → List Content → Except IncludeFault (List Content)} {tag : Tag}
    {children pieces : List Content} (other : tag.name ≠ "include")
    (done : expandContent replace properties (.element tag children) = .ok pieces) :
    ∃ inner, expandEach replace properties children = .ok inner ∧
      pieces = [.element (substituteTag properties tag) inner] := by
  unfold expandContent at done
  rw [if_neg other] at done
  split at done
  · cases done
  · next inner isInner => exact ⟨inner, isInner, (Except.ok.inj done).symm⟩

theorem expandContent_include
    (replace : Tag → List Content → Except IncludeFault (List Content)) (properties : Properties)
    {tag : Tag} (named : tag.name = "include") (children : List Content) :
    expandContent replace properties (.element tag children) = replace tag children := by
  rw [expandContent, if_pos named]

theorem expandContent_element {replace : Tag → List Content → Except IncludeFault (List Content)}
    {tag : Tag} {children inner : List Content} (other : tag.name ≠ "include")
    (isInner : expandEach replace properties children = .ok inner) :
    expandContent replace properties (.element tag children) =
      .ok [.element (substituteTag properties tag) inner] := by
  simp only [expandContent, if_neg other, isInner]

section

variable {replace other : Tag → List Content → Except IncludeFault (List Content)}

mutual

/-- What replaces more includes, in the same way, expands more contents to the same. -/
theorem expandEach_mono
    (more : ∀ tag children pieces, replace tag children = .ok pieces →
      other tag children = .ok pieces)
    (contents : List Content) {expanded : List Content}
    (done : expandEach replace properties contents = .ok expanded) :
    expandEach other properties contents = .ok expanded := by
  match contents with
  | [] => exact done
  | content :: rest =>
    obtain ⟨first, others, isFirst, isRest, rfl⟩ := exists_of_expandEach_cons done
    exact expandEach_cons (expandContent_mono more content isFirst)
      (expandEach_mono more rest isRest)

theorem expandContent_mono
    (more : ∀ tag children pieces, replace tag children = .ok pieces →
      other tag children = .ok pieces)
    (content : Content) {expanded : List Content}
    (done : expandContent replace properties content = .ok expanded) :
    expandContent other properties content = .ok expanded := by
  match content with
  | .text text => exact done
  | .element tag children =>
    by_cases named : tag.name = "include"
    · rw [expandContent_include replace properties named] at done
      rw [expandContent_include other properties named]
      exact more tag children expanded done
    · obtain ⟨inner, isInner, rfl⟩ := exists_of_expandContent_element named done
      exact expandContent_element named (expandEach_mono more children isInner)

end

mutual

/-- Contents expand if each of their includes is replaced. -/
theorem exists_expandEach (contents : List Content)
    (replaced : ∀ element ∈ includesAmong contents,
      ∃ pieces, replace element.tag element.children = .ok pieces) :
    ∃ expanded, expandEach replace properties contents = .ok expanded := by
  match contents with
  | [] => exact ⟨[], rfl⟩
  | content :: rest =>
    rw [includesAmong] at replaced
    obtain ⟨replacedFirst, replacedRest⟩ := List.forall_mem_append.1 replaced
    obtain ⟨first, isFirst⟩ := exists_expandContent content replacedFirst
    obtain ⟨others, isRest⟩ := exists_expandEach rest replacedRest
    exact ⟨first ++ others, expandEach_cons isFirst isRest⟩

theorem exists_expandContent (content : Content)
    (replaced : ∀ element ∈ includesOf content,
      ∃ pieces, replace element.tag element.children = .ok pieces) :
    ∃ expanded, expandContent replace properties content = .ok expanded := by
  match content with
  | .text text => exact ⟨_, rfl⟩
  | .element tag children =>
    rw [includesOf] at replaced
    by_cases named : tag.name = "include"
    · rw [if_pos named] at replaced
      rw [expandContent_include replace properties named]
      exact replaced ⟨tag, children⟩ List.mem_cons_self
    · rw [if_neg named] at replaced
      obtain ⟨inner, isInner⟩ := exists_expandEach children replaced
      exact ⟨_, expandContent_element named isInner⟩

end

mutual

/-- In contents that expand, each include is replaced. -/
theorem exists_replaced (contents : List Content) {expanded : List Content}
    (done : expandEach replace properties contents = .ok expanded) :
    ∀ element ∈ includesAmong contents,
      ∃ pieces, replace element.tag element.children = .ok pieces := by
  match contents with
  | [] => exact fun element among => absurd among List.not_mem_nil
  | content :: rest =>
    obtain ⟨first, others, isFirst, isRest, -⟩ := exists_of_expandEach_cons done
    rw [includesAmong]
    exact List.forall_mem_append.2
      ⟨exists_replaced_content content isFirst, exists_replaced rest isRest⟩

theorem exists_replaced_content (content : Content) {expanded : List Content}
    (done : expandContent replace properties content = .ok expanded) :
    ∀ element ∈ includesOf content,
      ∃ pieces, replace element.tag element.children = .ok pieces := by
  match content with
  | .text text => exact fun element among => absurd among List.not_mem_nil
  | .element tag children =>
    rw [includesOf]
    by_cases named : tag.name = "include"
    · rw [if_pos named]
      rw [expandContent_include replace properties named] at done
      intro element among
      obtain rfl := List.mem_singleton.1 among
      exact ⟨expanded, done⟩
    · rw [if_neg named]
      obtain ⟨inner, isInner, -⟩ := exists_of_expandContent_element named done
      exact exists_replaced children isInner

end

mutual

/-- If includes are replaced by what their fragments expand to, contents become what they expand
to. -/
theorem expansion_of_expandEach
    (inside : ∀ tag children pieces, replace tag children = .ok pieces →
      ∃ id passed body, includedId library properties tag = .ok id ∧
        passedProperties properties properties (Markup.elementsOf children) = .ok passed ∧
        library.find? id = some (.ok body) ∧ Expansion library passed body pieces)
    (contents : List Content) {expanded : List Content}
    (done : expandEach replace properties contents = .ok expanded) :
    Expansion library properties contents expanded := by
  match contents with
  | [] =>
    obtain rfl := Except.ok.inj done
    exact .nil properties
  | content :: rest =>
    obtain ⟨first, others, isFirst, isRest, rfl⟩ := exists_of_expandEach_cons done
    exact expansion_of_expandContent inside content isFirst
      (expansion_of_expandEach inside rest isRest)

theorem expansion_of_expandContent
    (inside : ∀ tag children pieces, replace tag children = .ok pieces →
      ∃ id passed body, includedId library properties tag = .ok id ∧
        passedProperties properties properties (Markup.elementsOf children) = .ok passed ∧
        library.find? id = some (.ok body) ∧ Expansion library passed body pieces)
    (content : Content) {first rest others : List Content}
    (done : expandContent replace properties content = .ok first)
    (later : Expansion library properties rest others) :
    Expansion library properties (content :: rest) (first ++ others) := by
  match content with
  | .text text =>
    obtain rfl := Except.ok.inj done
    exact .text text later
  | .element tag children =>
    by_cases named : tag.name = "include"
    · rw [expandContent_include replace properties named] at done
      obtain ⟨id, passed, body, refers, passes, found, expansion⟩ := inside _ _ _ done
      exact .included named refers passes found expansion later
    · obtain ⟨inner, isInner, rfl⟩ := exists_of_expandContent_element named done
      exact .element named (expansion_of_expandEach inside children isInner) later

end

end

/-! ### Chains -/

/-- What holds of a chain if it holds of all that continue it by another fragment, holds of every
chain: there are only so many fragments. -/
theorem chain_induction (library : Library) {motive : List String → Prop}
    (step : ∀ chain, (∀ id ∈ library.ids, id ∉ chain → motive (chain ++ [id])) → motive chain)
    (chain : List String) : motive chain :=
  step chain fun id _ _ => chain_induction library step (chain ++ [id])
termination_by (Chain.outside chain library.ids).length
decreasing_by exact Chain.length_outside_lt ‹_› ‹_›

/-- What has been expanded is what the contents expand to. -/
theorem expansion_of_expandFrom (chain : List String)
    (done : expandFrom library chain properties contents = .ok expanded) :
    Expansion library properties contents expanded := by
  induction chain using chain_induction library generalizing properties contents expanded with
  | step chain inductionHypothesis =>
    rw [expandFrom_eq] at done
    refine expansion_of_expandEach (fun tag children pieces replaced => ?_) contents done
    obtain ⟨id, passed, body, refers, fresh, passes, found, isBody⟩ :=
      expandInclude_eq_ok_iff.1 replaced
    exact ⟨id, passed, body, refers, passes, found,
      inductionHypothesis id (Library.mem_ids_of_find? found) fresh isBody⟩

/-! ### What comes up -/

/-- Contents to be expanded and the properties in scope. -/
@[ext]
structure Scope where
  properties : Properties
  contents : List Content

namespace Scope

/-- An include opens the fragment that it refers to, with the properties that it passes on. -/
structure Opens (library : Library) (outer : Scope) (element : Element) (id : String)
    (inner : Scope) : Prop where
  among : element ∈ includesAmong outer.contents
  refers : includedId library outer.properties element.tag = .ok id
  passes : passedProperties outer.properties outer.properties
    (Markup.elementsOf element.children) = .ok inner.properties
  found : library.find? id = some (.ok inner.contents)

/-- A scope comes up in another one: it is opened by an include, or by one within what comes up. -/
def Reaches (library : Library) : Scope → Scope → Prop :=
  Relation.ReflTransGen fun outer inner => ∃ element id, Opens library outer element id inner

/-- A fragment is included, directly or by what is included. -/
def Includes (library : Library) (scope : Scope) (id : String) : Prop :=
  ∃ middle, Reaches library scope middle ∧ ∃ element ∈ includesAmong middle.contents,
    includedId library middle.properties element.tag = .ok id

/-- A fragment that is opened includes itself. -/
def Cyclic (library : Library) (scope : Scope) : Prop :=
  ∃ middle element id inner, Reaches library scope middle ∧
    Opens library middle element id inner ∧ Includes library inner id

/-- Every include that comes up satisfies a condition, with the properties in scope there. -/
def Each (library : Library) (condition : Properties → Element → Prop) (scope : Scope) : Prop :=
  ∀ middle, Reaches library scope middle →
    ∀ element ∈ includesAmong middle.contents, condition middle.properties element

/-- Every include that comes up opens a fragment, and no fragment includes itself. -/
structure Expandable (library : Library) (scope : Scope) : Prop where
  opens : ∀ middle, Reaches library scope middle → ∀ element ∈ includesAmong middle.contents,
    ∃ id inner, Opens library middle element id inner
  acyclic : ¬ Cyclic library scope

variable {scope outer inner : Scope} {element : Element} {id : String}

/-- What an include opens is determined by it. -/
theorem Opens.unique {otherId : String} {other : Scope}
    (opens : Opens library outer element id inner)
    (again : Opens library outer element otherId other) : otherId = id ∧ other = inner := by
  obtain rfl := Except.ok.inj (opens.refers.symm.trans again.refers)
  have sameProperties := Except.ok.inj (opens.passes.symm.trans again.passes)
  have sameContents := Except.ok.inj (Option.some.inj (opens.found.symm.trans again.found))
  exact ⟨rfl, Scope.ext sameProperties.symm sameContents.symm⟩

theorem Opens.reaches (opens : Opens library outer element id inner) :
    Reaches library outer inner :=
  .single ⟨element, id, opens⟩

/-- What comes up is the scope itself, or comes up in what one of its includes opens. -/
theorem reaches_iff {middle : Scope} : Reaches library scope middle ↔
    scope = middle ∨ ∃ element id inner,
      Opens library scope element id inner ∧ Reaches library inner middle := by
  constructor
  · intro reaches
    rcases Relation.ReflTransGen.cases_head reaches with same | ⟨inner, ⟨element, id, opens⟩, later⟩
    · exact .inl same
    · exact .inr ⟨element, id, inner, opens, later⟩
  · rintro (rfl | ⟨element, id, inner, opens, later⟩)
    · exact .refl
    · exact .head ⟨element, id, opens⟩ later

theorem includes_of_among (among : element ∈ includesAmong scope.contents)
    (refers : includedId library scope.properties element.tag = .ok id) :
    Includes library scope id :=
  ⟨scope, .refl, element, among, refers⟩

theorem Includes.of_reaches {middle : Scope} (reaches : Reaches library scope middle)
    (includes : Includes library middle id) : Includes library scope id := by
  obtain ⟨last, later, element, among, refers⟩ := includes
  exact ⟨last, reaches.trans later, element, among, refers⟩

/-- A fragment that is included is referred to by one of the includes, or included by what one of
them opens. -/
theorem Includes.cases (includes : Includes library scope id) :
    (∃ element ∈ includesAmong scope.contents,
      includedId library scope.properties element.tag = .ok id) ∨
    ∃ element other inner, Opens library scope element other inner ∧ Includes library inner id := by
  obtain ⟨middle, reaches, element, among, refers⟩ := includes
  rcases reaches_iff.1 reaches with rfl | ⟨first, other, inner, opens, later⟩
  · exact .inl ⟨element, among, refers⟩
  · exact .inr ⟨first, other, inner, opens, middle, later, element, among, refers⟩

theorem Expandable.of_reaches {middle : Scope} (reaches : Reaches library scope middle)
    (expandable : Expandable library scope) : Expandable library middle :=
  ⟨fun last later => expandable.opens last (reaches.trans later),
    fun ⟨last, element, id, inner, later, opens, includes⟩ =>
      expandable.acyclic ⟨last, element, id, inner, reaches.trans later, opens, includes⟩⟩

/-- No include of an expandable scope opens a fragment that includes itself. -/
theorem Expandable.not_includes (expandable : Expandable library scope)
    (opens : Opens library scope element id inner) : ¬ Includes library inner id :=
  fun includes => expandable.acyclic ⟨scope, element, id, inner, .refl, opens, includes⟩

/-- An include opens an expandable scope that does not include the fragment again. -/
def Unfolds (library : Library) (scope : Scope) (element : Element) : Prop :=
  ∃ id inner, Opens library scope element id inner ∧ Expandable library inner ∧
    ¬ Includes library inner id

/-- A scope is expandable if each of its includes opens one that is and that does not include the
fragment again. -/
theorem expandable_of_each
    (each : ∀ element ∈ includesAmong scope.contents, Unfolds library scope element) :
    Expandable library scope := by
  constructor
  · intro middle reaches element among
    rcases reaches_iff.1 reaches with rfl | ⟨first, id, inner, opens, later⟩
    · obtain ⟨id, inner, opens, -, -⟩ := each element among
      exact ⟨id, inner, opens⟩
    · obtain ⟨id, opened, again, expandable, -⟩ := each first opens.among
      obtain ⟨-, rfl⟩ := again.unique opens
      exact expandable.opens middle later element among
  · rintro ⟨middle, element, id, inner, reaches, opens, includes⟩
    rcases reaches_iff.1 reaches with rfl | ⟨first, other, opened, opensFirst, later⟩
    · obtain ⟨id, again, opensAgain, -, acyclic⟩ := each element opens.among
      obtain ⟨rfl, rfl⟩ := opensAgain.unique opens
      exact acyclic includes
    · obtain ⟨id, again, opensAgain, expandable, -⟩ := each first opensFirst.among
      obtain ⟨-, rfl⟩ := opensAgain.unique opensFirst
      exact expandable.acyclic ⟨middle, element, _, inner, later, opens, includes⟩

theorem Each.of_reaches {condition : Properties → Element → Prop} {middle : Scope}
    (reaches : Reaches library scope middle) (each : Each library condition scope) :
    Each library condition middle :=
  fun last later => each last (reaches.trans later)

/-- A condition holds of every include that comes up if it holds of those of the scope itself and
of all that come up in what they open. -/
theorem each_of_opens {condition : Properties → Element → Prop}
    (own : ∀ element ∈ includesAmong scope.contents, condition scope.properties element)
    (inside : ∀ element id inner, Opens library scope element id inner →
      Each library condition inner) : Each library condition scope := by
  intro middle reaches element among
  rcases reaches_iff.1 reaches with rfl | ⟨first, id, inner, opens, later⟩
  · exact own element among
  · exact inside first id inner opens middle later element among

end Scope

open Scope (Expandable Includes Reaches)

/-- Expansions do not come up within each other for ever: each opens a fragment that is not on the
chain yet. -/
theorem wellFounded_opens (library : Library) :
    WellFounded fun inner outer : List String × Scope => ∃ element id,
      Scope.Opens library outer.2 element id inner.2 ∧ id ∉ outer.1 ∧
        inner.1 = outer.1 ++ [id] := by
  refine Subrelation.wf ?_ (InvImage.wf
    (fun stage : List String × Scope => (Chain.outside stage.1 library.ids).length)
    Nat.lt_wfRel.wf)
  rintro ⟨inner, innerScope⟩ ⟨outer, outerScope⟩ ⟨element, id, opens, fresh, rfl⟩
  exact Chain.length_outside_lt (Library.mem_ids_of_find? opens.found) fresh

/-- What has been expanded is expandable, and includes no fragment of the chain. -/
theorem expandable_of_expandFrom (chain : List String)
    (done : expandFrom library chain properties contents = .ok expanded) :
    Expandable library ⟨properties, contents⟩ ∧
      ∀ id, Includes library ⟨properties, contents⟩ id → id ∉ chain := by
  induction chain using chain_induction library generalizing properties contents expanded with
  | step chain inductionHypothesis =>
    rw [expandFrom_eq] at done
    have each : ∀ element ∈ includesAmong contents, ∃ id inner,
        Scope.Opens library ⟨properties, contents⟩ element id inner ∧ id ∉ chain ∧
          Expandable library inner ∧
          ∀ other, Includes library inner other → other ∉ chain ++ [id] := by
      intro element among
      obtain ⟨pieces, replaced⟩ := exists_replaced contents done element among
      obtain ⟨id, passed, body, refers, fresh, passes, found, isBody⟩ :=
        expandInclude_eq_ok_iff.1 replaced
      obtain ⟨expandable, free⟩ :=
        inductionHypothesis id (Library.mem_ids_of_find? found) fresh isBody
      exact ⟨id, ⟨passed, body⟩, ⟨among, refers, passes, found⟩, fresh, expandable, free⟩
    constructor
    · refine Scope.expandable_of_each fun element among => ?_
      obtain ⟨id, inner, opens, -, expandable, free⟩ := each element among
      refine ⟨id, inner, opens, expandable, fun again => free id again ?_⟩
      exact List.mem_append_right chain List.mem_cons_self
    · intro id includes
      rcases includes.cases with ⟨element, among, refers⟩ | ⟨element, other, inner, opens, later⟩
      · obtain ⟨other, inner, opens, fresh, -, -⟩ := each element among
        obtain rfl := Except.ok.inj (refers.symm.trans opens.refers)
        exact fresh
      · obtain ⟨_, _, again, -, -, free⟩ := each element opens.among
        obtain ⟨rfl, rfl⟩ := again.unique opens
        exact fun member => free id later (List.mem_append_left _ member)

/-- What is expandable and includes no fragment of the chain is expanded. -/
theorem exists_expandFrom (chain : List String) {scope : Scope}
    (expandable : Expandable library scope)
    (free : ∀ id, Includes library scope id → id ∉ chain) :
    ∃ expanded, expandFrom library chain scope.properties scope.contents = .ok expanded := by
  induction chain using chain_induction library generalizing scope with
  | step chain inductionHypothesis =>
    rw [expandFrom_eq]
    refine exists_expandEach scope.contents fun element among => ?_
    obtain ⟨id, inner, opens⟩ := expandable.opens scope .refl element among
    have fresh : id ∉ chain := free id (Scope.includes_of_among among opens.refers)
    have freeInside : ∀ other, Includes library inner other → other ∉ chain ++ [id] := by
      intro other includes member
      rcases List.mem_append.1 member with member | member
      · exact free other (includes.of_reaches opens.reaches) member
      · obtain rfl := List.mem_singleton.1 member
        exact expandable.not_includes opens includes
    obtain ⟨pieces, isBody⟩ := inductionHypothesis id (Library.mem_ids_of_find? opens.found) fresh
      (expandable.of_reaches opens.reaches) freeInside
    exact ⟨pieces, expandInclude_eq_ok_iff.2 ⟨id, inner.properties, inner.contents, opens.refers,
      fresh, opens.passes, opens.found, isBody⟩⟩

/-- Contents are expanded exactly if they are expandable. -/
theorem exists_expand_iff (library : Library) (contents : List Content) :
    (∃ expanded, expand library contents = .ok expanded) ↔ Expandable library ⟨[], contents⟩ := by
  constructor
  · rintro ⟨expanded, done⟩
    exact (expandable_of_expandFrom [] done).1
  · intro expandable
    exact exists_expandFrom [] expandable fun id _ => List.not_mem_nil

/-! ### The fragments of a document itself -/

/-- The fragments of the document itself are found by the identifiers that are joined from its
namespace and their own. -/
theorem own?_eq_some_iff {id : String} {contents : List Content} :
    library.own? id = some contents ↔ ∃ localId,
      Identifier.split? id = some (library.namespaceName, localId) ∧
        Fields.get? localId library.own = some contents := by
  unfold Library.own?
  constructor
  · intro found
    split at found
    · next namespaceName localId split =>
      split at found
      · next same => exact ⟨localId, same ▸ split, found⟩
      · cases found
    · cases found
  · rintro ⟨localId, split, found⟩
    rw [split]
    exact (if_pos rfl).trans found

/-- A fragment of the document itself comes before those outside. -/
theorem find?_of_own? {id : String} {contents : List Content}
    (isOwn : library.own? id = some contents) : library.find? id = some (.ok contents) := by
  rw [Library.find?, isOwn]

/-! ### Larger libraries -/

/-- What one library finds the other one finds as well. -/
structure Library.FindsWithin (library larger : Library) : Prop where
  namespaceName : library.namespaceName = larger.namespaceName
  found : ∀ id body, library.find? id = some (.ok body) → larger.find? id = some (.ok body)

theorem Library.FindsWithin.refl (library : Library) : library.FindsWithin library :=
  ⟨rfl, fun _ _ found => found⟩

theorem includedId_congr {larger : Library}
    (same : library.namespaceName = larger.namespaceName) (properties : Properties) (tag : Tag) :
    includedId library properties tag = includedId larger properties tag := by
  unfold includedId
  rw [same]

/-- A library that finds more expands at least as much within fewer fragments, to the same. -/
theorem expandFrom_mono {larger : Library} (within : library.FindsWithin larger)
    {chain fewer : List String} (subset : fewer ⊆ chain)
    (done : expandFrom library chain properties contents = .ok expanded) :
    expandFrom larger fewer properties contents = .ok expanded := by
  induction chain using chain_induction library generalizing fewer properties contents expanded with
  | step chain inductionHypothesis =>
    rw [expandFrom_eq] at done ⊢
    refine expandEach_mono (fun tag children pieces replaced => ?_) contents done
    obtain ⟨id, passed, body, refers, fresh, passes, found, isBody⟩ :=
      expandInclude_eq_ok_iff.1 replaced
    refine expandInclude_eq_ok_iff.2 ⟨id, passed, body, ?_, fun member => fresh (subset member),
      passes, within.found id body found, ?_⟩
    · rw [← includedId_congr within.namespaceName]
      exact refers
    · exact inductionHypothesis id (Library.mem_ids_of_find? found) fresh
        (List.append_subset.2 ⟨List.subset_append_of_subset_left [id] subset,
          List.subset_append_right chain [id]⟩) isBody

end DynamicSql.Document
