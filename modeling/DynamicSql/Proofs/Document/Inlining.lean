/-
This file says that includes are inlined. Putting the contents of a fragment in the place of an
include of it, as often as one likes and in the fragments as well, changes neither what contents
expand to nor the template that they are compiled to. It cannot make an expansion fail; where no
include has an element inside it, it cannot make one succeed either. From there on the file says
what the expansion of includes does at all: when it has a result, and what that is.
-/

import DynamicSql.Document.Body
import DynamicSql.Proofs.Document.Expansion
import Mathlib.Data.List.Forall2
import Mathlib.Data.Set.Defs

namespace DynamicSql.Document

open Markup (Content Element Tag)
open Scope (Cyclic Each Expandable Includes Opens Reaches Unfolds)

/-! ### Nothing to put in -/

@[simp]
theorem substituteIn_nil (text : List Char) : substituteIn [] text = text := by
  fun_induction substituteIn [] text with
  | case1 => rfl
  | case2 => rfl
  | case3 rest inside after cut shorter value found => exact absurd found (by simp [Fields.get?])
  | case4 rest inside after cut shorter none inductionHypothesis =>
    obtain ⟨whole, -⟩ := Text.cutFirst?_eq cut
    rw [inductionHypothesis, whole]
    simp
  | case5 character rest notReference inductionHypothesis => rw [inductionHypothesis]

@[simp]
theorem substitute_nil (text : String) : substitute [] text = text := by
  unfold substitute
  rw [substituteIn_nil, String.ofList_toList]

/-- Properties are put into the values of attributes only. -/
theorem name_substituteTag (properties : Properties) (tag : Tag) :
    (substituteTag properties tag).name = tag.name ∧
      (substituteTag properties tag).attributes.map Prod.fst = tag.attributes.map Prod.fst := by
  refine ⟨rfl, ?_⟩
  unfold substituteTag
  rw [List.map_map]
  rfl

theorem includedId_of_require (library : Library) (properties : Properties) {tag : Tag}
    {reference : String} (required : tag.require "refid" = .ok reference) :
    includedId library properties tag =
      .ok (Identifier.resolve library.namespaceName (substitute properties reference)) := by
  simp only [includedId, required]

/-- Without properties in scope, an include refers to the fragment that its `refid` names. -/
theorem includedId_nil (library : Library) {tag : Tag} {reference : String}
    (required : tag.require "refid" = .ok reference) :
    includedId library [] tag = .ok (Identifier.resolve library.namespaceName reference) := by
  rw [includedId_of_require library [] required, substitute_nil]

variable {library : Library} {properties : Properties}

/-- An include without a property inside it can only pass on the properties in scope. -/
theorem passed_eq_of_free {elements : List Element} {passed : Properties}
    (free : ∀ element ∈ elements, element.tag.name ≠ "property")
    (passes : passedProperties properties properties elements = .ok passed) :
    passed = properties := by
  match elements with
  | [] => exact (Except.ok.inj passes).symm
  | element :: rest =>
    have named : ¬ element.tag.name = "property" := free element List.mem_cons_self
    rw [passedProperties, if_neg named] at passes
    cases passes

/-- An include without an element inside it passes on the properties in scope. -/
theorem passes_of_childless (properties : Properties) {element : Element}
    (childless : element.elements = []) :
    passedProperties properties properties (Markup.elementsOf element.children) =
      .ok properties := by
  rw [show Markup.elementsOf element.children = [] from childless]
  rfl

/-! ### Scopes of a part -/

/-- What an include opens does not depend on the contents around it. -/
theorem Scope.Opens.of_among {contents others : List Content} {element : Element} {id : String}
    {inner : Scope} (among : element ∈ includesAmong others)
    (opens : Opens library ⟨properties, contents⟩ element id inner) :
    Opens library ⟨properties, others⟩ element id inner :=
  ⟨among, opens.refers, opens.passes, opens.found⟩

theorem Scope.Unfolds.of_among {contents others : List Content} {element : Element}
    (among : element ∈ includesAmong others)
    (unfolds : Unfolds library ⟨properties, contents⟩ element) :
    Unfolds library ⟨properties, others⟩ element := by
  obtain ⟨id, inner, opens, expandable⟩ := unfolds
  exact ⟨id, inner, opens.of_among among, expandable⟩

variable {condition : Properties → Element → Prop} {contents others rest : List Content}

theorem Scope.Each.of_subset (subset : includesAmong contents ⊆ includesAmong others)
    (each : Each library condition ⟨properties, others⟩) :
    Each library condition ⟨properties, contents⟩ := by
  refine Scope.each_of_opens (fun element among => each _ .refl element (subset among)) ?_
  intro element id inner opens
  exact each.of_reaches (opens.of_among (subset opens.among)).reaches

theorem Scope.Each.append (first : Each library condition ⟨properties, contents⟩)
    (second : Each library condition ⟨properties, others⟩) :
    Each library condition ⟨properties, contents ++ others⟩ := by
  have split : ∀ element ∈ includesAmong (contents ++ others),
      element ∈ includesAmong contents ∨ element ∈ includesAmong others := by
    intro element among
    rw [includesAmong_append] at among
    exact List.mem_append.1 among
  refine Scope.each_of_opens (fun element among => ?_) fun element id inner opens => ?_
  · exact (split element among).elim (first _ .refl element) (second _ .refl element)
  · rcases split element opens.among with member | member
    · exact first.of_reaches (opens.of_among member).reaches
    · exact second.of_reaches (opens.of_among member).reaches

theorem includesAmong_rest_subset (content : Content) (rest : List Content) :
    includesAmong rest ⊆ includesAmong (content :: rest) := by
  rw [includesAmong]
  exact List.subset_append_right _ _

theorem includesAmong_children_subset {tag : Tag} (other : tag.name ≠ "include")
    (children rest : List Content) :
    includesAmong children ⊆ includesAmong (.element tag children :: rest) := by
  rw [includesAmong, includesOf, if_neg other]
  exact List.subset_append_left _ _

theorem mem_includesAmong_of_named {tag : Tag} (named : tag.name = "include")
    (children rest : List Content) :
    ⟨tag, children⟩ ∈ includesAmong (.element tag children :: rest) := by
  rw [includesAmong, includesOf, if_pos named]
  exact List.mem_cons_self

/-- If no include that comes up has an element inside it, all are in the same scope. -/
theorem properties_eq_of_reaches {scope middle : Scope}
    (childless : Each library (fun _ element => element.elements = []) scope)
    (reaches : Reaches library scope middle) : middle.properties = scope.properties := by
  induction reaches with
  | refl => rfl
  | @tail outer inner before opened inductionHypothesis =>
    obtain ⟨element, id, opens⟩ := opened
    have passes := passes_of_childless outer.properties
      (childless outer before element opens.among)
    rw [← inductionHypothesis]
    exact (Except.ok.inj (passes.symm.trans opens.passes)).symm

/-! ### Inlining -/

/-- Contents with some includes of a library's own fragments replaced by what is in the fragment,
where others may be replaced in turn. Such an include has no property inside it, and refers to the
fragment in all scopes that come up. -/
inductive Inlines (library : Library) (scopes : Set Properties) :
    List Content → List Content → Prop
  | nil : Inlines library scopes [] []
  | text {rest inlined : List Content} (text : String)
      (later : Inlines library scopes rest inlined) :
      Inlines library scopes (.text text :: rest) (.text text :: inlined)
  | element {tag : Tag} {children inner rest inlined : List Content}
      (other : tag.name ≠ "include") (inside : Inlines library scopes children inner)
      (later : Inlines library scopes rest inlined) :
      Inlines library scopes (.element tag children :: rest) (.element tag inner :: inlined)
  | kept {tag : Tag} {children rest inlined : List Content} (named : tag.name = "include")
      (later : Inlines library scopes rest inlined) :
      Inlines library scopes (.element tag children :: rest) (.element tag children :: inlined)
  | replaced {tag : Tag} {id : String} {children body rest inlined : List Content}
      (named : tag.name = "include")
      (free : ∀ child ∈ Markup.elementsOf children, child.tag.name ≠ "property")
      (refers : ∀ properties ∈ scopes, includedId library properties tag = .ok id)
      (found : library.own? id = some body)
      (later : Inlines library scopes (body ++ rest) inlined) :
      Inlines library scopes (.element tag children :: rest) inlined

variable {scopes : Set Properties}

theorem Inlines.refl : ∀ contents : List Content, Inlines library scopes contents contents
  | [] => .nil
  | .text piece :: rest => .text piece (Inlines.refl rest)
  | .element tag children :: rest => by
    by_cases named : tag.name = "include"
    · exact .kept named (Inlines.refl rest)
    · exact .element named (Inlines.refl children) (Inlines.refl rest)

/-- Two libraries differ in that includes are inlined in the own fragments of the second one. -/
structure Library.Inlined (library : Library) (scopes : Set Properties) (other : Library) :
    Prop where
  namespaceName : library.namespaceName = other.namespaceName
  outside : library.outside = other.outside
  own : List.Forall₂ (fun fragment inlined => fragment.1 = inlined.1 ∧
    Inlines library scopes fragment.2 inlined.2) library.own other.own

variable {other : Library}

/-- A name is that of no field in two lists of fields with related entries, or of related entries
in both. -/
theorem Fields.get?_cases {First Second : Type} {related : First → Second → Prop}
    {first : Fields First} {second : Fields Second}
    (alike : List.Forall₂ (fun field other => field.1 = other.1 ∧ related field.2 other.2)
      first second) (name : String) :
    (Fields.get? name first = none ∧ Fields.get? name second = none) ∨
      ∃ entry other, Fields.get? name first = some entry ∧ Fields.get? name second = some other ∧
        related entry other := by
  induction alike with
  | nil => exact .inl ⟨rfl, rfl⟩
  | @cons field other _ _ same later inductionHypothesis =>
    rw [Fields.get?, Fields.get?, ← same.1]
    by_cases named : field.1 = name
    · rw [if_pos named, if_pos named]
      exact .inr ⟨field.2, other.2, rfl, rfl, same.2⟩
    · rw [if_neg named, if_neg named]
      exact inductionHypothesis

/-- A fragment is the same in both libraries, or it is an own one in which includes are
inlined. -/
theorem Library.Inlined.find?_cases (inlined : library.Inlined scopes other) (id : String) :
    library.find? id = other.find? id ∨ ∃ body otherBody, library.find? id = some (.ok body) ∧
      other.find? id = some (.ok otherBody) ∧ Inlines library scopes body otherBody := by
  have owned : (library.own? id = none ∧ other.own? id = none) ∨ ∃ body otherBody,
      library.own? id = some body ∧ other.own? id = some otherBody ∧
        Inlines library scopes body otherBody := by
    unfold Library.own?
    rw [← inlined.namespaceName]
    split
    · split
      · exact Fields.get?_cases inlined.own _
      · exact .inl ⟨rfl, rfl⟩
    · exact .inl ⟨rfl, rfl⟩
  unfold Library.find?
  rcases owned with ⟨isNone, otherNone⟩ | ⟨body, otherBody, isOwn, otherOwn, inlines⟩
  · rw [isNone, otherNone, inlined.outside]
    exact .inl rfl
  · rw [isOwn, otherOwn]
    exact .inr ⟨body, otherBody, rfl, rfl, inlines⟩

theorem Library.Inlined.exists_of_find? (inlined : library.Inlined scopes other) {id : String}
    {body : List Content} (found : library.find? id = some (.ok body)) :
    ∃ otherBody, other.find? id = some (.ok otherBody) ∧ Inlines library scopes body otherBody := by
  rcases inlined.find?_cases id with same | ⟨own, otherBody, isOwn, otherFound, inlines⟩
  · exact ⟨body, same.symm.trans found, Inlines.refl body⟩
  · obtain rfl := Except.ok.inj (Option.some.inj (found.symm.trans isOwn))
    exact ⟨otherBody, otherFound, inlines⟩

theorem Library.Inlined.exists_of_find?_other (inlined : library.Inlined scopes other)
    {id : String} {otherBody : List Content} (found : other.find? id = some (.ok otherBody)) :
    ∃ body, library.find? id = some (.ok body) ∧ Inlines library scopes body otherBody := by
  rcases inlined.find?_cases id with same | ⟨body, other, isOwn, otherFound, inlines⟩
  · exact ⟨otherBody, same.trans found, Inlines.refl otherBody⟩
  · obtain rfl := Except.ok.inj (Option.some.inj (found.symm.trans otherFound))
    exact ⟨body, isOwn, inlines⟩

theorem Library.find?_own {id : String} {body : List Content}
    (found : library.own? id = some body) : library.find? id = some (.ok body) := by
  unfold Library.find?
  rw [found]

/-! ### Expanding what is inlined -/

theorem expandFrom_append {chain : List String} {expanded otherExpanded : List Content}
    (done : expandFrom library chain properties contents = .ok expanded)
    (otherDone : expandFrom library chain properties others = .ok otherExpanded) :
    expandFrom library chain properties (contents ++ others) = .ok (expanded ++ otherExpanded) := by
  rw [expandFrom_eq] at done otherDone ⊢
  induction contents generalizing expanded with
  | nil =>
    obtain rfl := Except.ok.inj done
    exact otherDone
  | cons content rest inductionHypothesis =>
    obtain ⟨first, later, isFirst, isRest, rfl⟩ := exists_of_expandEach_cons done
    rw [List.append_assoc]
    exact expandEach_cons isFirst (inductionHypothesis isRest)

/-- What comes up behind an include that is replaced has come up before. -/
theorem Scope.Each.replaced {tag : Tag} {children body : List Content} {id : String}
    (each : Each library condition ⟨properties, .element tag children :: rest⟩)
    (opens : Opens library ⟨properties, .element tag children :: rest⟩ ⟨tag, children⟩ id
      ⟨properties, body⟩) : Each library condition ⟨properties, body ++ rest⟩ :=
  Scope.Each.append (each.of_reaches opens.reaches)
    (each.of_subset (includesAmong_rest_subset _ rest))

/-- Inlining cannot make an expansion fail, nor change what it comes to. -/
theorem expandFrom_inlines (alike : library.Inlined scopes other) {chain fewer : List String}
    (subset : fewer ⊆ chain) {inlined expanded : List Content}
    (inlines : Inlines library scopes contents inlined)
    (each : Each library (fun properties _ => properties ∈ scopes) ⟨properties, contents⟩)
    (done : expandFrom library chain properties contents = .ok expanded) :
    expandFrom other fewer properties inlined = .ok expanded := by
  induction chain using chain_induction library
    generalizing fewer properties contents inlined expanded with
  | step chain inductionHypothesis =>
    rw [expandFrom_eq] at done ⊢
    induction inlines generalizing expanded with
    | nil => exact done
    | text piece later inLater =>
      obtain ⟨first, others, isFirst, isRest, rfl⟩ := exists_of_expandEach_cons done
      exact expandEach_cons isFirst
        (inLater (each.of_subset (includesAmong_rest_subset _ _)) isRest)
    | element notNamed inside later inInside inLater =>
      obtain ⟨first, others, isFirst, isRest, rfl⟩ := exists_of_expandEach_cons done
      obtain ⟨inner, isInner, rfl⟩ := exists_of_expandContent_element notNamed isFirst
      refine expandEach_cons (expandContent_element notNamed (inInside ?_ isInner))
        (inLater (each.of_subset (includesAmong_rest_subset _ _)) isRest)
      exact each.of_subset (includesAmong_children_subset notNamed _ _)
    | @kept tag children rest inlined named later inLater =>
      obtain ⟨first, others, isFirst, isRest, rfl⟩ := exists_of_expandEach_cons done
      refine expandEach_cons ?_ (inLater (each.of_subset (includesAmong_rest_subset _ _)) isRest)
      rw [expandContent_include _ _ named] at isFirst ⊢
      obtain ⟨id, passed, body, refers, fresh, passes, found, isBody⟩ :=
        expandInclude_eq_ok_iff.1 isFirst
      have opens : Opens library ⟨properties, .element tag children :: rest⟩ ⟨tag, children⟩ id
          ⟨passed, body⟩ := ⟨mem_includesAmong_of_named named children rest, refers, passes, found⟩
      obtain ⟨otherBody, otherFound, inlinesBody⟩ := alike.exists_of_find? found
      rw [includedId_congr alike.namespaceName] at refers
      refine expandInclude_eq_ok_iff.2 ⟨id, passed, otherBody, refers,
        fun member => fresh (subset member), passes, otherFound, ?_⟩
      exact inductionHypothesis id (Library.mem_ids_of_find? found) fresh
        (List.append_subset.2 ⟨List.subset_append_of_subset_left [id] subset,
          List.subset_append_right chain [id]⟩) inlinesBody (each.of_reaches opens.reaches) isBody
    | @replaced tag id children body rest inlined named free refers found later inLater =>
      obtain ⟨pieces, others, isFirst, isRest, rfl⟩ := exists_of_expandEach_cons done
      rw [expandContent_include _ _ named] at isFirst
      obtain ⟨included, passed, opened, includes, fresh, passes, isFound, isBody⟩ :=
        expandInclude_eq_ok_iff.1 isFirst
      have among := mem_includesAmong_of_named named children rest
      obtain rfl := Except.ok.inj ((refers properties (each _ .refl _ among)).symm.trans includes)
      obtain rfl := passed_eq_of_free free passes
      obtain rfl := Except.ok.inj (Option.some.inj ((Library.find?_own found).symm.trans isFound))
      refine inLater (each.replaced ⟨among, includes, passes, isFound⟩) ?_
      rw [← expandFrom_eq] at isRest ⊢
      refine expandFrom_append ?_ isRest
      exact expandFrom_mono (.refl library) (List.subset_append_left chain [_]) isBody

/-- Where no include has an element inside it, inlining cannot make an expansion succeed. -/
theorem expansion_of_inlined (alike : library.Inlined scopes other) {chain : List String}
    {inlined expanded : List Content} (inlines : Inlines library scopes contents inlined)
    (each : Each library (fun properties element => properties ∈ scopes ∧ element.elements = [])
      ⟨properties, contents⟩)
    (done : expandFrom other chain properties inlined = .ok expanded) :
    Expansion library properties contents expanded := by
  induction chain using chain_induction other
    generalizing properties contents inlined expanded with
  | step chain inductionHypothesis =>
    rw [expandFrom_eq] at done
    induction inlines generalizing expanded with
    | nil =>
      obtain rfl := Except.ok.inj done
      exact .nil properties
    | text piece later inLater =>
      obtain ⟨first, others, isFirst, isRest, rfl⟩ := exists_of_expandEach_cons done
      obtain rfl := Except.ok.inj isFirst
      exact .text piece (inLater (each.of_subset (includesAmong_rest_subset _ _)) isRest)
    | element notNamed inside later inInside inLater =>
      obtain ⟨first, others, isFirst, isRest, rfl⟩ := exists_of_expandEach_cons done
      obtain ⟨inner, isInner, rfl⟩ := exists_of_expandContent_element notNamed isFirst
      refine .element notNamed (inInside ?_ isInner)
        (inLater (each.of_subset (includesAmong_rest_subset _ _)) isRest)
      exact each.of_subset (includesAmong_children_subset notNamed _ _)
    | @kept tag children rest inlined named later inLater =>
      obtain ⟨first, others, isFirst, isRest, rfl⟩ := exists_of_expandEach_cons done
      rw [expandContent_include _ _ named] at isFirst
      obtain ⟨id, passed, otherBody, refers, fresh, passes, otherFound, isBody⟩ :=
        expandInclude_eq_ok_iff.1 isFirst
      obtain ⟨body, found, inlinesBody⟩ := alike.exists_of_find?_other otherFound
      rw [← includedId_congr alike.namespaceName] at refers
      have opens : Opens library ⟨properties, .element tag children :: rest⟩ ⟨tag, children⟩ id
          ⟨passed, body⟩ := ⟨mem_includesAmong_of_named named children rest, refers, passes, found⟩
      refine .included named refers passes found ?_
        (inLater (each.of_subset (includesAmong_rest_subset _ _)) isRest)
      exact inductionHypothesis id (Library.mem_ids_of_find? otherFound) fresh inlinesBody
        (each.of_reaches opens.reaches) isBody
    | @replaced tag id children body rest inlined named free refers found later inLater =>
      have among := mem_includesAmong_of_named named children rest
      obtain ⟨member, childless⟩ := each _ .refl _ among
      have passes := passes_of_childless properties childless
      have isFound := Library.find?_own found
      obtain ⟨pieces, others, isBody, isRest, rfl⟩ := Expansion.exists_of_append
        (inLater (each.replaced ⟨among, refers properties member, passes, isFound⟩) done)
      exact .included named (refers properties member) passes isFound isBody isRest

/-- Where no include has an element inside it, contents that expand to anything at all are
expandable: no fragment includes itself. -/
theorem Expansion.expandable {expanded : List Content}
    (expansion : Expansion library properties contents expanded)
    (childless : Each library (fun _ element => element.elements = []) ⟨properties, contents⟩) :
    Expandable library ⟨properties, contents⟩ := by
  refine Scope.expandable_of_each ?_
  induction expansion with
  | nil => exact fun element among => absurd among List.not_mem_nil
  | text piece later inLater =>
    have unfolds := inLater (childless.of_subset (includesAmong_rest_subset _ _))
    exact fun element among => (unfolds element among).of_among among
  | @element properties tag children inner rest expanded notNamed inside later inInside inLater =>
    intro element among
    have split := among
    rw [includesAmong, includesOf, if_neg notNamed] at split
    rcases List.mem_append.1 split with member | member
    · have inChildren := childless.of_subset (includesAmong_children_subset notNamed _ _)
      exact (inInside inChildren element member).of_among among
    · have inRest := childless.of_subset (includesAmong_rest_subset _ _)
      exact (inLater inRest element member).of_among among
  | @included properties passed tag id children body pieces rest expanded named refers passes found
      inside later inInside inLater =>
    intro element among
    have split := among
    rw [includesAmong, includesOf, if_pos named] at split
    rcases List.mem_append.1 split with member | member
    · obtain rfl := List.mem_singleton.1 member
      have opens : Opens library ⟨properties, .element tag children :: rest⟩ ⟨tag, children⟩ id
          ⟨passed, body⟩ := ⟨among, refers, passes, found⟩
      obtain rfl := Except.ok.inj
        (passes.symm.trans (passes_of_childless properties (childless _ .refl _ among)))
      have inBody := childless.of_reaches opens.reaches
      have expandable : Expandable library ⟨passed, body⟩ :=
        Scope.expandable_of_each (inInside inBody)
      refine ⟨id, ⟨passed, body⟩, opens, expandable, fun includes => ?_⟩
      -- An include of the fragment that came up in it would open the same scope once more.
      obtain ⟨middle, reaches, again, amongMiddle, refersAgain⟩ := includes
      have sameProperties := properties_eq_of_reaches inBody reaches
      have opensAgain : Opens library middle again id ⟨passed, body⟩ := by
        refine ⟨amongMiddle, refersAgain, ?_, found⟩
        rw [sameProperties]
        exact passes_of_childless passed (inBody middle reaches again amongMiddle)
      exact (expandable.of_reaches reaches).not_includes opensAgain
        ⟨middle, reaches, again, amongMiddle, refersAgain⟩
    · have inRest := childless.of_subset (includesAmong_rest_subset _ _)
      exact (inLater inRest element member).of_among among

/-! ### What expanding includes does -/

/-- Contents have a template: they expand, and what they expand to is compiled to it. -/
def HasTemplate (library : Library) (contents : List Content) (root : Template.Node) : Prop :=
  ∃ expanded, expand library contents = .ok expanded ∧ compile expanded = .ok root

/-- An include names a fragment that is found, and whose markup can be read. -/
def Library.Knows (library : Library) (element : Element) : Prop :=
  ∃ reference body, element.tag.require "refid" = .ok reference ∧
    library.find? (Identifier.resolve library.namespaceName reference) = some (.ok body)

/-- The properties in scope wherever an expansion of contents comes to. -/
def scopesWithin (library : Library) (contents : List Content) : Set Properties :=
  {properties | ∃ middle, Reaches library ⟨[], contents⟩ middle ∧ middle.properties = properties}

/-- Includes that name fragments that are known, and have no element inside, open them. -/
theorem expandable_of_knows (contents : List Content)
    (known : Each library (fun _ element => element.elements = [] ∧ library.Knows element)
      ⟨[], contents⟩) (acyclic : ¬ Cyclic library ⟨[], contents⟩) :
    Expandable library ⟨[], contents⟩ := by
  refine ⟨fun middle reaches element among => ?_, acyclic⟩
  obtain ⟨childless, reference, body, required, found⟩ := known middle reaches element among
  have noProperties : middle.properties = [] := properties_eq_of_reaches
    (fun last later other member => (known last later other member).1) reaches
  refine ⟨_, ⟨[], body⟩, among, ?_, ?_, found⟩
  · rw [noProperties]
    exact includedId_nil library required
  · rw [noProperties]
    exact passes_of_childless [] childless

theorem hasTemplate_of_inlines {inlined : List Content} {root : Template.Node}
    (alike : library.Inlined (scopesWithin library contents) other)
    (inlines : Inlines library (scopesWithin library contents) contents inlined)
    (isTemplate : HasTemplate library contents root) : HasTemplate other inlined root := by
  obtain ⟨expanded, isExpanded, isRoot⟩ := isTemplate
  refine ⟨expanded, expandFrom_inlines alike (List.Subset.refl []) inlines ?_ isExpanded, isRoot⟩
  exact fun middle reaches element among => ⟨middle, reaches, rfl⟩

theorem hasTemplate_of_inlined {inlined : List Content} {root : Template.Node}
    (alike : library.Inlined (scopesWithin library contents) other)
    (inlines : Inlines library (scopesWithin library contents) contents inlined)
    (childless : Each library (fun _ element => element.elements = []) ⟨[], contents⟩)
    (isTemplate : HasTemplate other inlined root) : HasTemplate library contents root := by
  obtain ⟨expanded, isExpanded, isRoot⟩ := isTemplate
  have expansion : Expansion library [] contents expanded :=
    expansion_of_inlined alike inlines (fun middle reaches element among =>
      ⟨⟨middle, reaches, rfl⟩, childless middle reaches element among⟩) isExpanded
  obtain ⟨result, done⟩ := (exists_expand_iff library contents).2 (expansion.expandable childless)
  obtain rfl := (expansion_of_expandFrom [] done).unique expansion
  exact ⟨result, done, isRoot⟩

/-- The expansion of includes ends, is complete and inlines the fragments. No expansion comes up
within others for ever. What there is for a result is what the contents expand to: it has no include
in it, and every other element keeps its name, the keys of its attributes and its place. There is a
result exactly if every include that comes up opens a fragment and no fragment includes itself; in
particular if every such include names a known fragment and has no element inside. Where includes of
own fragments, in the contents or in other fragments, are replaced by what is in the fragment, the
template stays the same; where no include has an element inside, there is also no template that was
not there before. -/
theorem expand_inlines (library : Library) (contents : List Content) :
    (WellFounded fun inner outer : List String × Scope => ∃ element id,
      Opens library outer.2 element id inner.2 ∧ id ∉ outer.1 ∧ inner.1 = outer.1 ++ [id]) ∧
    (∀ expanded, expand library contents = .ok expanded →
      includesAmong expanded = [] ∧ Expansion library [] contents expanded) ∧
    (∀ properties tag, (substituteTag properties tag).name = tag.name ∧
      (substituteTag properties tag).attributes.map Prod.fst = tag.attributes.map Prod.fst) ∧
    ((∃ expanded, expand library contents = .ok expanded) ↔ Expandable library ⟨[], contents⟩) ∧
    (Each library (fun _ element => element.elements = [] ∧ library.Knows element)
        ⟨[], contents⟩ → ¬ Cyclic library ⟨[], contents⟩ →
      ∃ expanded, expand library contents = .ok expanded) ∧
    (Cyclic library ⟨[], contents⟩ → ∃ fault, expand library contents = .error fault) ∧
    ∀ other inlined, library.Inlined (scopesWithin library contents) other →
      Inlines library (scopesWithin library contents) contents inlined → ∀ root,
      (HasTemplate library contents root → HasTemplate other inlined root) ∧
      (Each library (fun _ element => element.elements = []) ⟨[], contents⟩ →
        HasTemplate other inlined root → HasTemplate library contents root) := by
  have whenExpanded := exists_expand_iff library contents
  refine ⟨wellFounded_opens library, ?_, name_substituteTag, whenExpanded, ?_, ?_, ?_⟩
  · intro expanded done
    have expansion := expansion_of_expandFrom [] done
    exact ⟨expansion.includesAmong_eq_nil, expansion⟩
  · intro known acyclic
    exact whenExpanded.2 (expandable_of_knows contents known acyclic)
  · intro cyclic
    rcases isResult : expand library contents with fault | expanded
    · exact ⟨fault, rfl⟩
    · exact absurd cyclic (whenExpanded.1 ⟨expanded, isResult⟩).acyclic
  · intro other inlined alike inlines root
    exact ⟨hasTemplate_of_inlines alike inlines, hasTemplate_of_inlined alike inlines⟩

/-- A fragment that is included twice, neither time by itself. -/
example :
    (expand ⟨"space", [("twice", [.element ⟨"include", [("refid", "once")]⟩ [], .text " or ",
        .element ⟨"include", [("refid", "once")]⟩ []]), ("once", [.text "a"])], .none⟩
      [.element ⟨"include", [("refid", "twice")]⟩ []]).map Markup.toMarkup = .ok "a or a" := by
  decide +kernel

end DynamicSql.Document
