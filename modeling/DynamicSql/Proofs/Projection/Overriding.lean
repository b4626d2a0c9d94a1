/-
This file says whose rules decide about a property when a result map extends another one. A rule of
the parent is left out if the child has one for the property in the same list, and only then. But a
record is filled from three lists, one after the other: what tells records apart, what does not,
and what is nested. So a child that declares the property in another list than its parent keeps the
rule of the parent besides its own, and the later of the two lists prevails. The child's rules
decide alone exactly if the parent has rules for the property in no other list than the child.
-/

import DynamicSql.Proofs.Mapper.Layers
import DynamicSql.Proofs.Projection.Properties
import DynamicSql.Proofs.Projection.Termination
import DynamicSql.Proofs.Registry.Flattening

namespace DynamicSql

namespace ResultMap

/-! ### Rules of a child and its parent -/

/-- Two result maps have the same rules for a property, in each of the three lists. -/
structure SameRules (name : String) (map other : ResultMap) : Prop where
  ids : rulesFor Mapping.property name map.ids = rulesFor Mapping.property name other.ids
  results :
    rulesFor Mapping.property name map.results = rulesFor Mapping.property name other.results
  nested : rulesFor Nested.property name map.nested = rulesFor Nested.property name other.nested

/-- A child covers a property if its parent has rules for it in no other list than the child. -/
structure Covers (child parent : ResultMap) (name : String) : Prop where
  ids : lacks Mapping.property name child.ids = true →
    lacks Mapping.property name parent.ids = true
  results : lacks Mapping.property name child.results = true →
    lacks Mapping.property name parent.results = true
  nested : lacks Nested.property name child.nested = true →
    lacks Nested.property name parent.nested = true

/-- A child whose lists are those of its parent where they have nothing for a property. -/
def prevailing (child parent : ResultMap) (name : String) : ResultMap :=
  { child with
    ids := if lacks Mapping.property name child.ids then parent.ids else child.ids
    results := if lacks Mapping.property name child.results then parent.results else child.results
    nested := if lacks Nested.property name child.nested then parent.nested else child.nested }

/-- A result map has a rule for a property in one of its lists. -/
def declares (map : ResultMap) (name : String) : Bool :=
  !(lacks Mapping.property name map.ids && lacks Mapping.property name map.results &&
    lacks Nested.property name map.nested)

/-- In each list the child prevails if it has something for the property, and else the parent. -/
theorem sameRules_prevailing (child parent : ResultMap) (name : String) :
    SameRules name (child.inherit parent) (child.prevailing parent name) :=
  ⟨rulesFor_merge _ name _ _, rulesFor_merge _ name _ _, rulesFor_merge _ name _ _⟩

/-- Nothing of the parent remains for a property exactly if the child covers it. -/
theorem sameRules_iff_covers (child parent : ResultMap) (name : String) :
    SameRules name (child.inherit parent) child ↔ child.Covers parent name := by
  constructor
  · rintro ⟨ids, results, nested⟩
    exact ⟨(rulesFor_merge_eq_iff _ name _ _).1 ids, (rulesFor_merge_eq_iff _ name _ _).1 results,
      (rulesFor_merge_eq_iff _ name _ _).1 nested⟩
  · rintro ⟨ids, results, nested⟩
    exact ⟨(rulesFor_merge_eq_iff _ name _ _).2 ids, (rulesFor_merge_eq_iff _ name _ _).2 results,
      (rulesFor_merge_eq_iff _ name _ _).2 nested⟩

end ResultMap

namespace Projection

open ResultMap (rulesFor SameRules)

variable {registry : Registry} {name : String} {map other : ResultMap}

/-! ### Rules that decide -/

theorem lastLeading?_rulesFor (registry : Registry) (name : String)
    (rules : List (Nested ResultMap)) :
    lastLeading? registry name (rulesFor Nested.property name rules) =
      lastLeading? registry name rules :=
  ResultMap.findSome?_rulesFor _ (fun _ different => if_neg different) rules

theorem plainValue?_eq_of_sameRules (same : SameRules name map other) (start : String) (row : Row) :
    plainValue? map start row name = plainValue? other start row name := by
  have last (rules : List Mapping) :
      (rulesFor Mapping.property name rules).reverse.findSome? (mappedTo? row start name) =
        rules.reverse.findSome? (mappedTo? row start name) :=
    ResultMap.findSome?_rulesFor _ (fun _ different => if_neg different) rules
  unfold plainValue? ResultMap.mappings
  rw [List.reverse_append, List.findSome?_append, ← last, ← last map.ids, same.results, same.ids,
    last, last, ← List.findSome?_append, ← List.reverse_append]

/-- What a property is given depends on the rules for it alone, and on whether there is
auto-mapping. -/
theorem Gives.of_sameRules {trail : Trail} {shape : Shaping} {first : Row} {rest : List Row}
    {start : String} {value? : Option Value}
    (gives : Gives registry trail shape first rest map start name value?)
    (same : SameRules name map other) (sameAuto : map.autoMapping = other.autoMapping) :
    Gives registry trail shape first rest other start name value? := by
  have sameNested : lastLeading? registry name map.nested =
      lastLeading? registry name other.nested := by
    rw [← lastLeading?_rulesFor, same.nested, lastLeading?_rulesFor]
  have samePlain := plainValue?_eq_of_sameRules same start first
  cases gives with
  | nested decides gives => exact .nested (sameNested.symm.trans decides) gives
  | plain noNested found =>
    exact .plain (sameNested.symm.trans noNested) (samePlain.symm.trans found)
  | unmapped noNested noPlain autoMaps isColumn named =>
    exact .unmapped (sameNested.symm.trans noNested) (samePlain.symm.trans noPlain)
      (sameAuto.symm.trans autoMaps) isColumn named
  | nothing noNested noPlain =>
    exact .nothing (sameNested.symm.trans noNested) (samePlain.symm.trans noPlain)

/-- The record of one row has what the result map gives. -/
theorem exists_gives_of_projectRow {row : Row} {value : Value}
    (done : projectRow registry map row = .ok value) :
    ∃ fields, value = .record map.typeName fields ∧ ∀ name,
      Gives registry [(map.qualifiedId, "")]
        (shapeBehind registry [row] [(map.qualifiedId, "")]) row [] map "" name
        (Fields.get? name fields) := by
  unfold projectRow at done
  obtain ⟨record, shaped, rfl⟩ := exists_of_map_eq_ok done
  exact ⟨record.fields, rfl, fun name => gives_of_shapeRecord name shaped⟩

/-- A child that covers a property decides about it alone: no rule of the parent for it remains, and
in every record, at the top or nested, the property has what the child's own rules give. Without
covering it a rule of the parent remains; then in each list those of the child count if it has any
and else those of the parent, and the property has what the last of the lists gives that gives
anything. -/
theorem inherit_overrides_iff_covers (registry : Registry) (child parent : ResultMap)
    (name : String) :
    (SameRules name (child.inherit parent) child ↔ child.Covers parent name) ∧
    SameRules name (child.inherit parent) (child.prevailing parent name) ∧
    (∀ trail shape first rest start used record,
      shapeRecord registry trail shape (first :: rest) (child.inherit parent) start used =
        .ok record →
      Gives registry trail shape first rest (child.prevailing parent name) start name
          (Fields.get? name record.fields) ∧
        (child.Covers parent name → Gives registry trail shape first rest child start name
          (Fields.get? name record.fields))) ∧
    ∀ row value, projectRow registry (child.inherit parent) row = .ok value →
      ∃ fields, value = .record (child.typeName.or parent.typeName) fields ∧
        Gives registry [(child.qualifiedId, "")]
          (shapeBehind registry [row] [(child.qualifiedId, "")]) row []
          (child.prevailing parent name) "" name (Fields.get? name fields) ∧
        (child.Covers parent name → Gives registry [(child.qualifiedId, "")]
          (shapeBehind registry [row] [(child.qualifiedId, "")]) row [] child "" name
          (Fields.get? name fields)) := by
  have prevails := ResultMap.sameRules_prevailing child parent name
  have isIff := ResultMap.sameRules_iff_covers child parent name
  refine ⟨isIff, prevails, ?_, ?_⟩
  · intro trail shape first rest start used record shaped
    have gives := gives_of_shapeRecord name shaped
    exact ⟨gives.of_sameRules prevails rfl,
      fun covers => gives.of_sameRules (isIff.2 covers) rfl⟩
  · intro row value projected
    obtain ⟨fields, isRecord, gives⟩ := exists_gives_of_projectRow projected
    exact ⟨fields, isRecord, (gives name).of_sameRules prevails rfl,
      fun covers => (gives name).of_sameRules (isIff.2 covers) rfl⟩

/-! ### An author who is a person -/

/-- A person. -/
def personMap : ResultMap where
  namespaceName := "space"
  id := "person"
  typeName := some "person"
  extended := none
  autoMapping := false
  ids := []
  results := [⟨"name", "person_name", none, none⟩, ⟨"mail", "person_mail", none, none⟩]
  nested := []

/-- An author, whose name and mail are in columns of their own. The name tells authors apart. -/
def authorMap : ResultMap where
  namespaceName := "space"
  id := "author"
  typeName := none
  extended := some "space.person"
  autoMapping := false
  ids := [⟨"name", "author_name", none, none⟩]
  results := [⟨"mail", "author_mail", none, none⟩]
  nested := []

/-- A registry of the two result maps. -/
def people : Registry :=
  ⟨.standard, [⟨"space", [], [personMap, authorMap], []⟩]⟩

theorem people_author :
    people.resultMap "space.author" = .ok (authorMap.inherit personMap) := by
  have isAuthor : people.declaredMap? "space.author" = some authorMap := rfl
  have isPerson : people.declaredMap? "space.person" = some personMap := rfl
  rw [← Registry.inheritBy_nil, Registry.inheritBy_of_declared isAuthor,
    Registry.inheritFrom_of_extended rfl List.not_mem_nil,
    Registry.inheritBy_of_declared isPerson, Registry.inheritFrom_of_ends rfl]
  rfl

/-- A row with the columns of both. -/
def authorRow : Row :=
  [("person_name", .int64 1), ("person_mail", .int64 2), ("author_name", .int64 3),
    ("author_mail", .int64 4)]

/-- The JSON text of a property. -/
def textOf (name : String) (record : Value) : Option String :=
  (record.get? name).map fun value => value.toJson.render

theorem inherit_overrides_iff_covers_author :
    authorMap.Covers personMap "mail" ∧ ∃ fields,
      projectRow people (authorMap.inherit personMap) authorRow =
        .ok (.record (some "person") fields) ∧
      Fields.get? "mail" fields = some (.int64 4) := by
  have covers : authorMap.Covers personMap "mail" :=
    ⟨fun _ => by decide, fun lacking => absurd lacking (by decide), fun _ => by decide⟩
  have done : (projectRow people (authorMap.inherit personMap) authorRow).isOk = true := by
    decide +kernel
  obtain ⟨value, projected⟩ := isOk_iff_exists.1 done
  obtain ⟨-, -, -, ofRow⟩ := inherit_overrides_iff_covers people authorMap personMap "mail"
  obtain ⟨fields, rfl, -, whenCovered⟩ := ofRow _ _ projected
  have own : plainValue? authorMap "" authorRow "mail" = some (.int64 4) := rfl
  refine ⟨covers, fields, projected, ?_⟩
  generalize Fields.get? "mail" fields = value? at whenCovered ⊢
  cases whenCovered covers with
  | nested leads => cases leads
  | plain _ found => rw [← found, own]
  | unmapped _ noPlain => cases noPlain
  | nothing _ noPlain => cases noPlain

/-- A child that declares a property need not override it: the name of the person remains besides
that of the author, and it is the one that the record has. -/
theorem not_inherit_overrides :
    (¬ ∀ (child parent : ResultMap) (name : String), child.declares name = true →
      SameRules name (child.inherit parent) child) ∧
    ¬ ∀ (registry : Registry) (id : String) (child parent : ResultMap) (name : String) (row : Row)
      (typeName : Option String) (fields : Fields Value),
      child.declares name = true → registry.resultMap id = .ok (child.inherit parent) →
      registry.project id row = .ok (.record typeName fields) →
      Gives registry [(child.qualifiedId, "")]
        (shapeBehind registry [row] [(child.qualifiedId, "")]) row [] child "" name
        (Fields.get? name fields) := by
  constructor
  · intro overrides
    have same := (overrides authorMap personMap "name" rfl).results
    exact absurd same (by decide)
  · intro decides
    have one : (people.project "space.author" authorRow).toOption.bind (textOf "name") =
        some "1" := by
      decide +kernel
    have own : plainValue? authorMap "" authorRow "name" = some (.int64 3) := rfl
    obtain ⟨value, isResult, parentsName⟩ := Option.bind_eq_some_iff.1 one
    have projected := toOption_eq_some_iff.1 isResult
    have ofRow := projected
    rw [Registry.project_of_resolved people_author] at ofRow
    obtain ⟨fields, rfl, -⟩ := exists_gives_of_projectRow ofRow
    have given := decides people _ authorMap personMap "name" _ _ _ rfl people_author projected
    change (Fields.get? "name" fields).map _ = some "1" at parentsName
    generalize Fields.get? "name" fields = value? at given parentsName
    cases given with
    | nested leads => cases leads
    | plain _ found =>
      obtain rfl := Option.some.inj (own.symm.trans found)
      exact absurd parentsName (by decide +kernel)
    | unmapped _ noPlain => cases noPlain
    | nothing _ noPlain => cases noPlain

end Projection

end DynamicSql
