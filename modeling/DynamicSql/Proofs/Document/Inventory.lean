/-
This file lists what the mapper of a document holds, element by element: its statements are those
that the statement elements of the root declare, its result maps those of the `resultMap` elements
and its fragments those of the `sql` elements, each in the order of the elements, one for each, and
no identifier comes twice in one list. Reading walks through the elements once for the fragments
and once for all the rest; each walk adds to the end of the lists, so the lists are related by
induction along it.
-/

import DynamicSql.Proofs.Document.Declaration

namespace DynamicSql.Document

open Markup (Content Element Tag)

/-! ### Elements and what they declare -/

/-- The names of the elements that declare statements. -/
def statementNames : List String :=
  ["select", "insert", "update", "delete"]

/-- The elements directly inside a root that declare statements. -/
def statementElements (elements : List Element) : List Element :=
  elements.filter fun element => statementNames.contains element.tag.name

/-- The elements directly inside a root that declare result maps. -/
def resultMapElements (elements : List Element) : List Element :=
  elements.filter fun element => element.tag.name == "resultMap"

/-- The elements directly inside a root that declare fragments. -/
def fragmentElements (elements : List Element) : List Element :=
  elements.filter fun element => element.tag.name == "sql"

/-- An element has an identifier, which is not blank. -/
def Labels (element : Element) (id : String) : Prop :=
  element.tag.attribute? "id" = some id ∧ Text.isAllBlank id.toList = false

/-- An element declares a statement of the kind that it is named after. -/
structure DeclaresStatement (library : Library) (element : Element) (statement : Statement) :
    Prop where
  named : element.tag.name = statement.kind.name
  labels : Labels element statement.id
  read : readStatement library statement.kind statement.id element = .ok statement

/-- An element declares a result map. -/
structure DeclaresResultMap (namespaceName : String) (element : Element) (map : ResultMap) :
    Prop where
  labels : Labels element map.id
  read : readResultMap namespaceName element = .ok map

/-- An element declares a fragment: it is in the library as it is written, and its markup is what
it expands to. -/
structure DeclaresFragment (library : Library) (element : Element) (fragment : Fragment) :
    Prop where
  labels : Labels element fragment.id
  own : Fields.get? fragment.id library.own = some element.children
  body : ∃ expanded, expand library element.children = .ok expanded ∧
    fragment.body = Markup.toMarkup expanded

theorem isSome_ofName? (name : String) :
    (StatementKind.ofName? name).isSome = statementNames.contains name := by
  rw [Bool.eq_iff_iff, Option.isSome_iff_exists, List.contains_iff_mem]
  simp only [StatementKind.ofName?_eq_some_iff, statementNames, List.mem_cons, List.not_mem_nil,
    or_false]
  constructor
  · rintro ⟨kind, rfl⟩
    cases kind <;> decide
  · rintro (rfl | rfl | rfl | rfl)
    · exact ⟨.select, rfl⟩
    · exact ⟨.insert, rfl⟩
    · exact ⟨.update, rfl⟩
    · exact ⟨.delete, rfl⟩

/-- Of two related lists, each item of the first is related to one of the second. -/
theorem exists_of_forall₂_left {First Second : Type} {related : First → Second → Prop}
    {first : List First} {second : List Second} (areRelated : List.Forall₂ related first second)
    {item : First} (member : item ∈ first) : ∃ other ∈ second, related item other := by
  induction areRelated with
  | nil => cases member
  | cons isFirst later inductionHypothesis =>
    rcases List.mem_cons.1 member with rfl | member
    · exact ⟨_, List.mem_cons_self, isFirst⟩
    · obtain ⟨other, inside, isOther⟩ := inductionHypothesis member
      exact ⟨other, List.mem_cons_of_mem _ inside, isOther⟩

/-- Of two related lists, each item of the second is related to one of the first. -/
theorem exists_of_forall₂_right {First Second : Type} {related : First → Second → Prop}
    {first : List First} {second : List Second} (areRelated : List.Forall₂ related first second)
    {item : Second} (member : item ∈ second) : ∃ other ∈ first, related other item :=
  exists_of_forall₂_left areRelated.flip member

theorem labels_of_require {element : Element} {id : String}
    (done : element.tag.require "id" = .ok id) : Labels element id := by
  unfold Tag.require at done
  split at done
  · next value isValue =>
    split at done
    · cases done
    · next filled =>
      obtain rfl := Except.ok.inj done
      exact ⟨isValue, Bool.eq_false_iff.2 filled⟩
  · cases done

theorem labels_of_requireSetting {element : Element} {id : String}
    (done : requireSetting element.tag "id" = .ok id) : Labels element id :=
  labels_of_require (eq_ok_of_mapError_eq_ok done)

theorem labels_of_requireId {location : Location} {element : Element} {id : String}
    (done : requireId location element = .ok id) : Labels element id :=
  labels_of_requireSetting (eq_ok_of_mapError_eq_ok (eq_ok_of_mapError_eq_ok done))

/-! ### Statements and result maps -/

/-- Elements add, in their order, the statements and the result maps that they declare. -/
theorem exists_of_declareEach {location : Location} {library : Library} {mapper later : Mapper}
    {elements : List Element} (done : declareEach location library mapper elements = .ok later) :
    ∃ statements maps,
      List.Forall₂ (DeclaresStatement library) (statementElements elements) statements ∧
      List.Forall₂ (DeclaresResultMap mapper.namespaceName) (resultMapElements elements) maps ∧
      later = { mapper with
        statements := mapper.statements ++ statements
        resultMaps := mapper.resultMaps ++ maps } := by
  induction elements generalizing mapper with
  | nil =>
    obtain rfl := Except.ok.inj done
    exact ⟨[], [], .nil, .nil, by rw [List.append_nil, List.append_nil]⟩
  | cons element rest inductionHypothesis =>
    rw [statementElements, resultMapElements, List.filter_cons, List.filter_cons,
      ← isSome_ofName?]
    unfold declareEach at done
    split at done
    · next kind isKind =>
      have noMap : (element.tag.name == "resultMap") = false := by
        rw [beq_eq_false_iff_ne]
        rintro named
        rw [named] at isKind
        cases isKind
      obtain ⟨next, isNext, done⟩ := exists_of_bind_eq_ok done
      obtain ⟨statement, isId, read, -, rfl⟩ := exists_of_declareStatement isNext
      obtain ⟨statements, maps, areStatements, areMaps, rfl⟩ := inductionHypothesis done
      have isSame := (isStatementOf_of_readStatement read).kind
      refine ⟨statement :: statements, maps, ?_, ?_, ?_⟩
      · rw [isKind, Option.isSome_some, if_pos rfl]
        have named := StatementKind.ofName?_eq_some_iff.1 isKind
        refine .cons ⟨isSame ▸ named, labels_of_requireId isId, ?_⟩ areStatements
        rw [isSame]
        exact read
      · rw [noMap, if_neg Bool.false_ne_true]
        exact areMaps
      · rw [List.append_cons mapper.statements statement statements]
    · next isNone =>
      rw [isNone, Option.isSome_none, if_neg Bool.false_ne_true]
      split at done
      · next named =>
        obtain ⟨next, isNext, done⟩ := exists_of_bind_eq_ok done
        obtain ⟨map, read, -, rfl⟩ := exists_of_declareResultMap isNext
        obtain ⟨statements, maps, areStatements, areMaps, rfl⟩ := inductionHypothesis done
        refine ⟨statements, map :: maps, areStatements, ?_, ?_⟩
        · rw [if_pos (beq_iff_eq.2 named)]
          exact .cons ⟨labels_of_requireSetting (labels_of_readResultMap read).2, read⟩ areMaps
        · rw [List.append_cons mapper.resultMaps map maps]
      · next other =>
        rw [if_neg fun named => other (beq_iff_eq.1 named)]
        split at done
        · exact inductionHypothesis done
        · cases done

/-- Distinct identifiers stay distinct when an item is put behind them whose identifier finds
none of them. -/
theorem nodup_append_of_find? {Item : Type} {idOf : Item → String} {items : List Item}
    {item : Item} (distinct : (items.map idOf).Nodup)
    (fresh : items.find? (fun other => idOf other == idOf item) = none) :
    ((items ++ [item]).map idOf).Nodup := by
  rw [List.map_append]
  refine List.nodup_append.2 ⟨distinct, by simp, ?_⟩
  intro first member last isLast same
  obtain ⟨other, old, rfl⟩ := List.mem_map.1 member
  obtain rfl : last = idOf item := by simpa using isLast
  exact List.find?_eq_none.1 fresh other old (beq_iff_eq.2 same)

/-- Distinct identifiers of statements, and of result maps, stay distinct. -/
theorem nodup_declareEach {location : Location} {library : Library} {mapper later : Mapper}
    {elements : List Element} (done : declareEach location library mapper elements = .ok later)
    (statements : (mapper.statements.map Statement.id).Nodup)
    (resultMaps : (mapper.resultMaps.map ResultMap.id).Nodup) :
    (later.statements.map Statement.id).Nodup ∧ (later.resultMaps.map ResultMap.id).Nodup :=
  declareEach_induction
    (motive := fun mapper => (mapper.statements.map Statement.id).Nodup ∧
      (mapper.resultMaps.map ResultMap.id).Nodup)
    (fun _ _ _ _ holds _ fresh => ⟨nodup_append_of_find? holds.1 fresh, holds.2⟩)
    (fun _ _ _ holds _ fresh => ⟨holds.1, nodup_append_of_find? holds.2 fresh⟩)
    ⟨statements, resultMaps⟩ done

/-! ### Fragments -/

/-- Elements add, in their order, the fragments that they declare; distinct names stay distinct. -/
theorem exists_of_declareFragments {location : Location} {declared own : Fields (List Content)}
    {elements : List Element} (done : declareFragments location declared elements = .ok own) :
    (∃ added, own = declared ++ added ∧ List.Forall₂ (fun element field =>
      Labels element field.1 ∧ field.2 = element.children) elements added) ∧
    ((Fields.names declared).Nodup → (Fields.names own).Nodup) := by
  induction elements generalizing declared with
  | nil =>
    obtain rfl := Except.ok.inj done
    exact ⟨⟨[], (List.append_nil _).symm, .nil⟩, id⟩
  | cons element rest inductionHypothesis =>
    unfold declareFragments at done
    obtain ⟨id, isId, done⟩ := exists_of_bind_eq_ok done
    split at done
    · cases done
    · next fresh =>
      obtain ⟨⟨added, rfl, areAdded⟩, distinct⟩ := inductionHypothesis done
      refine ⟨⟨(id, element.children) :: added, (List.append_cons ..).symm,
        .cons ⟨labels_of_requireId isId, rfl⟩ areAdded⟩, fun before => distinct ?_⟩
      unfold Fields.names at before ⊢
      rw [List.map_append]
      refine List.nodup_append.2 ⟨before, by simp, ?_⟩
      intro name member last isLast same
      obtain rfl : last = id := by simpa using isLast
      obtain ⟨entry, found⟩ := Fields.exists_get?_of_mem_names (same ▸ member)
      exact fresh (Option.isSome_iff_exists.2 ⟨entry, found⟩)

/-- Elements declare fragments if they add fields that expand to these. -/
theorem forall₂_declaresFragment {library : Library} {elements : List Element}
    {added : Fields (List Content)} {fragments : List Fragment}
    (distinct : (Fields.names library.own).Nodup) (subset : added ⊆ library.own)
    (adds : List.Forall₂ (fun element field => Labels element field.1 ∧
      field.2 = element.children) elements added)
    (expands : List.Forall₂ (fun field fragment => fragment.id = field.1 ∧ ∃ expanded,
      expand library field.2 = .ok expanded ∧ fragment.body = Markup.toMarkup expanded)
      added fragments) :
    List.Forall₂ (DeclaresFragment library) elements fragments := by
  induction adds generalizing fragments with
  | nil =>
    cases expands
    exact .nil
  | @cons element field _ _ first later inductionHypothesis =>
    obtain ⟨member, others⟩ := List.cons_subset.1 subset
    obtain ⟨labels, isContents⟩ := first
    cases expands with
    | cons isFirst isRest =>
      obtain ⟨sameId, expanded, isExpanded, isBody⟩ := isFirst
      have found := Fields.get?_of_mem distinct member
      rw [isContents] at isExpanded found
      refine .cons ⟨sameId ▸ labels, sameId ▸ found, expanded, isExpanded, isBody⟩ ?_
      exact inductionHypothesis others isRest

/-! ### Documents -/

/-- The namespace of a document is what its attribute says, without the blanks around it; blanks
alone are none. -/
theorem namespaceOf?_eq_some_iff {tag : Tag} {namespaceName : String} :
    namespaceOf? tag = some namespaceName ↔ ∃ text, tag.attribute? "namespace" = some text ∧
      Text.isAllBlank text.toList = false ∧ namespaceName = Text.trimmed text := by
  unfold namespaceOf?
  constructor
  · intro found
    obtain ⟨isTrimmed, named⟩ := Option.filter_eq_some_iff.1 found
    obtain ⟨text, isText, rfl⟩ := Option.map_eq_some_iff.1 isTrimmed
    refine ⟨text, isText, Bool.eq_false_iff.2 fun allBlank => ?_, rfl⟩
    rw [Text.trimmed, Text.trim_eq_nil_iff.2 allBlank] at named
    cases named
  · rintro ⟨text, isText, ink, rfl⟩
    refine Option.filter_eq_some_iff.2 ⟨Option.map_eq_some_iff.2 ⟨text, isText, rfl⟩, ?_⟩
    refine decide_eq_true fun empty => ?_
    rw [Text.trimmed, ← String.toList_inj, String.toList_ofList] at empty
    rw [Text.trim_eq_nil_iff.1 empty] at ink
    cases ink

/-- What the mapper of a document holds, as the elements inside the root declare it. -/
structure Inventory (elements : List Element) (library : Library) (mapper : Mapper) : Prop where
  namespaceName : mapper.namespaceName = library.namespaceName
  statements : List.Forall₂ (DeclaresStatement library) (statementElements elements)
    mapper.statements
  resultMaps : List.Forall₂ (DeclaresResultMap library.namespaceName)
    (resultMapElements elements) mapper.resultMaps
  fragments : List.Forall₂ (DeclaresFragment library) (fragmentElements elements)
    mapper.fragments
  distinctStatements : (mapper.statements.map Statement.id).Nodup
  distinctResultMaps : (mapper.resultMaps.map ResultMap.id).Nodup
  distinctFragments : (mapper.fragments.map Fragment.id).Nodup

/-- The mapper of a document is the inventory of its root. -/
theorem exists_inventory_of_read {source : String} {file : Option String}
    {outside : FragmentSource} {mapper : Mapper} (done : read source file outside = .ok mapper) :
    ∃ root own, Element.read source.toList = .ok root ∧ root.tag.name = "mapper" ∧
      namespaceOf? root.tag = some mapper.namespaceName ∧
      Inventory root.elements ⟨mapper.namespaceName, own, outside⟩ mapper := by
  obtain ⟨root, namespaceName, own, fragments, reading, areFragments, isMapper⟩ :=
    read_eq_ok_iff.1 done
  obtain ⟨statements, maps, areStatements, areMaps, rfl⟩ := exists_of_declareEach isMapper
  obtain ⟨distinctStatements, distinctMaps⟩ :=
    nodup_declareEach isMapper List.nodup_nil List.nodup_nil
  obtain ⟨⟨added, isAdded, adds⟩, keepsDistinct⟩ :=
    exists_of_declareFragments reading.fragments
  obtain rfl : own = added := isAdded
  have distinct := keepsDistinct List.nodup_nil
  refine ⟨root, own, reading.markup, reading.named, reading.space, rfl, areStatements, areMaps,
    ?_, distinctStatements, distinctMaps, ?_⟩
  · exact forall₂_declaresFragment distinct (List.Subset.refl own) adds
      (forall₂_expandFragments areFragments)
  · rw [id_expandFragments areFragments]
    exact distinct

end DynamicSql.Document
