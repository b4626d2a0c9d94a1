/-
This file says what reading a document takes, step by step, and what is in the mapper that comes out
of it. All statements and result maps are added one after the other, so what each addition keeps
holds at the end: they carry the namespace of the mapper and are found by their identifiers. The
fragments are those of the document. What is read stays the same if more fragments can be found
outside.
-/

import DynamicSql.Document.Reader
import DynamicSql.Proofs.Document.Expansion
import Mathlib.Data.List.Forall2

namespace DynamicSql

/-- All that a mapper holds carries its namespace and is found by its identifier. -/
structure Mapper.IsLabelled (mapper : Mapper) : Prop where
  statements : ∀ statement ∈ mapper.statements,
    statement.namespaceName = mapper.namespaceName ∧
      mapper.statement? statement.id = some statement
  resultMaps : ∀ map ∈ mapper.resultMaps, map.namespaceName = mapper.namespaceName ∧
    mapper.resultMap? map.id = some map

theorem Mapper.id_of_statement? {mapper : Mapper} {id : String} {statement : Statement}
    (found : mapper.statement? id = some statement) :
    statement ∈ mapper.statements ∧ statement.id = id :=
  ⟨List.mem_of_find?_eq_some found, by simpa using List.find?_some found⟩

theorem Mapper.id_of_resultMap? {mapper : Mapper} {id : String} {map : ResultMap}
    (found : mapper.resultMap? id = some map) : map ∈ mapper.resultMaps ∧ map.id = id :=
  ⟨List.mem_of_find?_eq_some found, by simpa using List.find?_some found⟩

namespace Document

open Markup (Content Element Tag)

/-! ### Statements and result maps -/

/-- The statement that an element of a kind declares under an identifier, which has no point in it:
it carries the namespace of the document, and its body and its template are those of the contents
of the element. -/
structure IsStatementOf (library : Library) (kind : StatementKind) (localId : String)
    (element : Element) (statement : Statement) : Prop where
  namespaceName : statement.namespaceName = library.namespaceName
  id : statement.id = localId
  kind : statement.kind = kind
  plain : '.' ∉ localId.toList
  body : statement.body = Markup.toMarkup element.children
  template : ∃ expanded, expand library element.children = .ok expanded ∧
    compile expanded = .ok statement.root

theorem isStatementOf_of_readStatement {library : Library} {kind : StatementKind}
    {localId : String} {element : Element} {statement : Statement}
    (done : readStatement library kind localId element = .ok statement) :
    IsStatementOf library kind localId element statement := by
  unfold readStatement at done
  split at done
  · cases done
  · next plain =>
    obtain ⟨expanded, isExpanded, done⟩ := exists_of_bind_eq_ok done
    obtain ⟨root, isRoot, done⟩ := exists_of_bind_eq_ok done
    obtain ⟨generatedKeys, -, done⟩ := exists_of_bind_eq_ok done
    obtain ⟨useCache, -, done⟩ := exists_of_bind_eq_ok done
    obtain ⟨timeout, -, done⟩ := exists_of_bind_eq_ok done
    obtain ⟨fetchSize, -, done⟩ := exists_of_bind_eq_ok done
    obtain rfl := Except.ok.inj done
    exact ⟨rfl, rfl, rfl, plain, rfl, expanded, eq_ok_of_mapError_eq_ok isExpanded,
      eq_ok_of_mapError_eq_ok isRoot⟩

/-- Mappings are put into a result map without a change to what it is found by. -/
def SameLabels (map later : ResultMap) : Prop :=
  later.namespaceName = map.namespaceName ∧ later.id = map.id

theorem sameLabels_withArguments {map later : ResultMap} {arguments : List Element}
    (done : withArguments map arguments = .ok later) : SameLabels map later := by
  induction arguments generalizing map with
  | nil =>
    obtain rfl := Except.ok.inj done
    exact ⟨rfl, rfl⟩
  | cons argument rest inductionHypothesis =>
    unfold withArguments at done
    split at done
    · obtain ⟨rule, -, done⟩ := exists_of_bind_eq_ok done
      have same : SameLabels (withId map rule) later := inductionHypothesis done
      exact same
    · split at done
      · obtain ⟨rule, -, done⟩ := exists_of_bind_eq_ok done
        have same : SameLabels (withResult map rule) later := inductionHypothesis done
        exact same
      · cases done

theorem sameLabels_declareRule {map later : ResultMap} {content : Content}
    (done : declareRule map content = .ok later) : SameLabels map later := by
  unfold declareRule at done
  split at done
  · obtain rfl := Except.ok.inj done
    exact ⟨rfl, rfl⟩
  · split at done
    · obtain ⟨rule, -, rfl⟩ := exists_of_map_eq_ok done
      exact ⟨rfl, rfl⟩
    · split at done
      · obtain ⟨rule, -, rfl⟩ := exists_of_map_eq_ok done
        exact ⟨rfl, rfl⟩
      · split at done
        · exact sameLabels_withArguments done
        · split at done
          · obtain rfl := Except.ok.inj done
            exact ⟨rfl, rfl⟩
          · split at done
            · cases done
            · obtain ⟨property, -, done⟩ := exists_of_bind_eq_ok done
              obtain ⟨target, -, done⟩ := exists_of_bind_eq_ok done
              obtain rfl := Except.ok.inj done
              exact ⟨rfl, rfl⟩

theorem sameLabels_declareRules {map later : ResultMap} {contents : List Content}
    (done : declareRules map contents = .ok later) : SameLabels map later := by
  induction contents generalizing map with
  | nil =>
    unfold declareRules at done
    obtain rfl := Except.ok.inj done
    exact ⟨rfl, rfl⟩
  | cons content rest inductionHypothesis =>
    unfold declareRules at done
    obtain ⟨next, isNext, done⟩ := exists_of_bind_eq_ok done
    obtain ⟨sameNamespace, sameId⟩ := sameLabels_declareRule isNext
    obtain ⟨laterNamespace, laterId⟩ := inductionHypothesis done
    exact ⟨laterNamespace.trans sameNamespace, laterId.trans sameId⟩

/-- A result map that has been read carries the namespace and the identifier of its element. -/
theorem labels_of_readResultMap {namespaceName : String} {element : Element} {map : ResultMap}
    (done : readResultMap namespaceName element = .ok map) :
    map.namespaceName = namespaceName ∧ requireSetting element.tag "id" = .ok map.id := by
  unfold readResultMap at done
  obtain ⟨id, isId, done⟩ := exists_of_bind_eq_ok done
  obtain ⟨⟨start, decided⟩, isStart, done⟩ := exists_of_bind_eq_ok done
  unfold emptyMap at isStart
  obtain ⟨autoMapping, -, isStart⟩ := exists_of_bind_eq_ok isStart
  obtain ⟨rfl, -⟩ := Prod.mk.inj (Except.ok.inj isStart)
  obtain ⟨sameNamespace, sameId⟩ := sameLabels_declareRules done
  exact ⟨sameNamespace, (eq_ok_of_mapError_eq_ok isId).trans (congrArg Except.ok sameId.symm)⟩

/-! ### What elements declare -/

theorem exists_of_declareStatement {location : Location} {library : Library}
    {mapper later : Mapper} {kind : StatementKind} {element : Element}
    (done : declareStatement location library mapper kind element = .ok later) :
    ∃ statement, requireId location element = .ok statement.id ∧
      readStatement library kind statement.id element = .ok statement ∧
      mapper.statement? statement.id = none ∧
      later = { mapper with statements := mapper.statements ++ [statement] } := by
  unfold declareStatement at done
  obtain ⟨id, isId, behindId⟩ := exists_of_bind_eq_ok done
  obtain ⟨statement, isStatement, behindStatement⟩ := exists_of_bind_eq_ok behindId
  have read := eq_ok_of_mapError_eq_ok isStatement
  split at behindStatement
  · cases behindStatement
  · next fresh =>
    obtain rfl := (isStatementOf_of_readStatement read).id
    exact ⟨statement, isId, read, Option.not_isSome_iff_eq_none.1 fresh,
      (Except.ok.inj behindStatement).symm⟩

theorem exists_of_declareResultMap {location : Location} {mapper later : Mapper}
    {element : Element} (done : declareResultMap location mapper element = .ok later) :
    ∃ map, readResultMap mapper.namespaceName element = .ok map ∧
      mapper.resultMap? map.id = none ∧
      later = { mapper with resultMaps := mapper.resultMaps ++ [map] } := by
  unfold declareResultMap at done
  obtain ⟨map, isMap, done⟩ := exists_of_bind_eq_ok done
  split at done
  · cases done
  · next fresh =>
    exact ⟨map, eq_ok_of_mapError_eq_ok (eq_ok_of_mapError_eq_ok isMap),
      Option.not_isSome_iff_eq_none.1 fresh, (Except.ok.inj done).symm⟩

/-- What holds of a mapper, and goes on to hold when a statement or a result map with a new
identifier is put at the end, holds of the mapper with all that elements declare. -/
theorem declareEach_induction {location : Location} {library : Library} {motive : Mapper → Prop}
    (addStatement : ∀ mapper statement kind element, motive mapper →
      readStatement library kind statement.id element = .ok statement →
      mapper.statement? statement.id = none →
      motive { mapper with statements := mapper.statements ++ [statement] })
    (addResultMap : ∀ mapper map element, motive mapper →
      readResultMap mapper.namespaceName element = .ok map → mapper.resultMap? map.id = none →
      motive { mapper with resultMaps := mapper.resultMaps ++ [map] })
    {mapper later : Mapper} {elements : List Element} (holds : motive mapper)
    (done : declareEach location library mapper elements = .ok later) : motive later := by
  induction elements generalizing mapper with
  | nil =>
    obtain rfl := Except.ok.inj done
    exact holds
  | cons element rest inductionHypothesis =>
    unfold declareEach at done
    split at done
    · next kind isKind =>
      obtain ⟨next, isNext, done⟩ := exists_of_bind_eq_ok done
      obtain ⟨statement, -, read, fresh, rfl⟩ := exists_of_declareStatement isNext
      exact inductionHypothesis (addStatement mapper statement kind element holds read fresh) done
    · split at done
      · obtain ⟨next, isNext, done⟩ := exists_of_bind_eq_ok done
        obtain ⟨map, read, fresh, rfl⟩ := exists_of_declareResultMap isNext
        exact inductionHypothesis (addResultMap mapper map element holds read fresh) done
      · split at done
        · exact inductionHypothesis holds done
        · cases done

/-- An item that is found among others is found with more behind them. -/
theorem find?_append_of_find? {Item : Type} {condition : Item → Bool} {items : List Item}
    {item : Item} (found : items.find? condition = some item) (more : List Item) :
    (items ++ more).find? condition = some item := by
  rw [List.find?_append, found]
  rfl

/-- What is put behind items, and is the first to have its identifier, is found by it. -/
theorem find?_append_self {Item : Type} {condition : Item → Bool} {items : List Item}
    (none : items.find? condition = none) {item : Item} (holds : condition item = true) :
    (items ++ [item]).find? condition = some item := by
  rw [List.find?_append, none]
  simp [holds]

theorem isLabelled_declareEach {location : Location} {library : Library} {mapper later : Mapper}
    {elements : List Element} (labelled : mapper.IsLabelled)
    (sameNamespace : mapper.namespaceName = library.namespaceName)
    (done : declareEach location library mapper elements = .ok later) : later.IsLabelled := by
  refine (declareEach_induction
    (motive := fun mapper => mapper.IsLabelled ∧ mapper.namespaceName = library.namespaceName)
    ?_ ?_ ⟨labelled, sameNamespace⟩ done).1
  · rintro mapper statement kind element ⟨labelled, same⟩ read fresh
    refine ⟨⟨fun other member => ?_, labelled.resultMaps⟩, same⟩
    rcases List.mem_append.1 member with old | new
    · obtain ⟨isNamespace, found⟩ := labelled.statements other old
      exact ⟨isNamespace, find?_append_of_find? found [statement]⟩
    · obtain rfl := List.mem_singleton.1 new
      exact ⟨(isStatementOf_of_readStatement read).namespaceName.trans same.symm,
        find?_append_self fresh (beq_self_eq_true _)⟩
  · rintro mapper map element ⟨labelled, same⟩ read fresh
    refine ⟨⟨labelled.statements, fun other member => ?_⟩, same⟩
    rcases List.mem_append.1 member with old | new
    · obtain ⟨isNamespace, found⟩ := labelled.resultMaps other old
      exact ⟨isNamespace, find?_append_of_find? found [map]⟩
    · obtain rfl := List.mem_singleton.1 new
      exact ⟨(labels_of_readResultMap read).1, find?_append_self fresh (beq_self_eq_true _)⟩

theorem fragments_declareEach {location : Location} {library : Library} {mapper later : Mapper}
    {elements : List Element} (done : declareEach location library mapper elements = .ok later) :
    later.namespaceName = mapper.namespaceName ∧ later.fragments = mapper.fragments :=
  declareEach_induction (motive := fun other => other.namespaceName = mapper.namespaceName ∧
      other.fragments = mapper.fragments)
    (fun _ _ _ _ same _ _ => same) (fun _ _ _ same _ _ => same) ⟨rfl, rfl⟩ done

/-! ### Documents -/

/-- Fragments are expanded one by one, and keep their identifiers. -/
theorem forall₂_expandFragments {location : Location} {library : Library}
    {own : Fields (List Content)} {fragments : List Fragment}
    (done : expandFragments location library own = .ok fragments) :
    List.Forall₂ (fun field fragment => fragment.id = field.1 ∧ ∃ expanded,
      expand library field.2 = .ok expanded ∧ fragment.body = Markup.toMarkup expanded)
      own fragments := by
  induction own generalizing fragments with
  | nil =>
    obtain rfl := Except.ok.inj done
    exact .nil
  | cons field rest inductionHypothesis =>
    unfold expandFragments at done
    obtain ⟨expanded, isExpanded, done⟩ := exists_of_bind_eq_ok done
    obtain ⟨others, isOthers, done⟩ := exists_of_bind_eq_ok done
    obtain rfl := Except.ok.inj done
    exact .cons ⟨rfl, expanded, eq_ok_of_mapError_eq_ok (eq_ok_of_mapError_eq_ok isExpanded), rfl⟩
      (inductionHypothesis isOthers)

theorem id_expandFragments {location : Location} {library : Library}
    {own : Fields (List Content)} {fragments : List Fragment}
    (done : expandFragments location library own = .ok fragments) :
    fragments.map Fragment.id = Fields.names own := by
  have sameIds : List.Forall₂ (· = ·) (fragments.map Fragment.id) (Fields.names own) := by
    unfold Fields.names
    rw [List.forall₂_map_left_iff, List.forall₂_map_right_iff]
    exact ((forall₂_expandFragments done).imp fun _ _ expands => expands.1).flip
  rwa [List.forall₂_eq_eq_eq] at sameIds

/-- The fragments that the root of a document declares, with what they hold. -/
def declaredFragments (location : Location) (root : Element) :
    Except PlacedFault (Fields (List Content)) :=
  declareFragments location [] (root.elements.filter fun element => element.tag.name == "sql")

/-- What reading a document has come across: its root, the namespace, and the fragments that it
declares. -/
structure Reading (source : String) (file : Option String) (root : Element)
    (namespaceName : String) (own : Fields (List Content)) : Prop where
  markup : Element.read source.toList = .ok root
  named : root.tag.name = "mapper"
  space : namespaceOf? root.tag = some namespaceName
  fragments : declaredFragments ⟨file, some namespaceName, none⟩ root = .ok own
  tidy : root.strayText? = none

/-- Once its fragments are known, a document is read by expanding them, and then reading what its
root declares. -/
theorem Reading.read_eq {source : String} {file : Option String} {root : Element}
    {namespaceName : String} {own : Fields (List Content)}
    (reading : Reading source file root namespaceName own) (outside : FragmentSource) :
    read source file outside =
      (expandFragments ⟨file, some namespaceName, none⟩ ⟨namespaceName, own, outside⟩ own >>=
        fun fragments => declareEach ⟨file, some namespaceName, none⟩
          ⟨namespaceName, own, outside⟩ ⟨namespaceName, [], [], fragments⟩
          root.elements).mapError PlacedFault.error := by
  have isOwn := reading.fragments
  unfold declaredFragments at isOwn
  simp only [read, readPlaced, reading.markup, readRoot, reading.named, ne_eq, not_true_eq_false,
    if_false, reading.space, readMapper, isOwn, reading.tidy, bind, Except.bind]

/-- A document is read by expanding its fragments, and then reading what its root declares. -/
theorem read_eq_ok_iff {source : String} {file : Option String} {outside : FragmentSource}
    {mapper : Mapper} : read source file outside = .ok mapper ↔
      ∃ root namespaceName own fragments, Reading source file root namespaceName own ∧
        expandFragments ⟨file, some namespaceName, none⟩ ⟨namespaceName, own, outside⟩ own =
          .ok fragments ∧
        declareEach ⟨file, some namespaceName, none⟩ ⟨namespaceName, own, outside⟩
          ⟨namespaceName, [], [], fragments⟩ root.elements = .ok mapper := by
  constructor
  · intro done
    have placed : readPlaced source file outside = .ok mapper := eq_ok_of_mapError_eq_ok done
    unfold readPlaced at placed
    split at placed
    · cases placed
    · next root markup =>
      unfold readRoot at placed
      split at placed
      · cases placed
      · next named =>
        split at placed
        · cases placed
        · next namespaceName space =>
          obtain ⟨own, isOwn, placed⟩ := exists_of_bind_eq_ok placed
          obtain ⟨fragments, isFragments, placed⟩ := exists_of_bind_eq_ok placed
          split at placed
          · cases placed
          · next tidy =>
            exact ⟨root, namespaceName, own, fragments,
              ⟨markup, Decidable.not_not.1 named, space, isOwn, tidy⟩, isFragments, placed⟩
  · rintro ⟨root, namespaceName, own, fragments, reading, isFragments, isMapper⟩
    rw [reading.read_eq, isFragments, bind_of_eq_ok rfl, isMapper]
    rfl

/-- The namespace of a mapper and the fragments that it has are decided by the document alone. -/
theorem labels_of_read {source : String} {file : Option String} {outside other : FragmentSource}
    {mapper later : Mapper} (done : read source file outside = .ok mapper)
    (again : read source file other = .ok later) :
    later.namespaceName = mapper.namespaceName ∧
      later.fragments.map Fragment.id = mapper.fragments.map Fragment.id := by
  obtain ⟨root, namespaceName, own, fragments, reading, isFragments, isMapper⟩ :=
    read_eq_ok_iff.1 done
  obtain ⟨otherRoot, otherName, otherOwn, otherFragments, readingAgain, areFragments, isLater⟩ :=
    read_eq_ok_iff.1 again
  obtain rfl := Except.ok.inj (reading.markup.symm.trans readingAgain.markup)
  obtain rfl := Option.some.inj (reading.space.symm.trans readingAgain.space)
  obtain rfl := Except.ok.inj (reading.fragments.symm.trans readingAgain.fragments)
  obtain ⟨isName, sameFragments⟩ := fragments_declareEach isMapper
  obtain ⟨isLaterName, sameLater⟩ := fragments_declareEach isLater
  rw [isName, isLaterName, sameFragments, sameLater, id_expandFragments isFragments,
    id_expandFragments areFragments]
  exact ⟨rfl, rfl⟩

theorem isLabelled_of_read {source : String} {file : Option String} {outside : FragmentSource}
    {mapper : Mapper} (done : read source file outside = .ok mapper) : mapper.IsLabelled := by
  obtain ⟨root, namespaceName, own, fragments, -, -, isMapper⟩ := read_eq_ok_iff.1 done
  refine isLabelled_declareEach ⟨fun statement member => ?_, fun map member => ?_⟩ rfl isMapper
  · exact absurd member List.not_mem_nil
  · exact absurd member List.not_mem_nil

/-! ### More fragments outside -/

section

variable {location : Location} {library larger : Library}

theorem expand_mono (within : library.FindsWithin larger) {contents expanded : List Content}
    (done : expand library contents = .ok expanded) : expand larger contents = .ok expanded :=
  expandFrom_mono within (List.Subset.refl []) done

theorem expandFragments_mono (within : library.FindsWithin larger) {own : Fields (List Content)}
    {fragments : List Fragment} (done : expandFragments location library own = .ok fragments) :
    expandFragments location larger own = .ok fragments := by
  induction own generalizing fragments with
  | nil => exact done
  | cons fragment rest inductionHypothesis =>
    unfold expandFragments at done ⊢
    obtain ⟨expanded, isExpanded, done⟩ := exists_of_bind_eq_ok done
    obtain ⟨others, isOthers, done⟩ := exists_of_bind_eq_ok done
    have expandedThere := expand_mono within
      (eq_ok_of_mapError_eq_ok (eq_ok_of_mapError_eq_ok isExpanded))
    rw [expandedThere, inductionHypothesis isOthers]
    exact done

theorem readStatement_mono (within : library.FindsWithin larger) {kind : StatementKind}
    {id : String} {element : Element} {statement : Statement}
    (done : readStatement library kind id element = .ok statement) :
    readStatement larger kind id element = .ok statement := by
  unfold readStatement at done ⊢
  split
  · next pointed =>
    rw [if_pos pointed] at done
    cases done
  · next plain =>
    rw [if_neg plain] at done
    obtain ⟨expanded, isExpanded, done⟩ := exists_of_bind_eq_ok done
    rw [expand_mono within (eq_ok_of_mapError_eq_ok isExpanded), ← within.namespaceName]
    exact done

theorem declareEach_mono (within : library.FindsWithin larger) {mapper later : Mapper}
    {elements : List Element} (done : declareEach location library mapper elements = .ok later) :
    declareEach location larger mapper elements = .ok later := by
  induction elements generalizing mapper with
  | nil => exact done
  | cons element rest inductionHypothesis =>
    unfold declareEach at done ⊢
    split
    · next kind isKind =>
      rw [isKind] at done
      obtain ⟨next, isNext, done⟩ := exists_of_bind_eq_ok done
      have nextThere : declareStatement location larger mapper kind element = .ok next := by
        unfold declareStatement at isNext ⊢
        obtain ⟨id, isId, isNext⟩ := exists_of_bind_eq_ok isNext
        obtain ⟨statement, isStatement, isNext⟩ := exists_of_bind_eq_ok isNext
        have read := readStatement_mono within (eq_ok_of_mapError_eq_ok isStatement)
        rw [bind_of_eq_ok isId, read]
        exact isNext
      rw [nextThere]
      exact inductionHypothesis done
    · next isNone =>
      rw [isNone] at done
      split
      · next named =>
        rw [if_pos named] at done
        obtain ⟨next, isNext, done⟩ := exists_of_bind_eq_ok done
        rw [isNext]
        exact inductionHypothesis done
      · next other =>
        rw [if_neg other] at done
        split
        · next ignored =>
          rw [if_pos ignored] at done
          exact inductionHypothesis done
        · next unknown =>
          rw [if_neg unknown] at done
          cases done

/-- A document that has been read is read to the same with more fragments outside. -/
theorem read_mono {source : String} {file : Option String} {outside more : FragmentSource}
    {mapper : Mapper} (done : read source file outside = .ok mapper)
    (within : ∀ own : Fields (List Content), Fields.names own = mapper.fragments.map Fragment.id →
      Library.FindsWithin ⟨mapper.namespaceName, own, outside⟩ ⟨mapper.namespaceName, own, more⟩) :
    read source file more = .ok mapper := by
  obtain ⟨root, namespaceName, own, fragments, reading, isFragments, isMapper⟩ :=
    read_eq_ok_iff.1 done
  obtain ⟨sameNamespace, sameFragments⟩ := fragments_declareEach isMapper
  have withinHere : Library.FindsWithin ⟨namespaceName, own, outside⟩
      ⟨namespaceName, own, more⟩ := by
    rw [← (show mapper.namespaceName = namespaceName from sameNamespace)]
    refine within own ?_
    rw [sameFragments]
    exact (id_expandFragments isFragments).symm
  exact read_eq_ok_iff.2 ⟨root, namespaceName, own, fragments, reading,
    expandFragments_mono withinHere isFragments, declareEach_mono withinHere isMapper⟩

end

end Document

end DynamicSql
