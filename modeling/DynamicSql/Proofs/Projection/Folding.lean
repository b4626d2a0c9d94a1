/-
This file says what rows are folded into by a result map whose nested mappings are collections all
the way down. At the top there is one record for each group of rows; the list of a collection has
one record for each key among the rows of the record it is in, and the same holds of the records in
the list. No call is left out and none is without values, so each group gives one record; the
recursion along the calls carries this to all depths.
-/

import DynamicSql.Proofs.Projection.Children

namespace DynamicSql.Projection

variable {registry : Registry} {map : ResultMap}

/-! ### Result maps of collections -/

/-- A result map and those that its nested mappings lead to, each with the prefix of its columns and
the path to it: the identifiers of the result maps that it is used in, its own first. -/
inductive Encloses (registry : Registry) (map : ResultMap) :
    List String → ResultMap → String → Prop
  | self : Encloses registry map [map.qualifiedId] map ""
  | deeper {path : List String} {outer : ResultMap} {start : String} {rule : Nested ResultMap}
      {inner : ResultMap} (encloses : Encloses registry map path outer start)
      (isRule : rule ∈ outer.nested)
      (found : registry.nestedMap? rule.target = .ok (some inner)) :
      Encloses registry map (inner.qualifiedId :: path) inner
        (innerStart start rule)

/-- A result map with collections only, to any depth: their result maps can be resolved, none is
used within itself, their properties are distinct, the columns of identifiers have names, and
nothing is auto-mapped. -/
structure IsFoldable (registry : Registry) (map : ResultMap) : Prop where
  collects {path : List String} {outer : ResultMap} {start : String}
    (encloses : Encloses registry map path outer start) :
    ∀ rule ∈ outer.nested, rule.kind = .collection
  resolves {path : List String} {outer : ResultMap} {start : String}
    (encloses : Encloses registry map path outer start) :
    ∀ rule ∈ outer.nested, ∃ inner, registry.nestedMap? rule.target = .ok (some inner)
  fresh {path : List String} {outer : ResultMap} {start : String}
    (encloses : Encloses registry map path outer start) : path.Nodup
  distinct {path : List String} {outer : ResultMap} {start : String}
    (encloses : Encloses registry map path outer start) :
    (outer.nested.map Nested.property).Nodup
  named {path : List String} {outer : ResultMap} {start : String}
    (encloses : Encloses registry map path outer start) : ∀ rule ∈ outer.ids, rule.column ≠ ""
  notAuto {path : List String} {outer : ResultMap} {start : String}
    (encloses : Encloses registry map path outer start) : outer.autoMapping = false

/-- Each of the rows has a column of identifiers of each collection. -/
def CarryIds (registry : Registry) (map : ResultMap) (rows : List Row) : Prop :=
  ∀ path outer start, Encloses registry map path outer start → ∀ rule ∈ outer.nested, ∀ inner,
    registry.nestedMap? rule.target = .ok (some inner) →
    ∀ row ∈ rows, CarriesId inner (innerStart start rule) row

/-! ### What rows fold into -/

/-- A value is what rows fold into: a record that takes its plain properties from the first row and
has a list for each collection, which holds one value for each key among the rows, in the order in
which the keys first appear, and that is what the rows of the key fold into. -/
inductive Folded (registry : Registry) : ResultMap → String → List Row → Value → Prop
  | record {map : ResultMap} {start : String} {first : Row} {rest : List Row}
      {fields : Fields Value}
      (plain : ∀ property ∉ map.nested.map Nested.property,
        Fields.get? property fields = plainValue? map start first property)
      (lists : ∀ rule ∈ map.nested, ∀ inner, registry.nestedMap? rule.target = .ok (some inner) →
        ∃ items, Fields.get? rule.property fields = some (.list items) ∧ items.length =
          (childKeys inner (innerStart start rule) (first :: rest)).length)
      (folded : ∀ rule ∈ map.nested, ∀ inner, registry.nestedMap? rule.target = .ok (some inner) →
        ∀ items, Fields.get? rule.property fields = some (.list items) → ∀ key item,
        (key, item) ∈ (childKeys inner (innerStart start rule) (first :: rest)).zip
          items →
        Folded registry inner (innerStart start rule)
          (rowsOf inner (innerStart start rule) (first :: rest) key) item) :
      Folded registry map start (first :: rest) (.record map.typeName fields)

/-! ### Calls -/

/-- The result maps of calls that come up are those that the result map leads to. -/
theorem encloses_of_comesUp {rows : List Row} {call : Call}
    (comesUp : ComesUp registry rows map call) :
    Encloses registry map (call.within.map Prod.fst) call.map call.start := by
  obtain ⟨group, -, reaches⟩ := comesUp
  induction reaches with
  | refl => exact .self
  | @tail outer inner before nests inductionHypothesis =>
    obtain ⟨sameTrail, rule, isRule, found, isStart, -⟩ := nests
    rw [Call.within, List.map_cons, sameTrail, isStart]
    exact inductionHypothesis.deeper isRule found

/-- The rows of calls that come up are among those that are shaped. -/
theorem mem_of_comesUp {rows : List Row} {call : Call} (comesUp : ComesUp registry rows map call) :
    ∀ row ∈ call.rows, row ∈ rows := by
  obtain ⟨group, isGroup, reaches⟩ := comesUp
  induction reaches with
  | refl => exact fun row => mem_of_mem_groupRows isGroup
  | tail before nests inductionHypothesis =>
    obtain ⟨-, rule, -, -, -, -, isNested⟩ := nests
    exact fun row isRow => inductionHypothesis row (Comparison.mem_of_mem_nestedRows isNested isRow)

/-- Each collection of a call is followed. -/
theorem follows_of_comesUp (foldable : IsFoldable registry map) {rows : List Row}
    (carry : CarryIds registry map rows) {call : Call} (comesUp : ComesUp registry rows map call)
    (isNonempty : call.rows ≠ []) {rule : Nested ResultMap} (isRule : rule ∈ call.map.nested)
    {inner : ResultMap} (found : registry.nestedMap? rule.target = .ok (some inner)) :
    call.Follows registry rule inner := by
  have encloses := encloses_of_comesUp comesUp
  refine ⟨isRule, found, ?_⟩
  unfold isLeftOut
  obtain ⟨first, isFirst⟩ := List.exists_mem_of_ne_nil _ isNonempty
  have carried := anyCarries_of_carriesId isFirst
    (carry _ _ _ encloses rule isRule inner found first (mem_of_comesUp comesUp first isFirst))
    (foldable.named (encloses.deeper isRule found))
  -- The trail has the identifiers of the path, none of which comes a second time.
  have unused : (inner.qualifiedId, innerStart call.start rule) ∉ call.within := by
    intro used
    obtain ⟨fresh, -⟩ := List.nodup_cons.1 (foldable.fresh (encloses.deeper isRule found))
    exact fresh (List.mem_map_of_mem used)
  rw [carried, Bool.not_true, Bool.and_false, Bool.false_or]
  simpa using unused

/-- The record of a call is what its rows fold into. -/
theorem folded_of_comesUp (foldable : IsFoldable registry map) {id : String} {rows : List Row}
    (resolved : registry.resultMap id = .ok map) (carry : CarryIds registry map rows) {call : Call}
    (comesUp : ComesUp registry rows map call) (isNonempty : call.rows ≠ []) {used : List String}
    {record : OpenRecord} (done : call.record (shapeBehind registry rows) used = .ok record) :
    Folded registry call.map call.start call.rows (record.toValue call.map.typeName) := by
  have ends := acc_of_fits (fits_of_comesUp resolved comesUp)
  induction ends generalizing used record with
  | intro call _ inductionHypothesis =>
    have unlimited : Unlimited registry rows map (shapeBehind registry rows) :=
      unlimited_shapeBehind resolved
    have encloses := encloses_of_comesUp comesUp
    obtain ⟨first, rest, isRows⟩ := List.exists_cons_of_ne_nil isNonempty
    have shaped := shaped_of_comesUp unlimited comesUp isRows done
    -- The calls for the rows of the keys come up within this one, so their records are folded.
    have lists : ∀ rule ∈ call.map.nested, ∀ inner,
        registry.nestedMap? rule.target = .ok (some inner) →
        ∃ items, Fields.get? rule.property record.fields = some (.list items) ∧
          List.Forall₂ (fun key => Folded registry inner (innerStart call.start rule)
            (rowsOf inner (innerStart call.start rule) call.rows key))
            (childKeys inner (innerStart call.start rule) call.rows) items := by
      intro rule isRule inner found
      have carryHere : ∀ row ∈ call.rows, CarriesId inner (innerStart call.start rule) row :=
        fun row isRow =>
          carry _ _ _ encloses rule isRule inner found row (mem_of_comesUp comesUp row isRow)
      obtain ⟨items, isItems, isEach⟩ := exists_items_of_collection unlimited comesUp isNonempty
        done (foldable.distinct encloses)
        (follows_of_comesUp foldable carry comesUp isNonempty isRule found)
        (foldable.collects encloses rule isRule) carryHere
      refine ⟨items, isItems, isEach.imp fun key item hasItem => ?_⟩
      obtain ⟨nests, ⟨head, others, isCons, -⟩, before, part, isPart, rfl⟩ := hasItem
      exact inductionHypothesis _ nests (comesUp.nests nests)
        (fun isNil => List.cons_ne_nil _ _ (isCons.symm.trans isNil)) isPart
    rw [isRows] at lists ⊢
    refine .record (shaped.unmapped (foldable.notAuto encloses)) ?_ ?_
    · intro rule isRule inner found
      obtain ⟨items, isItems, isEach⟩ := lists rule isRule inner found
      exact ⟨items, isItems, isEach.length_eq.symm⟩
    · intro rule isRule inner found items isItems key item member
      obtain ⟨others, isOthers, isEach⟩ := lists rule isRule inner found
      obtain rfl : others = items := Value.list.inj (Option.some.inj (isOthers.symm.trans isItems))
      exact (List.forall₂_iff_zip.1 isEach).2 member

/-! ### Results -/

/-- Groups at the top have rows. -/
theorem ne_nil_of_mem_sameIdentity {identity : Row → Option String} {rows group : List Row}
    (member : group ∈ sameIdentity identity rows) : group ≠ [] := by
  fun_induction sameIdentity identity rows with
  | case1 => cases member
  | case2 row rest none inductionHypothesis =>
    rcases List.mem_cons.1 member with rfl | later
    · exact List.cons_ne_nil _ _
    · exact inductionHypothesis later
  | case3 row rest text known inductionHypothesis =>
    rcases List.mem_cons.1 member with rfl | later
    · exact List.cons_ne_nil _ _
    · exact inductionHypothesis (by simpa using later)

/-- Nothing that is followed fails to be resolved. -/
theorem exists_projectRows (foldable : IsFoldable registry map) {id : String}
    (resolved : registry.resultMap id = .ok map) (rows : List Row) :
    ∃ records, registry.projectRows id rows = .ok records := by
  cases projected : registry.projectRows id rows with
  | ok records => exact ⟨records, rfl⟩
  | error error =>
    obtain ⟨target, followed, failed⟩ := exists_of_projectRows_error projected
    cases followed with
    | top =>
      rw [Registry.nestedMap?, resolved] at failed
      cases failed
    | @nested top call rule resolvedAgain comesUp isRule =>
      obtain rfl := Except.ok.inj (resolved.symm.trans resolvedAgain)
      obtain ⟨inner, found⟩ := foldable.resolves (encloses_of_comesUp comesUp) rule isRule
      rw [found] at failed
      cases failed

/-- Folding rows loses and doubles nothing: a result map of collections with identifiers gives one
record for each group of rows at the top, and at all depths each list has one record for each key
that its rows have. One row by itself gives its record. -/
theorem projectRows_folded (registry : Registry) (id : String) (map : ResultMap) (rows : List Row)
    (resolved : registry.resultMap id = .ok map) (foldable : IsFoldable registry map)
    (carry : CarryIds registry map rows) :
    ∃ records, registry.projectRows id rows = .ok records ∧
      List.Forall₂ (Folded registry map "") (topGroups map rows) records ∧
      ∀ row, rows = [row] → ∃ record, registry.project id row = .ok record ∧
        records = [record] := by
  obtain ⟨records, projected⟩ := exists_projectRows foldable resolved rows
  refine ⟨records, projected, ?_, ?_⟩
  · have isNonempty : ∀ group ∈ topGroups map rows, group ≠ [] :=
      fun group => ne_nil_of_mem_sameIdentity
    refine ((List.forall₂_and_left _ _).2
      ⟨isNonempty, forall₂_of_projectRows resolved projected⟩).imp ?_
    rintro group value ⟨hasRows, comesUp, before, record, isRecord, rfl⟩
    exact folded_of_comesUp foldable resolved carry comesUp hasRows isRecord
  · rintro row rfl
    rw [project_singleton] at projected
    obtain ⟨record, isRecord, isSingle⟩ := exists_of_map_eq_ok projected
    exact ⟨record, isRecord, isSingle.symm⟩

/-! ### Collections in collections -/

/-- The chapters of a book. -/
def chapterMap : ResultMap where
  namespaceName := "space"
  id := "chapter"
  typeName := some "chapter"
  extended := none
  autoMapping := false
  ids := [⟨"id", "id", none, none⟩]
  results := [⟨"title", "title", none, none⟩]
  nested := []

/-- The books of a shelf, each with its chapters. -/
def bookMap : ResultMap where
  namespaceName := "space"
  id := "book"
  typeName := some "book"
  extended := none
  autoMapping := false
  ids := [⟨"id", "book_id", none, none⟩]
  results := []
  nested := [⟨.collection, "chapters", .reference "space.chapter", some "chapter_", none⟩]

/-- A shelf with its books. -/
def shelfMap : ResultMap where
  namespaceName := "space"
  id := "shelf"
  typeName := some "shelf"
  extended := none
  autoMapping := false
  ids := [⟨"id", "id", none, none⟩]
  results := []
  nested := [⟨.collection, "books", .reference "space.book", none, none⟩]

/-- A registry of the three result maps. -/
def library : Registry :=
  ⟨.standard, [⟨"space", [], [chapterMap, bookMap, shelfMap], []⟩]⟩

/-- Two shelves; the book on the first has two chapters, and there is none on the second. -/
def shelfRows : List Row :=
  [[("id", .int64 1), ("book_id", .int64 10), ("chapter_id", .int64 100)],
    [("id", .int64 2), ("book_id", .null), ("chapter_id", .null)],
    [("id", .int64 1), ("book_id", .int64 10), ("chapter_id", .int64 101)]]

theorem library_shelf : library.resultMap "space.shelf" = .ok shelfMap :=
  Registry.resultMap_of_declared rfl rfl

theorem library_book : library.nestedMap? (.reference "space.book") = .ok (some bookMap) :=
  Registry.nestedMap?_of_declared rfl rfl

theorem library_chapter : library.nestedMap? (.reference "space.chapter") = .ok (some chapterMap) :=
  Registry.nestedMap?_of_declared rfl rfl

theorem encloses_shelf {path : List String} {outer : ResultMap} {start : String}
    (encloses : Encloses library shelfMap path outer start) :
    (path, outer, start) = (["space.shelf"], shelfMap, "") ∨
      (path, outer, start) = (["space.book", "space.shelf"], bookMap, "") ∨
      (path, outer, start) =
        (["space.chapter", "space.book", "space.shelf"], chapterMap, "chapter_") := by
  induction encloses with
  | self => exact .inl rfl
  | deeper before isRule found inductionHypothesis =>
    rcases inductionHypothesis with same | same | same
    · obtain ⟨rfl, rfl, rfl⟩ := same
      obtain rfl := List.mem_singleton.1 isRule
      obtain rfl := Option.some.inj (Except.ok.inj (library_book.symm.trans found))
      exact .inr (.inl rfl)
    · obtain ⟨rfl, rfl, rfl⟩ := same
      obtain rfl := List.mem_singleton.1 isRule
      obtain rfl := Option.some.inj (Except.ok.inj (library_chapter.symm.trans found))
      exact .inr (.inr rfl)
    · obtain ⟨rfl, rfl, rfl⟩ := same
      cases isRule

theorem isFoldable_shelf : IsFoldable library shelfMap where
  collects encloses := by
    rcases encloses_shelf encloses with same | same | same <;> obtain ⟨rfl, rfl, rfl⟩ := same <;>
      decide
  resolves encloses := by
    rcases encloses_shelf encloses with same | same | same <;> obtain ⟨rfl, rfl, rfl⟩ := same
    · exact List.forall_mem_singleton.2 ⟨_, library_book⟩
    · exact List.forall_mem_singleton.2 ⟨_, library_chapter⟩
    · exact fun rule isRule => nomatch isRule
  fresh encloses := by
    rcases encloses_shelf encloses with same | same | same <;> obtain ⟨rfl, rfl, rfl⟩ := same <;>
      decide
  distinct encloses := by
    rcases encloses_shelf encloses with same | same | same <;> obtain ⟨rfl, rfl, rfl⟩ := same <;>
      decide
  named encloses := by
    rcases encloses_shelf encloses with same | same | same <;> obtain ⟨rfl, rfl, rfl⟩ := same <;>
      decide
  notAuto encloses := by
    rcases encloses_shelf encloses with same | same | same <;> obtain ⟨rfl, rfl, rfl⟩ := same <;>
      rfl

theorem carryIds_shelf : CarryIds library shelfMap shelfRows := by
  intro path outer start encloses rule isRule inner found
  rcases encloses_shelf encloses with same | same | same
  · obtain ⟨rfl, rfl, rfl⟩ := same
    obtain rfl := List.mem_singleton.1 isRule
    obtain rfl := Option.some.inj (Except.ok.inj (library_book.symm.trans found))
    unfold CarriesId
    decide +kernel
  · obtain ⟨rfl, rfl, rfl⟩ := same
    obtain rfl := List.mem_singleton.1 isRule
    obtain rfl := Option.some.inj (Except.ok.inj (library_chapter.symm.trans found))
    unfold CarriesId
    decide +kernel
  · obtain ⟨rfl, rfl, rfl⟩ := same
    cases isRule

theorem projectRows_folded_shelves : ∃ records,
    library.projectRows "space.shelf" shelfRows = .ok records ∧
      List.Forall₂ (Folded library shelfMap "") (topGroups shelfMap shelfRows) records ∧
      (topGroups shelfMap shelfRows).length = 2 ∧
      childKeys bookMap "" shelfRows = ["[10]"] ∧
      childKeys chapterMap "chapter_" shelfRows = ["[100]", "[101]"] := by
  obtain ⟨records, projected, folded, -⟩ := projectRows_folded library "space.shelf" shelfMap
    shelfRows library_shelf isFoldable_shelf carryIds_shelf
  have twoGroups : (topGroups shelfMap shelfRows).length = 2 := by
    rw [topGroups, ← groupRows_top]
    decide +kernel
  have oneBook : childKeys bookMap "" shelfRows = ["[10]"] := by decide +kernel
  have twoChapters : childKeys chapterMap "chapter_" shelfRows = ["[100]", "[101]"] := by
    decide +kernel
  exact ⟨records, projected, folded, twoGroups, oneBook, twoChapters⟩

end DynamicSql.Projection
