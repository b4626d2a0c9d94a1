/-
This file says when two rows have the same key. A key is the text of an array of what the row has
in the columns of identifiers; the items of an array can be told from its text, so the rows have
the same texts in the columns that they have. Which columns these are, the key does not say: a
missing column leaves no gap in the array.
-/

import DynamicSql.Proofs.Json.Separation
import DynamicSql.Proofs.Projection.Grouping

namespace DynamicSql.Projection

/-! ### Texts of columns -/

/-- The JSON text of what a row has in the column of a rule, if it has the column. -/
def columnText? (row : Row) (start : String) (rule : Mapping) : Option String :=
  (column? row (start ++ rule.column)).map fun column => column.2.toJson.render

/-- Two rows have the same of the columns of identifiers, whatever stands in them. -/
def HaveSameIds (map : ResultMap) (start : String) (first second : Row) : Prop :=
  ∀ rule ∈ map.ids, (columnText? first start rule).isSome = (columnText? second start rule).isSome

/-- In each column of identifiers two rows have the same JSON text, or neither has the column. -/
def AgreeOnIds (map : ResultMap) (start : String) (first second : Row) : Prop :=
  ∀ rule ∈ map.ids, columnText? first start rule = columnText? second start rule

/-- The JSON texts of the columns of identifiers that a row has, in the order of the rules. -/
def foundTexts (map : ResultMap) (start : String) (row : Row) : List String :=
  map.ids.filterMap (columnText? row start)

theorem foundTexts_eq (map : ResultMap) (start : String) (row : Row) :
    foundTexts map start row =
      ((idValues row map start).map Value.toJson).map Json.render := by
  unfold foundTexts idValues
  rw [List.map_filterMap, List.map_filterMap]
  refine congrArg (List.filterMap · map.ids) (funext fun rule => ?_)
  unfold columnText?
  cases column? row (start ++ rule.column) <;> rfl

/-- Texts with gaps agree place by place where the texts and the gaps agree. -/
theorem forall_eq_iff_filterMap {Rule Text : Type} (first second : Rule → Option Text)
    (rules : List Rule) :
    (∀ rule ∈ rules, first rule = second rule) ↔
      rules.filterMap first = rules.filterMap second ∧
        ∀ rule ∈ rules, (first rule).isSome = (second rule).isSome := by
  induction rules with
  | nil => simp
  | cons rule rest inductionHypothesis =>
    rw [List.forall_mem_cons, List.forall_mem_cons, inductionHypothesis, List.filterMap_cons,
      List.filterMap_cons]
    cases first rule with
    | none =>
      cases second rule with
      | none => simp
      | some textSecond => simp
    | some text =>
      cases second rule with
      | none => simp
      | some textSecond => simp [and_assoc]

/-! ### Keys -/

theorem of_groupKey?_shared {top : Bool} {map : ResultMap} {start : String} {position : Nat}
    {row : Row} {text : String}
    (key : groupKey? top map start position row = some (.shared text)) :
    idValues row map start ≠ [] ∧
      text = (Json.array ((idValues row map start).map Value.toJson)).render := by
  unfold groupKey? at key
  simp only at key
  split at key
  · exact nomatch key
  · next isNonempty =>
    split at key
    · split at key <;> exact nomatch key
    · refine ⟨fun isEmpty => isNonempty (List.isEmpty_iff.2 isEmpty), ?_⟩
      exact (GroupKey.shared.inj (Option.some.inj key)).symm

/-- Two rows with keys have the same key just where the texts in the columns that they have are the
same; so they agree on the columns of identifiers just where they have the same key and the same of
these columns. -/
theorem groupKey?_eq_iff (map : ResultMap) (start : String) (top topSecond : Bool)
    (position positionSecond : Nat) (first second : Row) (text textSecond : String)
    (key : groupKey? top map start position first = some (.shared text))
    (keySecond : groupKey? topSecond map start positionSecond second =
      some (.shared textSecond)) :
    (text = textSecond ↔ foundTexts map start first = foundTexts map start second) ∧
      (AgreeOnIds map start first second ↔
        text = textSecond ∧ HaveSameIds map start first second) := by
  obtain ⟨isNonempty, isText⟩ := of_groupKey?_shared key
  obtain ⟨isNonemptySecond, isTextSecond⟩ := of_groupKey?_shared keySecond
  have sameKey : text = textSecond ↔
      foundTexts map start first = foundTexts map start second := by
    rw [isText, isTextSecond, foundTexts_eq, foundTexts_eq]
    exact Json.render_array_eq_iff (mt List.map_eq_nil_iff.1 isNonempty)
      (mt List.map_eq_nil_iff.1 isNonemptySecond)
  refine ⟨sameKey, ?_⟩
  rw [sameKey]
  exact forall_eq_iff_filterMap _ _ map.ids

/-- A result map with two columns of identifiers. -/
def pairMap : ResultMap where
  namespaceName := "space"
  id := "pair"
  typeName := none
  extended := none
  autoMapping := false
  ids := [⟨"left", "left", none, none⟩, ⟨"right", "right", none, none⟩]
  results := []
  nested := []

theorem groupKey?_eq_iff_pair :
    groupKey? true pairMap "" 0 [("left", .int64 1), ("right", .null)] = some (.shared "[1,null]") ∧
      groupKey? true pairMap "" 1 [("RIGHT", .null), ("left", .int32 1)] =
        some (.shared "[1,null]") ∧
      AgreeOnIds pairMap "" [("left", .int64 1), ("right", .null)]
        [("RIGHT", .null), ("left", .int32 1)] := by
  have key : groupKey? true pairMap "" 0 [("left", .int64 1), ("right", .null)] =
      some (.shared "[1,null]") := by
    decide +kernel
  have keySecond : groupKey? true pairMap "" 1 [("RIGHT", .null), ("left", .int32 1)] =
      some (.shared "[1,null]") := by
    decide +kernel
  have sameIds : HaveSameIds pairMap "" [("left", .int64 1), ("right", .null)]
      [("RIGHT", .null), ("left", .int32 1)] := by
    unfold HaveSameIds
    decide +kernel
  exact ⟨key, keySecond,
    (groupKey?_eq_iff pairMap "" true true 0 1 _ _ _ _ key keySecond).2.2 ⟨rfl, sameIds⟩⟩

/-- Rows with the same key need not agree: the key of a row with one of two columns does not say
which one it is. -/
theorem groupKey?_shared_of_different :
    ¬ ∀ (map : ResultMap) (start : String) (top : Bool) (position positionSecond : Nat)
      (first second : Row) (text textSecond : String),
      groupKey? top map start position first = some (.shared text) →
      groupKey? top map start positionSecond second = some (.shared textSecond) →
      (text = textSecond ↔ AgreeOnIds map start first second) := by
  intro agree
  have key : groupKey? true pairMap "" 0 [("left", .int64 1)] = some (.shared "[1]") := by
    decide +kernel
  have keySecond : groupKey? true pairMap "" 1 [("right", .int64 1)] = some (.shared "[1]") := by
    decide +kernel
  have agreeOnIds := (agree pairMap "" true 0 1 _ _ _ _ key keySecond).1 rfl
  have same := agreeOnIds ⟨"left", "left", none, none⟩ List.mem_cons_self
  have different : columnText? [("left", .int64 1)] "" ⟨"left", "left", none, none⟩ ≠
      columnText? [("right", .int64 1)] "" ⟨"left", "left", none, none⟩ := by
    decide +kernel
  exact different same

end DynamicSql.Projection
