/-
This file says where a shaped record has its properties from. The last nested mapping for a property
that leads to a result map decides about it, whatever the others do. Without one it is the last
mapping whose column the first row has, and without one of these, where a result map auto-maps, a
column of the property's name. Nothing else gives a record a property. A record counts as having
values of its own as soon as one of its columns has, so a row that has an identity gives one.
-/

import DynamicSql.Proofs.Projection.Nesting

namespace DynamicSql

/-! ### Coerced values -/

/-- A value that follows a type is not null unless it was. -/
theorem Value.isNull_of_as? {value coerced : Value} {family : TypeFamily}
    (notNull : value.isNull = false) (follows : value.as? family = some coerced) :
    coerced.isNull = false := by
  cases family with
  | string =>
    unfold Value.as? at follows
    simp only at follows
    split at follows
    · obtain rfl := Option.some.inj follows
      exact notNull
    · split at follows
      · obtain rfl := Option.some.inj follows
        rfl
      · cases follows
  | int32 | int64 | float | bool | date | dateTime =>
    obtain ⟨_, -, rfl⟩ := Option.map_eq_some_iff.1 follows
    rfl

@[simp]
theorem Value.isNull_coerce (declared : String) (value : Value) :
    (value.coerce declared).isNull = value.isNull := by
  unfold Value.coerce
  split
  · rfl
  · next notNull =>
    have notNull : value.isNull = false := by simpa using notNull
    cases follows : (TypeFamily.ofName? declared).bind value.as? with
    | none => rfl
    | some coerced =>
      obtain ⟨family, -, follows⟩ := Option.bind_eq_some_iff.1 follows
      rw [Option.getD_some, notNull]
      exact Value.isNull_of_as? notNull follows

namespace Projection

variable {registry : Registry} {map : ResultMap} {start : String}

@[simp]
theorem isNull_mappedValue (rule : Mapping) (value : Value) :
    (mappedValue rule value).isNull = value.isNull := by
  unfold mappedValue
  split
  · exact Value.isNull_coerce _ value
  · rfl

/-! ### Plain properties -/

/-- What a mapping gives a property from a row: nothing if it is for another property or the row has
no such column. -/
def mappedTo? (row : Row) (start property : String) (rule : Mapping) : Option Value :=
  if rule.property = property then
    (column? row (start ++ rule.column)).map fun column => mappedValue rule column.2
  else none

/-- What the mappings of a result map give a property from a row: the last one of those that give
something. -/
def plainValue? (map : ResultMap) (start : String) (row : Row) (property : String) :
    Option Value :=
  map.mappings.reverse.findSome? (mappedTo? row start property)

theorem get?_addMapped (row : Row) (start property : String) (record : OpenRecord)
    (rule : Mapping) :
    Fields.get? property (addMapped row start record rule).fields =
      (mappedTo? row start property rule).or (Fields.get? property record.fields) := by
  unfold addMapped mappedTo?
  cases column? row (start ++ rule.column) with
  | none => simp
  | some column =>
    show Fields.get? property (Fields.put rule.property _ (record.consume column.1).fields) = _
    by_cases same : rule.property = property
    · simp [same]
    · simp [same]

theorem get?_foldl_addMapped (row : Row) (start property : String) (record : OpenRecord)
    (rules : List Mapping) :
    Fields.get? property (rules.foldl (addMapped row start) record).fields =
      (rules.reverse.findSome? (mappedTo? row start property)).or
        (Fields.get? property record.fields) := by
  induction rules generalizing record with
  | nil => rfl
  | cons rule rest inductionHypothesis =>
    rw [List.foldl_cons, inductionHypothesis, get?_addMapped, List.reverse_cons,
      List.findSome?_append, List.findSome?_singleton, Option.or_assoc]

/-- A mapping whose column has a value other than null in the row. -/
def GivesValue (row : Row) (start : String) (rule : Mapping) : Prop :=
  ∃ column, column? row (start ++ rule.column) = some column ∧ column.2.isNull = false

/-- A column that a result map names has a value other than null in the row. -/
def HasValue (map : ResultMap) (start : String) (row : Row) : Prop :=
  ∃ rule ∈ map.mappings, GivesValue row start rule

theorem present_addMapped_iff {row : Row} {record : OpenRecord} {rule : Mapping} :
    (addMapped row start record rule).present = true ↔
      record.present = true ∨ GivesValue row start rule := by
  unfold addMapped GivesValue
  cases column? row (start ++ rule.column) with
  | none => simp
  | some column =>
    show ((record.consume _).present || !(mappedValue rule column.2).isNull) = true ↔ _
    simp

/-- Mappings give a record a value of its own exactly if the column of one of them has a value. -/
theorem present_foldl_addMapped_iff {row : Row} {record : OpenRecord} {rules : List Mapping} :
    (rules.foldl (addMapped row start) record).present = true ↔
      record.present = true ∨ ∃ rule ∈ rules, GivesValue row start rule := by
  induction rules generalizing record with
  | nil => simp
  | cons rule rest inductionHypothesis =>
    rw [List.foldl_cons, inductionHypothesis, present_addMapped_iff, List.exists_mem_cons_iff,
      or_assoc]

/-- A row that has an identity has a value other than null in one of the columns of identifiers. -/
theorem hasValue_of_identity? {row : Row} {key : String}
    (identified : identity? map start row = some key) : HasValue map start row := by
  unfold identity? at identified
  simp only at identified
  split at identified
  · cases identified
  · next notAllNull =>
    obtain ⟨-, someValue⟩ := not_or.1 (Bool.or_eq_true _ _ ▸ notAllNull)
    obtain ⟨value, member, notNull⟩ : ∃ value ∈ idValues row map start, ¬ value.isNull = true := by
      simpa [List.all_eq_true] using someValue
    obtain ⟨rule, isRule, hasColumn⟩ := List.mem_filterMap.1 member
    obtain ⟨column, found, rfl⟩ := Option.map_eq_some_iff.1 hasColumn
    exact ⟨rule, List.mem_append_left _ isRule, column, found, by simpa using notNull⟩

/-! ### Properties from columns without a mapping -/

/-- Auto-mapping gives a property at most the value of a column of its name, and only where it has
none. -/
theorem get?_addUnmapped (camel : Bool) (start name : String) (record : OpenRecord)
    (column : String × Value) :
    Fields.get? name (addUnmapped camel start record column).fields =
        Fields.get? name record.fields ∨
      Fields.get? name record.fields = none ∧
        (behindPrefix? start column.1).map (propertyName camel) = some name ∧
        Fields.get? name (addUnmapped camel start record column).fields = some column.2 := by
  unfold addUnmapped
  split
  · exact .inl rfl
  · split
    · exact .inl rfl
    · next behind isBehind =>
      simp only
      split
      · exact .inl rfl
      · next absent =>
        by_cases same : propertyName camel behind = name
        · rw [same, Fields.contains, Option.not_isSome_iff_eq_none] at absent
          rw [same]
          exact .inr ⟨absent, by rw [isBehind, Option.map_some, same],
            Fields.get?_put_self _ _ _⟩
        · exact .inl (Fields.get?_put_other same _ _)

theorem get?_foldl_addUnmapped (camel : Bool) (start name : String) (record : OpenRecord)
    (columns : Row) :
    Fields.get? name (columns.foldl (addUnmapped camel start) record).fields =
        Fields.get? name record.fields ∨
      Fields.get? name record.fields = none ∧ ∃ column ∈ columns,
        (behindPrefix? start column.1).map (propertyName camel) = some name ∧
        Fields.get? name (columns.foldl (addUnmapped camel start) record).fields =
          some column.2 := by
  induction columns generalizing record with
  | nil => exact .inl rfl
  | cons column rest inductionHypothesis =>
    rw [List.foldl_cons]
    rcases inductionHypothesis (addUnmapped camel start record column) with
      kept | ⟨absent, other, member, named, found⟩
    · rw [kept]
      exact (get?_addUnmapped camel start name record column).imp_right
        fun ⟨absent, named, found⟩ => ⟨absent, column, List.mem_cons_self, named, found⟩
    · rcases get?_addUnmapped camel start name record column with same | ⟨-, -, given⟩
      · refine .inr ⟨same.symm.trans absent, other, List.mem_cons_of_mem column member, named, ?_⟩
        exact found
      · rw [given] at absent
        cases absent

theorem present_foldl_addUnmapped (camel : Bool) (start : String) {record : OpenRecord}
    (present : record.present = true) (columns : Row) :
    (columns.foldl (addUnmapped camel start) record).present = true := by
  induction columns generalizing record with
  | nil => exact present
  | cons column rest inductionHypothesis =>
    refine inductionHypothesis ?_
    unfold addUnmapped
    split
    · exact present
    · split
      · exact present
      · simp only
        split
        · exact present
        · show (record.present || _) = true
          rw [present, Bool.true_or]

/-! ### Records -/

variable {trail : Trail} {shape : Shaping} {first : Row} {rest : List Row}

/-- What a result map gives a property of the record that rows are shaped into, the first of them
given: the value of a nested mapping, of a mapping, or of a column without a mapping, or none. -/
inductive Gives (registry : Registry) (trail : Trail) (shape : Shaping) (first : Row)
    (rest : List Row) (map : ResultMap) (start name : String) : Option Value → Prop
  | nested {rule : Nested ResultMap} {inner : ResultMap} {value : Value}
      (decides : lastLeading? registry name map.nested = some (rule, inner))
      (gives : NestedGives trail shape (first :: rest) start rule inner value) :
      Gives registry trail shape first rest map start name (some value)
  | plain {value : Value} (noNested : lastLeading? registry name map.nested = none)
      (found : plainValue? map start first name = some value) :
      Gives registry trail shape first rest map start name (some value)
  | unmapped {column : String × Value} (noNested : lastLeading? registry name map.nested = none)
      (noPlain : plainValue? map start first name = none) (autoMaps : map.autoMapping = true)
      (isColumn : column ∈ first)
      (named : (behindPrefix? start column.1).map (propertyName registry.settings.camelCase) =
        some name) :
      Gives registry trail shape first rest map start name (some column.2)
  | nothing (noNested : lastLeading? registry name map.nested = none)
      (noPlain : plainValue? map start first name = none) :
      Gives registry trail shape first rest map start name none

namespace Gives

variable {name : String} {value? : Option Value}

/-- Where a nested mapping decides, the property has what it gives. -/
theorem exists_nestedGives (gives : Gives registry trail shape first rest map start name value?)
    {rule : Nested ResultMap} {inner : ResultMap}
    (isLast : lastLeading? registry name map.nested = some (rule, inner)) :
    ∃ value, value? = some value ∧
      NestedGives trail shape (first :: rest) start rule inner value := by
  cases gives with
  | plain noNested | unmapped noNested | nothing noNested =>
    rw [isLast] at noNested
    cases noNested
  | nested decides gives =>
    obtain ⟨rfl, rfl⟩ := Prod.mk.inj (Option.some.inj (isLast.symm.trans decides))
    exact ⟨_, rfl, gives⟩

/-- Where there is no nested mapping for it, a property has what the mappings give, unless they give
nothing and there is auto-mapping. -/
theorem eq_plainValue? (gives : Gives registry trail shape first rest map start name value?)
    (absent : name ∉ map.nested.map Nested.property) :
    value? = plainValue? map start first name ∨
      map.autoMapping = true ∧ plainValue? map start first name = none := by
  cases gives with
  | nested decides =>
    rw [lastLeading?_eq_none absent] at decides
    cases decides
  | plain _ found => exact .inl found.symm
  | unmapped _ noPlain autoMaps => exact .inr ⟨autoMaps, noPlain⟩
  | nothing _ noPlain => exact .inl noPlain.symm

end Gives

/-- What a record has under a name is what its result map gives. -/
theorem gives_of_shapeRecord {used : List String} {record : OpenRecord} (name : String)
    (done : shapeRecord registry trail shape (first :: rest) map start used = .ok record) :
    Gives registry trail shape first rest map start name (Fields.get? name record.fields) := by
  unfold shapeRecord at done
  simp only at done
  split at done
  · cases done
  · next between nested =>
    obtain ⟨unchanged, gives⟩ := gives_of_addEachNested name nested
    have final : Fields.get? name record.fields = Fields.get? name between.fields ∨
        map.autoMapping = true ∧ Fields.get? name between.fields = none ∧ ∃ column ∈ first,
          (behindPrefix? start column.1).map (propertyName registry.settings.camelCase) =
            some name ∧
          Fields.get? name record.fields = some column.2 := by
      obtain rfl := Except.ok.inj done
      split
      · next autoMaps =>
        exact (get?_foldl_addUnmapped _ start name between first).imp_right
          fun found => ⟨autoMaps, found⟩
      · exact .inl rfl
    cases decides : lastLeading? registry name map.nested with
    | some decided =>
      obtain ⟨value, isValue, isGiven⟩ := gives decided.1 decided.2 decides
      rw [isValue] at final
      rcases final with same | ⟨-, impossible, -⟩
      · rw [same]
        exact .nested decides isGiven
      · cases impossible
    | none =>
      have plain : Fields.get? name between.fields = plainValue? map start first name := by
        rw [unchanged decides, get?_foldl_addMapped]
        exact Option.or_none
      rw [plain] at final
      rcases final with same | ⟨autoMaps, noPlain, column, isColumn, named, same⟩
      · rw [same]
        cases found : plainValue? map start first name with
        | some value => exact .plain decides found
        | none => exact .nothing decides found
      · rw [same]
        exact .unmapped decides noPlain autoMaps isColumn named

/-- A record counts as there if its own columns have a value, and without auto-mapping only
then. -/
theorem present_of_shapeRecord {used : List String} {record : OpenRecord}
    (done : shapeRecord registry trail shape (first :: rest) map start used = .ok record) :
    (HasValue map start first → record.present = true) ∧
      (map.autoMapping = false → (record.present = true ↔ HasValue map start first)) := by
  unfold shapeRecord at done
  simp only at done
  split at done
  · cases done
  · next between nested =>
    have isPresent : between.present = true ↔ HasValue map start first := by
      rw [present_of_addEachNested nested, present_foldl_addMapped_iff]
      exact or_iff_right Bool.false_ne_true
    obtain rfl := Except.ok.inj done
    split
    · next autoMaps =>
      refine ⟨fun hasValue => ?_, fun notAuto => ?_⟩
      · exact present_foldl_addUnmapped _ start (isPresent.2 hasValue) first
      · rw [autoMaps] at notAuto
        cases notAuto
    · exact ⟨isPresent.2, fun _ => isPresent⟩

/-- What is known of the record that the rows of a group are shaped into, the first of them
given. -/
structure Shaped (registry : Registry) (trail : Trail) (shape : Shaping) (first : Row)
    (rest : List Row) (map : ResultMap) (start : String) (record : OpenRecord) : Prop where
  present {key : String} : identity? map start first = some key → record.present = true
  plain {property : String} {value : Value} : property ∉ map.nested.map Nested.property →
    plainValue? map start first property = some value →
    Fields.get? property record.fields = some value
  unmapped : map.autoMapping = false → ∀ property ∉ map.nested.map Nested.property,
    Fields.get? property record.fields = plainValue? map start first property
  nested : (map.nested.map Nested.property).Nodup → ∀ rule ∈ map.nested, ∀ inner,
    registry.nestedMap? rule.target = .ok (some inner) →
    isLeftOut trail (first :: rest) rule inner (start ++ rule.columnPrefix.getD "") = false →
    ∃ used value after, shapeNested shape rule.kind (first :: rest) inner
        (start ++ rule.columnPrefix.getD "") used = .ok (value, after) ∧
      Fields.get? rule.property record.fields = some value

theorem shaped_of_shapeRecord {used : List String} {record : OpenRecord}
    (done : shapeRecord registry trail shape (first :: rest) map start used = .ok record) :
    Shaped registry trail shape first rest map start record := by
  refine ⟨fun identified => ?_, fun {property value} absent found => ?_, ?_, ?_⟩
  · exact (present_of_shapeRecord done).1 (hasValue_of_identity? identified)
  · rcases (gives_of_shapeRecord property done).eq_plainValue? absent with same | ⟨-, noPlain⟩
    · rw [same, found]
    · rw [found] at noPlain
      cases noPlain
  · intro notAuto property absent
    rcases (gives_of_shapeRecord property done).eq_plainValue? absent with same | ⟨autoMaps, -⟩
    · exact same
    · rw [notAuto] at autoMaps
      cases autoMaps
  · intro distinct rule isRule inner found notLeftOut
    obtain ⟨value, isValue, gives⟩ := (gives_of_shapeRecord rule.property done).exists_nestedGives
      (lastLeading?_of_nodup distinct isRule found)
    cases gives with
    | leftOut isLeft =>
      rw [notLeftOut] at isLeft
      cases isLeft
    | shaped _ isShaped => exact ⟨_, value, _, isShaped, isValue⟩

/-- Groups whose records all count give one record each, in order. -/
theorem forall₂_of_shapeGroups {top : Bool} {used : List String} {groups : List (List Row)}
    {records : List Value} {after : List String}
    (done : shapeGroups shape top map start used groups = .ok (records, after))
    (counts : ∀ group ∈ groups, ∀ before record, shape group map start before = .ok record →
      (record.present || top) = true) :
    List.Forall₂ (fun group value => ∃ before record,
      shape group map start before = .ok record ∧ value = record.toValue map.typeName)
      groups records := by
  induction groups generalizing used records with
  | nil =>
    obtain ⟨rfl, -⟩ := Prod.mk.inj (Except.ok.inj done)
    exact .nil
  | cons group rest inductionHypothesis =>
    obtain ⟨countsFirst, countsRest⟩ := List.forall_mem_cons.1 counts
    unfold shapeGroups at done
    split at done
    · cases done
    · next record shaped =>
      split at done
      · cases done
      · next others final shapedRest =>
        rw [countsFirst used record shaped, if_pos rfl] at done
        obtain ⟨rfl, rfl⟩ := Prod.mk.inj (Except.ok.inj done)
        exact .cons ⟨used, record, shaped, rfl⟩ (inductionHypothesis shapedRest countsRest)

end Projection

end DynamicSql
