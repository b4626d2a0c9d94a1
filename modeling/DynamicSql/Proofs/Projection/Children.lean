/-
This file says what groups the rows of a record form for one of its collections. Where every row has
one of the columns that tell the records of the collection apart, there is one group for each key
that is not made of nulls alone, in the order in which the keys first appear, and it holds all rows
of the key. Such rows also have a column with the prefix of the collection. The list then has one
record for each of the keys, shaped from the rows of the key.
-/

import DynamicSql.Proofs.Projection.Independence
import DynamicSql.Proofs.Projection.Properties
import DynamicSql.Proofs.Projection.Termination

namespace DynamicSql.Projection

variable {map : ResultMap} {start : String}

/-! ### Keys and their rows -/

/-- A row has one of the columns that tell the records of a result map apart. -/
def CarriesId (map : ResultMap) (start : String) (row : Row) : Prop :=
  ∃ rule ∈ map.ids, (column? row (start ++ rule.column)).isSome = true

/-- The keys that rows have, each of them once, in the order in which they first appear. -/
def childKeys (map : ResultMap) (start : String) (rows : List Row) : List String :=
  (rows.filterMap (identity? map start)).eraseDups

/-- The rows of a key. -/
def rowsOf (map : ResultMap) (start : String) (rows : List Row) (key : String) : List Row :=
  rows.filter fun row => identity? map start row == some key

theorem mem_rowsOf_iff {rows : List Row} {key : String} {row : Row} :
    row ∈ rowsOf map start rows key ↔ row ∈ rows ∧ identity? map start row = some key := by
  unfold rowsOf
  rw [List.mem_filter, beq_iff_eq]

theorem mem_childKeys_iff {rows : List Row} {key : String} :
    key ∈ childKeys map start rows ↔ ∃ row ∈ rows, identity? map start row = some key := by
  unfold childKeys
  rw [List.mem_eraseDups, List.mem_filterMap]

/-- The rows of a key begin with a row of the key. -/
theorem exists_cons_of_mem_childKeys {rows : List Row} {key : String}
    (isKey : key ∈ childKeys map start rows) :
    ∃ first rest, rowsOf map start rows key = first :: rest ∧
      identity? map start first = some key := by
  obtain ⟨row, isRow, identified⟩ := mem_childKeys_iff.1 isKey
  cases isGroup : rowsOf map start rows key with
  | nil =>
    have member := mem_rowsOf_iff.2 ⟨isRow, identified⟩
    rw [isGroup] at member
    cases member
  | cons first rest =>
    exact ⟨first, rest, rfl, (mem_rowsOf_iff.1 (isGroup ▸ List.mem_cons_self)).2⟩

/-! ### Groups below the top -/

/-- Rows that all have an identity form one group for each of the identities. -/
theorem sameIdentity_eq_map {identity : Row → Option String} {rows : List Row}
    (known : ∀ row ∈ rows, (identity row).isSome = true) :
    sameIdentity identity rows = (rows.filterMap identity).eraseDups.map fun key =>
      rows.filter fun row => identity row == some key := by
  fun_induction sameIdentity identity rows with
  | case1 => rfl
  | case2 row rest none inductionHypothesis =>
    have isKnown := known row List.mem_cons_self
    rw [none] at isKnown
    cases isKnown
  | case3 row rest text isText inductionHypothesis =>
    simp only [List.unattach_filter, List.unattach_attach] at inductionHypothesis
    -- The keys that follow are those of the rows without the first key.
    have knownRest : ∀ other ∈ rest.filter fun other => identity other != some text,
        (identity other).isSome = true := fun other member =>
      known other (List.mem_cons_of_mem row (List.mem_of_mem_filter member))
    have keysRest : (rest.filter fun other => identity other != some text).filterMap identity =
        (rest.filterMap identity).filter fun key => !key == text := by
      rw [List.filterMap_filter, List.filter_filterMap]
      refine List.filterMap_congr fun other _ => ?_
      cases identity other with
      | none => simp
      | some key => by_cases same : key = text <;> simp [same, Option.filter]
    rw [List.filterMap_cons_some isText, List.eraseDups_cons, List.map_cons,
      inductionHypothesis knownRest, keysRest, List.filter_cons_of_pos (by simp [isText])]
    refine congrArg _ (List.map_congr_left fun key isKey => ?_)
    have different : key ≠ text := by
      obtain ⟨-, differs⟩ := List.mem_filter.1 (List.mem_eraseDups.1 isKey)
      simpa using differs
    rw [List.filter_cons_of_neg (by simpa [isText] using different.symm), List.filter_filter]
    refine List.filter_congr fun other _ => ?_
    cases identity other with
    | none => simp
    | some found => by_cases same : found = key <;> simp [same, different]

/-- Below the top, too, a row with one of the columns of identifiers has its identity as key. -/
theorem groupKey?_of_carriesId {row : Row} (carries : CarriesId map start row) (position : Nat) :
    groupKey? false map start position row = (identity? map start row).map .shared := by
  have isNonempty : (idValues row map start).isEmpty = false := by
    obtain ⟨rule, isRule, found⟩ := carries
    obtain ⟨column, isColumn⟩ := Option.isSome_iff_exists.1 found
    have member : column.2 ∈ idValues row map start :=
      List.mem_filterMap.2 ⟨rule, isRule, by rw [isColumn]; rfl⟩
    exact List.isEmpty_eq_false_iff.2 (List.ne_nil_of_mem member)
  unfold groupKey? identity?
  simp only [isNonempty, Bool.false_or, Bool.false_eq_true, if_false]
  split <;> rfl

/-- Below the top the rows without an identity are passed over, the others are grouped as at the
top, wherever they stand. -/
theorem addRows_false {rows : List Row} (carry : ∀ row ∈ rows, CarriesId map start row)
    (groups : List (GroupKey × List Row)) (position other : Nat) :
    addRows false map start groups position rows =
      addRows true map start groups other
        (rows.filter fun row => (identity? map start row).isSome) := by
  induction rows generalizing groups position other with
  | nil => rfl
  | cons row rest inductionHypothesis =>
    obtain ⟨carryFirst, carryRest⟩ := List.forall_mem_cons.1 carry
    rw [addRows, groupKey?_of_carriesId carryFirst]
    cases identified : identity? map start row with
    | none =>
      rw [List.filter_cons_of_neg (by simp [identified])]
      exact inductionHypothesis carryRest groups _ other
    | some key =>
      rw [List.filter_cons_of_pos (by simp [identified]), addRows, groupKey?_top, identified]
      exact inductionHypothesis carryRest _ _ _

/-- Below the top rows form one group for each of their keys. -/
theorem groupRows_false {rows : List Row} (carry : ∀ row ∈ rows, CarriesId map start row) :
    groupRows false map start rows =
      (childKeys map start rows).map (rowsOf map start rows) := by
  have identified : ∀ row ∈ rows.filter fun row => (identity? map start row).isSome,
      (identity? map start row).isSome = true := fun row member => (List.mem_filter.1 member).2
  have keys : (rows.filter fun row => (identity? map start row).isSome).filterMap
      (identity? map start) = rows.filterMap (identity? map start) := by
    rw [List.filterMap_filter]
    refine List.filterMap_congr fun row _ => ?_
    cases identity? map start row <;> rfl
  have asAtTop : groupRows false map start rows =
      groupRows true map start (rows.filter fun row => (identity? map start row).isSome) :=
    congrArg (List.map Prod.snd) (addRows_false carry [] 0 0)
  rw [asAtTop, groupRows_top, sameIdentity_eq_map identified, keys]
  refine List.map_congr_left fun key _ => ?_
  unfold rowsOf
  rw [List.filter_filter]
  refine List.filter_congr fun row _ => ?_
  cases identity? map start row <;> simp

/-! ### Prefixes -/

/-- A name that is another one up to case begins with what that begins with, up to case, and goes on
as long. -/
theorem exists_dropPrefixIgnoringCase? {name before behind : List Char}
    (same : Text.sameIgnoringCase name (before ++ behind) = true) :
    ∃ rest, Text.dropPrefixIgnoringCase? before name = some rest ∧
      rest.length = behind.length := by
  unfold Text.sameIgnoringCase at same
  rw [beq_iff_eq] at same
  induction before generalizing name with
  | nil => exact ⟨name, rfl, by simpa using congrArg List.length same⟩
  | cons expected before inductionHypothesis =>
    cases name with
    | nil => cases same
    | cons character name =>
      obtain ⟨sameFirst, sameRest⟩ := List.cons.inj same
      rw [Text.dropPrefixIgnoringCase?, if_pos sameFirst]
      exact inductionHypothesis sameRest

/-- A column that is found has the name, up to case. -/
theorem sameIgnoringCase_of_column? {row : Row} {wanted : String} {column : String × Value}
    (found : column? row wanted = some column) :
    ∃ other ∈ row, Text.sameIgnoringCase other.1.toList wanted.toList = true := by
  unfold column? at found
  split at found
  · next value isValue =>
    obtain ⟨other, member, named⟩ := List.mem_map.1 (Fields.mem_names_of_get? isValue)
    exact ⟨other, member, by rw [named, Text.sameIgnoringCase, beq_self_eq_true]⟩
  · unfold columnIgnoringCase? at found
    have same := List.find?_some found
    exact ⟨column, List.mem_of_find?_eq_some found, same⟩

/-- A prefix is carried where rows have a column that is the prefix with a name behind it. -/
theorem anyCarries_of_column? {rows : List Row} {row : Row} (isRow : row ∈ rows) {name : String}
    (named : name ≠ "") {column : String × Value}
    (found : column? row (start ++ name) = some column) :
    anyCarries rows start = true := by
  obtain ⟨other, member, same⟩ := sameIgnoringCase_of_column? found
  rw [String.toList_append] at same
  obtain ⟨rest, dropped, sameLength⟩ := exists_dropPrefixIgnoringCase? same
  have isNonempty : rest ≠ [] := by
    rintro rfl
    exact named (String.toList_eq_nil_iff.1 (List.length_eq_zero_iff.1 sameLength.symm))
  refine List.any_eq_true.2 ⟨row, isRow, List.any_eq_true.2 ⟨other, member, ?_⟩⟩
  unfold behindPrefix?
  split
  · rfl
  · rw [dropped]
    cases rest with
    | nil => exact absurd rfl isNonempty
    | cons character rest => rfl

/-- Where rows have a column of identifiers, and these columns have names, the prefix is carried. -/
theorem anyCarries_of_carriesId {rows : List Row} {row : Row} (isRow : row ∈ rows)
    (carries : CarriesId map start row) (named : ∀ rule ∈ map.ids, rule.column ≠ "") :
    anyCarries rows start = true := by
  obtain ⟨rule, isRule, found⟩ := carries
  obtain ⟨column, isColumn⟩ := Option.isSome_iff_exists.1 found
  exact anyCarries_of_column? isRow (named rule isRule) isColumn

/-! ### Nested records -/

section

variable {registry : Registry} {rows : List Row} {top : ResultMap} {shape : Trail → Shaping}
  {call : Call} {used : List String} {record : OpenRecord} {rule : Nested ResultMap}
  {inner : ResultMap}

/-- The prefix of the columns of a nested mapping, where those around it have a prefix. -/
abbrev innerStart (start : String) (rule : Nested ResultMap) : String :=
  start ++ rule.columnPrefix.getD ""

/-- The call that a nested mapping makes for a group of rows. -/
def Call.deeper (call : Call) (rule : Nested ResultMap) (inner : ResultMap) (group : List Row) :
    Call :=
  ⟨call.within, group, inner, innerStart call.start rule⟩

/-- The rows of a key of a collection, among those of a call. -/
def Call.rowsOf (call : Call) (rule : Nested ResultMap) (inner : ResultMap) (key : String) :
    List Row :=
  Projection.rowsOf inner (innerStart call.start rule) call.rows key

/-- A nested mapping that a call follows: it leads to a result map and is not left out. -/
structure Call.Follows (registry : Registry) (call : Call) (rule : Nested ResultMap)
    (inner : ResultMap) : Prop where
  isRule : rule ∈ call.map.nested
  found : registry.nestedMap? rule.target = .ok (some inner)
  notLeftOut : isLeftOut call.within call.rows rule inner (innerStart call.start rule) = false

/-- What is known of the record of a call that comes up. -/
theorem shaped_of_comesUp (unlimited : Unlimited registry rows top shape)
    (comesUp : ComesUp registry rows top call) {first : Row} {rest : List Row}
    (isRows : call.rows = first :: rest) (done : call.record shape used = .ok record) :
    Shaped registry call.within (shape call.within) first rest call.map call.start record := by
  rw [unlimited call comesUp, isRows] at done
  exact shaped_of_shapeRecord done

/-- An item of a collection is the record of the call for the rows of a key. -/
structure Call.HasItem (registry : Registry) (call : Call) (shape : Trail → Shaping)
    (rule : Nested ResultMap) (inner : ResultMap) (key : String) (item : Value) : Prop where
  nests : Nests registry call (call.deeper rule inner (call.rowsOf rule inner key))
  begins : ∃ first rest, call.rowsOf rule inner key = first :: rest ∧
    identity? inner (innerStart call.start rule) first = some key
  shaped : ∃ before part,
    (call.deeper rule inner (call.rowsOf rule inner key)).record shape before = .ok part ∧
      item = part.toValue inner.typeName

/-- The property of a collection that is followed holds a list with one record for each key. -/
theorem exists_items_of_collection (unlimited : Unlimited registry rows top shape)
    (comesUp : ComesUp registry rows top call) (isNonempty : call.rows ≠ [])
    (done : call.record shape used = .ok record)
    (distinct : (call.map.nested.map Nested.property).Nodup)
    (follows : call.Follows registry rule inner) (collects : rule.kind = .collection)
    (carry : ∀ row ∈ call.rows, CarriesId inner (innerStart call.start rule) row) :
    ∃ items, Fields.get? rule.property record.fields = some (.list items) ∧
      List.Forall₂ (call.HasItem registry shape rule inner)
        (childKeys inner (innerStart call.start rule) call.rows) items := by
  obtain ⟨first, rest, isRows⟩ := List.exists_cons_of_ne_nil isNonempty
  have notLeftOut := follows.notLeftOut
  rw [isRows] at notLeftOut
  obtain ⟨before, value, after, shaped, isValue⟩ :=
    (shaped_of_comesUp unlimited comesUp isRows done).nested distinct rule follows.isRule inner
      follows.found notLeftOut
  rw [collects, ← isRows] at shaped
  unfold shapeNested at shaped
  simp only at shaped
  split at shaped
  · cases shaped
  · next items _ groups =>
    obtain ⟨rfl, -⟩ := Prod.mk.inj (Except.ok.inj shaped)
    refine ⟨items, isValue, ?_⟩
    rw [groupRows_false carry] at groups
    have nests : ∀ key ∈ childKeys inner (innerStart call.start rule) call.rows,
        Nests registry call (call.deeper rule inner (call.rowsOf rule inner key)) := by
      intro key isKey
      refine ⟨rfl, rule, follows.isRule, follows.found, rfl, follows.notLeftOut, ?_⟩
      rw [collects, Comparison.nestedRows]
      exact (groupRows_false carry).symm ▸ List.mem_map_of_mem isKey
    -- A group begins with a row of its key, which gives its record a value of its own.
    have counts : ∀ group ∈ (childKeys inner (innerStart call.start rule) call.rows).map
        (Projection.rowsOf inner (innerStart call.start rule) call.rows), ∀ earlier part,
        shape call.within group inner (innerStart call.start rule) earlier = .ok part →
        (part.present || false) = true := by
      intro group member earlier part isPart
      obtain ⟨key, isKey, rfl⟩ := List.mem_map.1 member
      obtain ⟨head, others, isCons, identified⟩ := exists_cons_of_mem_childKeys isKey
      have partShaped :=
        shaped_of_comesUp unlimited (comesUp.nests (nests key isKey)) isCons isPart
      rw [partShaped.present identified, Bool.true_or]
    have isEach := (List.forall₂_and_left _ _).2
      ⟨nests, List.forall₂_map_left_iff.1 (forall₂_of_shapeGroups groups counts)⟩
    refine ((List.forall₂_and_left _ _).2 ⟨fun key => exists_cons_of_mem_childKeys, isEach⟩).imp ?_
    rintro key item ⟨begins, nestsKey, isItem⟩
    exact ⟨nestsKey, begins, isItem⟩

/-- The property of an association that is followed holds the record of the first row, if that has
values of its own. -/
theorem exists_part_of_association (unlimited : Unlimited registry rows top shape)
    (comesUp : ComesUp registry rows top call) {first : Row} {rest : List Row}
    (isRows : call.rows = first :: rest) (done : call.record shape used = .ok record)
    (distinct : (call.map.nested.map Nested.property).Nodup)
    (follows : call.Follows registry rule inner) (associates : rule.kind = .association) :
    ∃ before part, (call.deeper rule inner [first]).record shape before = .ok part ∧
      Fields.get? rule.property record.fields =
        some (if part.present then part.toValue inner.typeName else .null) := by
  have notLeftOut := follows.notLeftOut
  rw [isRows] at notLeftOut
  obtain ⟨before, value, after, shaped, isValue⟩ :=
    (shaped_of_comesUp unlimited comesUp isRows done).nested distinct rule follows.isRule inner
      follows.found notLeftOut
  rw [associates] at shaped
  unfold shapeNested at shaped
  simp only at shaped
  split at shaped
  · cases shaped
  · next part isPart =>
    obtain ⟨rfl, -⟩ := Prod.mk.inj (Except.ok.inj shaped)
    exact ⟨before, part, isPart, isValue⟩

/-! ### Records at the top -/

/-- The call for a group of rows at the top. -/
abbrev Call.ofGroup (map : ResultMap) (group : List Row) : Call :=
  ⟨[], group, map, ""⟩

/-- The records of rows are those of the groups at the top, one for each. -/
theorem forall₂_of_projectRows {id : String} {records : List Value}
    (resolved : registry.resultMap id = .ok top)
    (projected : registry.projectRows id rows = .ok records) :
    List.Forall₂ (fun group value => ComesUp registry rows top (.ofGroup top group) ∧
      ∃ before record, (Call.ofGroup top group).record (shapeBehind registry rows) before =
        .ok record ∧ value = record.toValue top.typeName)
      (topGroups top rows) records := by
  rw [Registry.projectRows_of_resolved resolved] at projected
  obtain ⟨⟨_, last⟩, shaped, rfl⟩ := exists_of_map_eq_ok projected
  have comesUp : ∀ group ∈ groupRows true top "" rows,
      ComesUp registry rows top (.ofGroup top group) :=
    fun group isGroup => ⟨group, isGroup, .refl⟩
  have isEach := forall₂_of_shapeGroups shaped fun _ _ _ record _ => Bool.or_true record.present
  rw [groupRows_top] at comesUp isEach
  exact (List.forall₂_and_left _ _).2 ⟨comesUp, isEach⟩

end

end DynamicSql.Projection
