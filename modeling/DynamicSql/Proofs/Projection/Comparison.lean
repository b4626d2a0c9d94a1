/-
This file compares two ways of shaping the same rows by the same result map, when different columns
have been used before. A comparison says how the columns used on both sides are related and whether
the records are to be the same. Using one more column on both sides keeps columns related, so
everything but auto-mapping can be compared under any comparison: only auto-mapping looks at what
has been used.

The records nested in a record are shaped by an argument, and only by calls that the record makes.
So two shapings that compare on the calls a record can make give records that compare.
-/

import DynamicSql.Proofs.Projection.Grouping
import DynamicSql.Proofs.Registry.Inherited

namespace DynamicSql.Projection

/-! ### Used columns -/

/-- Columns with one more that has been used. -/
def claim (column : String) (consumed : List String) : List String :=
  if consumed.contains column then consumed else column :: consumed

@[simp]
theorem mem_claim {column other : String} {consumed : List String} :
    other ∈ claim column consumed ↔ other = column ∨ other ∈ consumed := by
  unfold claim
  split
  · next used =>
    constructor
    · exact Or.inr
    · rintro (rfl | old)
      · exact List.contains_iff_mem.1 used
      · exact old
  · exact List.mem_cons

@[simp]
theorem consumed_consume (record : OpenRecord) (column : String) :
    (record.consume column).consumed = claim column record.consumed := by
  unfold OpenRecord.consume claim
  split <;> rfl

@[simp]
theorem fields_consume (record : OpenRecord) (column : String) :
    (record.consume column).fields = record.fields := by
  unfold OpenRecord.consume
  split <;> rfl

@[simp]
theorem present_consume (record : OpenRecord) (column : String) :
    (record.consume column).present = record.present := by
  unfold OpenRecord.consume
  split <;> rfl

/-! ### Comparisons -/

/-- How two runs are compared: how the columns used in them are related, and whether what they
shape is to be the same. -/
structure Comparison where
  related : List String → List String → Prop
  exact : Prop
  claim {first second : List String} (column : String) (same : related first second) :
    related (claim column first) (claim column second)

/-- Two outcomes that are the same error, or results that are related. -/
inductive Both {Result : Type} (related : Result → Result → Prop) :
    Except Error Result → Except Error Result → Prop
  | failed (error : Error) : Both related (.error error) (.error error)
  | done {first second : Result} (holds : related first second) :
      Both related (.ok first) (.ok second)

namespace Comparison

variable (comparison : Comparison)

/-- Two open records that compare. -/
structure Alike (first second : OpenRecord) : Prop where
  consumed : comparison.related first.consumed second.consumed
  fields : comparison.exact → first.fields = second.fields
  present : comparison.exact → first.present = second.present

/-- Two results with the columns used after them that compare. -/
structure Agree {Result : Type} (first second : Result × List String) : Prop where
  consumed : comparison.related first.2 second.2
  result : comparison.exact → first.1 = second.1

/-- Related columns are the same, as far as that matters for what is shaped. -/
def Tells : Prop :=
  comparison.exact → ∀ first second, comparison.related first second →
    ∀ column, column ∈ first ↔ column ∈ second

/-- Calls of a shaping: the rows, the result map and the prefix of its columns. -/
abbrev Calls := List Row → ResultMap → String → Prop

/-- Two shapings compare on calls. -/
def Compares (calls : Calls) (first second : Shaping) : Prop :=
  ∀ rows map start used other, calls rows map start → comparison.related used other →
    Both comparison.Alike (first rows map start used) (second rows map start other)

variable {comparison} {first second : OpenRecord}

theorem alike_start {used other : List String} (related : comparison.related used other) :
    comparison.Alike (.start used) (.start other) :=
  ⟨related, fun _ => rfl, fun _ => rfl⟩

namespace Alike

theorem put (alike : comparison.Alike first second) (property : String) {value other : Value}
    (same : comparison.exact → value = other) :
    comparison.Alike (first.put property value) (second.put property other) where
  consumed := alike.consumed
  fields exact := by
    show Fields.put property value first.fields = Fields.put property other second.fields
    rw [alike.fields exact, same exact]
  present := alike.present

theorem putColumn (alike : comparison.Alike first second) (property : String) (value : Value)
    (isNull : Bool) :
    comparison.Alike (first.putColumn property value isNull)
      (second.putColumn property value isNull) where
  consumed := alike.consumed
  fields := (alike.put property fun _ => rfl).fields
  present exact := by
    show (first.present || !isNull) = (second.present || !isNull)
    rw [alike.present exact]

theorem consume (alike : comparison.Alike first second) (column : String) :
    comparison.Alike (first.consume column) (second.consume column) where
  consumed := by simpa using comparison.claim column alike.consumed
  fields exact := by simpa using alike.fields exact
  present exact := by simpa using alike.present exact

theorem withConsumed (alike : comparison.Alike first second) {used other : List String}
    (related : comparison.related used other) :
    comparison.Alike { first with consumed := used } { second with consumed := other } :=
  ⟨related, alike.fields, alike.present⟩

/-! ### Columns -/

theorem addMapped (alike : comparison.Alike first second) (row : Row) (start : String)
    (rule : Mapping) :
    comparison.Alike (addMapped row start first rule) (addMapped row start second rule) := by
  unfold Projection.addMapped
  split
  · exact alike
  · exact (alike.consume _).putColumn _ _ _

theorem foldl_addMapped (alike : comparison.Alike first second) (row : Row) (start : String)
    (rules : List Mapping) :
    comparison.Alike (rules.foldl (Projection.addMapped row start) first)
      (rules.foldl (Projection.addMapped row start) second) := by
  induction rules generalizing first second with
  | nil => exact alike
  | cons rule rest inductionHypothesis => exact inductionHypothesis (alike.addMapped row start rule)

end Alike

@[simp]
theorem consumed_addUnmapped (camel : Bool) (start : String) (record : OpenRecord)
    (column : String × Value) :
    (addUnmapped camel start record column).consumed = record.consumed := by
  unfold addUnmapped
  split
  · rfl
  · split
    · rfl
    · simp only
      split <;> rfl

/-- Auto-mapping compares where related columns are the same, if records are to be. -/
theorem Alike.addUnmapped (alike : comparison.Alike first second) (tells : comparison.Tells)
    (camel : Bool) (start : String) (column : String × Value) :
    comparison.Alike (addUnmapped camel start first column)
      (addUnmapped camel start second column) := by
  have same : comparison.exact →
      (Projection.addUnmapped camel start first column).fields =
          (Projection.addUnmapped camel start second column).fields ∧
        (Projection.addUnmapped camel start first column).present =
          (Projection.addUnmapped camel start second column).present := by
    intro exact
    have used : first.consumed.contains column.1 = second.consumed.contains column.1 := by
      rw [Bool.eq_iff_iff, List.contains_iff_mem, List.contains_iff_mem]
      exact tells exact _ _ alike.consumed column.1
    unfold Projection.addUnmapped
    rw [used]
    split
    · exact ⟨alike.fields exact, alike.present exact⟩
    · split
      · exact ⟨alike.fields exact, alike.present exact⟩
      · simp only [alike.fields exact]
        split
        · exact ⟨alike.fields exact, alike.present exact⟩
        · exact ⟨(alike.putColumn _ _ _).fields exact, (alike.putColumn _ _ _).present exact⟩
  refine ⟨?_, fun exact => (same exact).1, fun exact => (same exact).2⟩
  simpa using alike.consumed

theorem Alike.foldl_addUnmapped (alike : comparison.Alike first second)
    (tells : comparison.Tells) (camel : Bool) (start : String) (row : Row) :
    comparison.Alike (row.foldl (Projection.addUnmapped camel start) first)
      (row.foldl (Projection.addUnmapped camel start) second) := by
  induction row generalizing first second with
  | nil => exact alike
  | cons column rest inductionHypothesis =>
    exact inductionHypothesis (alike.addUnmapped tells camel start column)

/-! ### Nested records -/

variable {calls : Calls} {shape otherShape : Shaping}

theorem Compares.shapeGroups (compares : comparison.Compares calls shape otherShape) (top : Bool)
    {map : ResultMap} {start : String} {groups : List (List Row)}
    (called : ∀ rows ∈ groups, calls rows map start) {used other : List String}
    (related : comparison.related used other) :
    Both comparison.Agree (shapeGroups shape top map start used groups)
      (shapeGroups otherShape top map start other groups) := by
  induction groups generalizing used other with
  | nil => exact .done ⟨related, fun _ => rfl⟩
  | cons rows rest inductionHypothesis =>
    obtain ⟨calledFirst, calledRest⟩ := List.forall_mem_cons.1 called
    have outcomes := compares rows map start used other calledFirst related
    unfold Projection.shapeGroups
    generalize shape rows map start used = outcome at outcomes ⊢
    generalize otherShape rows map start other = otherOutcome at outcomes ⊢
    cases outcomes with
    | failed error => exact .failed error
    | @done record otherRecord alike =>
      have later := inductionHypothesis calledRest alike.consumed
      simp only
      generalize Projection.shapeGroups shape top map start record.consumed rest = outcome
        at later ⊢
      generalize Projection.shapeGroups otherShape top map start otherRecord.consumed rest =
        otherOutcome at later ⊢
      cases later with
      | failed error => exact .failed error
      | @done results otherResults agree =>
        obtain ⟨records, consumed⟩ := results
        obtain ⟨otherRecords, otherConsumed⟩ := otherResults
        have same : comparison.exact → record.toValue map.typeName :: records =
            otherRecord.toValue map.typeName :: otherRecords ∧ records = otherRecords := by
          intro exact
          obtain rfl : records = otherRecords := agree.result exact
          rw [OpenRecord.toValue, OpenRecord.toValue, alike.fields exact]
          exact ⟨rfl, rfl⟩
        cases kept : record.present || top <;> cases otherKept : otherRecord.present || top
        · exact .done ⟨agree.consumed, fun exact => (same exact).2⟩
        · refine .done ⟨agree.consumed, fun exact => ?_⟩
          rw [alike.present exact, otherKept] at kept
          cases kept
        · refine .done ⟨agree.consumed, fun exact => ?_⟩
          rw [alike.present exact, otherKept] at kept
          cases kept
        · exact .done ⟨agree.consumed, fun exact => (same exact).1⟩

/-- The groups of rows that a nested mapping of a kind shapes records from. -/
def nestedRows (kind : NestedKind) (map : ResultMap) (start : String) (rows : List Row) :
    List (List Row) :=
  match kind with
  | .association => [rows.take 1]
  | .collection => groupRows false map start rows

theorem mem_of_mem_nestedRows {kind : NestedKind} {map : ResultMap} {start : String}
    {rows group : List Row} {row : Row} (member : group ∈ nestedRows kind map start rows)
    (isRow : row ∈ group) : row ∈ rows := by
  cases kind with
  | association =>
    rw [List.mem_singleton.1 member] at isRow
    exact List.mem_of_mem_take isRow
  | collection => exact mem_of_mem_groupRows member isRow

theorem Compares.shapeNested (compares : comparison.Compares calls shape otherShape)
    (kind : NestedKind) {rows : List Row} {map : ResultMap} {start : String}
    (called : ∀ others ∈ nestedRows kind map start rows, calls others map start)
    {used other : List String} (related : comparison.related used other) :
    Both comparison.Agree (shapeNested shape kind rows map start used)
      (shapeNested otherShape kind rows map start other) := by
  cases kind with
  | association =>
    have outcomes := compares (rows.take 1) map start used other
      (called _ List.mem_cons_self) related
    unfold Projection.shapeNested
    simp only
    generalize shape (rows.take 1) map start used = outcome at outcomes ⊢
    generalize otherShape (rows.take 1) map start other = otherOutcome at outcomes ⊢
    cases outcomes with
    | failed error => exact .failed error
    | done alike =>
      refine .done ⟨alike.consumed, fun exact => ?_⟩
      rw [OpenRecord.toValue, OpenRecord.toValue, alike.fields exact, alike.present exact]
  | collection =>
    have calledEach : ∀ group ∈ groupRows false map start rows, calls group map start := called
    have outcomes := compares.shapeGroups false calledEach related
    unfold Projection.shapeNested
    simp only
    generalize Projection.shapeGroups shape false map start used _ = outcome at outcomes ⊢
    generalize Projection.shapeGroups otherShape false map start other _ = otherOutcome
      at outcomes ⊢
    cases outcomes with
    | failed error => exact .failed error
    | done agree =>
      exact .done ⟨agree.consumed, fun exact => congrArg Value.list (agree.result exact)⟩

/-- The calls that the nested mappings of a result map make are among the given ones. -/
def Makes (registry : Registry) (trail : Trail) (calls : Calls) (rows : List Row)
    (start : String) (rules : List (Nested ResultMap)) : Prop :=
  ∀ rule ∈ rules, ∀ map, registry.nestedMap? rule.target = .ok (some map) →
    isLeftOut trail rows rule map (start ++ rule.columnPrefix.getD "") = false →
    ∀ others ∈ nestedRows rule.kind map (start ++ rule.columnPrefix.getD "") rows,
      calls others map (start ++ rule.columnPrefix.getD "")

/-- The calls that the nested mappings of a result map could make with any of the rows are among
the given ones. -/
def Admits (registry : Registry) (trail : Trail) (calls : Calls) (rows : List Row)
    (start : String) (rules : List (Nested ResultMap)) : Prop :=
  ∀ rule ∈ rules, ∀ map, registry.nestedMap? rule.target = .ok (some map) →
    isLeftOut trail rows rule map (start ++ rule.columnPrefix.getD "") = false →
    ∀ others : List Row, (∀ row ∈ others, row ∈ rows) →
      calls others map (start ++ rule.columnPrefix.getD "")

theorem Admits.makes {registry : Registry} {trail : Trail} {rows : List Row} {start : String}
    {rules : List (Nested ResultMap)} (admits : Admits registry trail calls rows start rules) :
    Makes registry trail calls rows start rules :=
  fun rule member map found notLeftOut others isGroup =>
    admits rule member map found notLeftOut others fun _ => mem_of_mem_nestedRows isGroup

theorem Compares.addNested (compares : comparison.Compares calls shape otherShape)
    (alike : comparison.Alike first second) {registry : Registry} {trail : Trail}
    {rows : List Row} {start : String} {rule : Nested ResultMap}
    (makes : Makes registry trail calls rows start [rule]) :
    Both comparison.Alike (addNested registry trail shape rows start first rule)
      (addNested registry trail otherShape rows start second rule) := by
  unfold Projection.addNested
  split
  · exact .failed _
  · exact .done alike
  · next map found =>
    simp only
    cases leftOut : isLeftOut trail rows rule map (start ++ rule.columnPrefix.getD "") with
    | true =>
      simp only [if_true]
      exact .done (alike.put _ fun _ => rfl)
    | false =>
      simp only [Bool.false_eq_true, if_false]
      have outcomes := compares.shapeNested rule.kind
        (makes rule List.mem_cons_self map found leftOut) alike.consumed
      generalize Projection.shapeNested shape rule.kind rows map _ first.consumed = outcome
        at outcomes ⊢
      generalize Projection.shapeNested otherShape rule.kind rows map _ second.consumed =
        otherOutcome at outcomes ⊢
      cases outcomes with
      | failed error => exact .failed error
      | done agree =>
        exact .done ((alike.put rule.property agree.result).withConsumed agree.consumed)

theorem Compares.addEachNested (compares : comparison.Compares calls shape otherShape)
    (alike : comparison.Alike first second) {registry : Registry} {trail : Trail}
    {rows : List Row} {start : String} {rules : List (Nested ResultMap)}
    (makes : Makes registry trail calls rows start rules) :
    Both comparison.Alike (addEachNested registry trail shape rows start first rules)
      (addEachNested registry trail otherShape rows start second rules) := by
  induction rules generalizing first second with
  | nil => exact .done alike
  | cons rule rest inductionHypothesis =>
    have makesFirst : Makes registry trail calls rows start [rule] := by
      intro other member
      obtain rfl := List.mem_singleton.1 member
      exact makes other List.mem_cons_self
    have outcomes := compares.addNested alike makesFirst
    unfold Projection.addEachNested
    generalize Projection.addNested registry trail shape rows start first rule = outcome
      at outcomes ⊢
    generalize Projection.addNested registry trail otherShape rows start second rule =
      otherOutcome at outcomes ⊢
    cases outcomes with
    | failed error => exact .failed error
    | done alikeNext =>
      exact inductionHypothesis alikeNext fun other member =>
        makes other (List.mem_cons_of_mem _ member)

/-! ### Records -/

/-- Shapings that compare on the calls of a record give records that compare. -/
theorem Compares.shapeRecord (compares : comparison.Compares calls shape otherShape)
    {registry : Registry} {trail : Trail} {rows : List Row} {map : ResultMap} {start : String}
    (makes : Makes registry trail calls rows start map.nested)
    (tells : map.autoMapping = true → comparison.Tells) {used other : List String}
    (related : comparison.related used other) :
    Both comparison.Alike (shapeRecord registry trail shape rows map start used)
      (shapeRecord registry trail otherShape rows map start other) := by
  unfold Projection.shapeRecord
  cases rows with
  | nil => exact .done (alike_start related)
  | cons row rest =>
    have plain := (alike_start related).foldl_addMapped row start map.mappings
    have outcomes := compares.addEachNested plain makes
    simp only
    generalize Projection.addEachNested registry trail shape (row :: rest) start _ map.nested =
      outcome at outcomes ⊢
    generalize Projection.addEachNested registry trail otherShape (row :: rest) start _
      map.nested = otherOutcome at outcomes ⊢
    cases outcomes with
    | failed error => exact .failed error
    | done alike =>
      refine .done ?_
      cases auto : map.autoMapping with
      | true => exact alike.foldl_addUnmapped (tells auto) registry.settings.camelCase start row
      | false => exact alike

/-- Whatever columns have been used, shaping compares with itself, if it never auto-maps or related
columns are the same. -/
theorem compares_shapeWithin (comparison : Comparison) {registry : Registry}
    {property : ResultMap → Prop} (passes : registry.Passes property)
    (tells : ∀ map, property map → map.autoMapping = true → comparison.Tells) (depth : Nat)
    (trail : Trail) :
    comparison.Compares (fun _ map _ => property map) (shapeWithin registry depth trail)
      (shapeWithin registry depth trail) := by
  induction depth generalizing trail with
  | zero => exact fun rows map start used other _ related => .done (alike_start related)
  | succ depth inductionHypothesis =>
    intro rows map start used other holds related
    unfold shapeWithin
    refine (inductionHypothesis ((map.qualifiedId, start) :: trail)).shapeRecord ?_
      (tells map holds) related
    exact fun rule member inner found _ _ _ => passes map holds rule member inner found

/-! ### The comparisons in use -/

/-- The very same columns, and the same records. -/
def identical : Comparison where
  related := Eq
  exact := True
  claim column same := congrArg (Projection.claim column) same

theorem tells_identical : identical.Tells := by
  rintro - first _ rfl column
  rfl

/-- Columns in any order, and the same records. -/
def unordered : Comparison where
  related first second := ∀ column, column ∈ first ↔ column ∈ second
  exact := True
  claim column same other := by rw [mem_claim, mem_claim, same other]

theorem tells_unordered : unordered.Tells :=
  fun _ _ _ same => same

/-- Any columns, and the same records. -/
def unrelated : Comparison where
  related _ _ := True
  exact := True
  claim _ _ := trivial

/-- On one side some columns have been used besides those of the other side; records may differ. -/
def besides (columns : List String) : Comparison where
  related first second := ∀ column, column ∈ first ↔ column ∈ columns ∨ column ∈ second
  exact := False
  claim column same other := by
    rw [mem_claim, mem_claim, same other, or_left_comm]

theorem tells_besides (columns : List String) : (besides columns).Tells :=
  fun exact => exact.elim

end Comparison

theorem eq_of_both_identical {first second : Except Error OpenRecord}
    (both : Both Comparison.identical.Alike first second) : first = second := by
  cases both with
  | failed error => rfl
  | @done record other alike =>
    obtain ⟨fields, present, consumed⟩ := record
    obtain ⟨otherFields, otherPresent, otherConsumed⟩ := other
    obtain rfl : fields = otherFields := alike.fields trivial
    obtain rfl : present = otherPresent := alike.present trivial
    obtain rfl : consumed = otherConsumed := alike.consumed
    rfl

end DynamicSql.Projection
