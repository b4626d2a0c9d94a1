/-
This file says that leaving out a nested mapping whose prefix no column has only saves work: shaping
its records all the same gives nothing and uses no column. A longer prefix is not had by any column
either, so nothing is found in the result maps below it: not by the names of mappings, which stand
behind the prefix, nor by taking over columns, whose names must go on behind it. For this to end, no
result map may be used within itself; shaping then is no deeper than there are result maps used
within the first one.
-/

import DynamicSql.Proofs.Projection.Children
import DynamicSql.Proofs.Registry.Usage
import DynamicSql.Proofs.Text.Case

namespace DynamicSql

open Relation (ReflTransGen TransGen)

namespace Projection

variable {registry : Registry} {rows : List Row} {row : Row} {start : String}

/-! ### Prefixes that no column has -/

/-- A name begins with a prefix, in any case of the Latin letters, and goes on behind it. -/
def StartsBeyond (start name : String) : Prop :=
  ∃ head rest, name.toList = head ++ rest ∧
    Text.sameIgnoringCase head start.toList = true ∧ rest ≠ []

/-- No column of the rows has a name that begins with the prefix and goes on behind it. -/
def Lacks (rows : List Row) (start : String) : Prop :=
  ∀ row ∈ rows, ∀ column ∈ row, ¬ StartsBeyond start column.1

theorem isSome_behindPrefix?_iff (filled : start ≠ "") (name : String) :
    (behindPrefix? start name).isSome = true ↔ StartsBeyond start name := by
  have notEmpty : start.isEmpty = false := by simpa using filled
  have isDropped : (behindPrefix? start name).isSome = true ↔
      ∃ rest, Text.dropPrefixIgnoringCase? start.toList name.toList = some rest ∧ rest ≠ [] := by
    unfold behindPrefix?
    rw [notEmpty, if_neg Bool.false_ne_true]
    cases Text.dropPrefixIgnoringCase? start.toList name.toList with
    | none => simp
    | some rest => cases rest <;> simp
  rw [isDropped]
  constructor
  · rintro ⟨rest, dropped, goesOn⟩
    obtain ⟨head, parts, same⟩ := Text.dropPrefixIgnoringCase?_eq_some_iff.1 dropped
    exact ⟨head, rest, parts, same, goesOn⟩
  · rintro ⟨head, rest, parts, same, goesOn⟩
    exact ⟨rest, Text.dropPrefixIgnoringCase?_eq_some_iff.2 ⟨head, parts, same⟩, goesOn⟩

/-- What decides whether a nested mapping is left out is whether the prefix is lacking. -/
theorem anyCarries_eq_false_iff (filled : start ≠ "") :
    anyCarries rows start = false ↔ Lacks rows start := by
  unfold anyCarries Lacks
  simp only [List.any_eq_false, List.any_eq_true, not_exists, not_and,
    isSome_behindPrefix?_iff filled]

theorem Lacks.subset {others : List Row} (lacks : Lacks rows start)
    (among : ∀ row ∈ others, row ∈ rows) : Lacks others start :=
  fun row isRow => lacks row (among row isRow)

/-- Where a prefix is lacking, longer ones are. -/
theorem Lacks.append (lacks : Lacks rows start) (more : String) : Lacks rows (start ++ more) := by
  rintro row isRow column isColumn ⟨long, rest, parts, same, goesOn⟩
  rw [String.toList_append, Text.sameIgnoringCase_iff, List.map_append] at same
  -- What the longer prefix begins with up to case, the name begins with as well.
  obtain ⟨head, middle, rfl, sameHead, -⟩ := List.map_eq_append_iff.1 same
  refine lacks row isRow column isColumn
    ⟨head, middle ++ rest, ?_, Text.sameIgnoringCase_iff.2 sameHead, ?_⟩
  · rw [parts, List.append_assoc]
  · exact List.append_ne_nil_of_right_ne_nil _ goesOn

/-- Where a prefix is lacking, no column is found by the prefix and a name behind it. -/
theorem Lacks.column?_eq_none (lacks : Lacks rows start) (filled : start ≠ "") (isRow : row ∈ rows)
    {name : String} (named : name ≠ "") : column? row (start ++ name) = none := by
  cases found : column? row (start ++ name) with
  | none => rfl
  | some column =>
    have carried := anyCarries_of_column? isRow named found
    rw [(anyCarries_eq_false_iff filled).2 lacks] at carried
    cases carried

/-- Where a prefix is lacking, nothing stands behind it in the names of columns. -/
theorem Lacks.behindPrefix?_eq_none (lacks : Lacks rows start) (filled : start ≠ "")
    (isRow : row ∈ rows) {column : String × Value} (isColumn : column ∈ row) :
    behindPrefix? start column.1 = none := by
  rw [← Option.not_isSome_iff_eq_none, isSome_behindPrefix?_iff filled]
  exact lacks row isRow column isColumn

/-! ### Shaping that leaves out more or less -/

/-- Which nested mappings, with the prefix of their columns, are left out where no column has it. -/
abbrev Policy := Nested ResultMap → String → Bool

/-- Those that declare a prefix of their own. -/
def Policy.declared : Policy := fun rule _ => rule.columnPrefix.isSome

/-- None. -/
def Policy.never : Policy := fun _ _ => false

/-- A nested mapping that is left out, by a policy for those whose prefix no column has. -/
def isLeftOutBy (policy : Policy) (trail : Trail) (rows : List Row) (rule : Nested ResultMap)
    (map : ResultMap) (start : String) : Bool :=
  (policy rule start && !anyCarries rows start) || trail.contains (map.qualifiedId, start)

/-- A record with the property of a nested mapping, by a policy. -/
def addNestedBy (policy : Policy) (registry : Registry) (trail : Trail) (shape : Shaping)
    (rows : List Row) (start : String) (record : OpenRecord) (rule : Nested ResultMap) :
    Except Error OpenRecord :=
  match registry.nestedMap? rule.target with
  | .error error => .error error
  | .ok none => .ok record
  | .ok (some map) =>
    let inner := start ++ rule.columnPrefix.getD ""
    if isLeftOutBy policy trail rows rule map inner then
      .ok (record.put rule.property (nothing rule.kind))
    else
      match shapeNested shape rule.kind rows map inner record.consumed with
      | .error error => .error error
      | .ok (value, consumed) => .ok { record.put rule.property value with consumed }

/-- A record with the properties of nested mappings, by a policy. -/
def addEachNestedBy (policy : Policy) (registry : Registry) (trail : Trail) (shape : Shaping)
    (rows : List Row) (start : String) (record : OpenRecord) :
    List (Nested ResultMap) → Except Error OpenRecord
  | [] => .ok record
  | rule :: rest =>
    match addNestedBy policy registry trail shape rows start record rule with
    | .error error => .error error
    | .ok record => addEachNestedBy policy registry trail shape rows start record rest

/-- One record from the rows of its group, by a policy. -/
def shapeRecordBy (policy : Policy) (registry : Registry) (trail : Trail) (shape : Shaping) :
    Shaping :=
  fun rows map start consumed =>
    match rows with
    | [] => .ok (.start consumed)
    | first :: _ =>
      let plain := map.mappings.foldl (addMapped first start) (.start consumed)
      match addEachNestedBy policy registry trail shape rows start plain map.nested with
      | .error error => .error error
      | .ok record =>
        .ok (if map.autoMapping then
          first.foldl (addUnmapped registry.settings.camelCase start) record else record)

/-- Records within the result maps of a trail, by a policy. Those that are nested deeper than
`depth` are shaped by `bottom`. -/
def shapeWithinBy (policy : Policy) (registry : Registry) (bottom : Shaping) :
    Nat → Trail → Shaping
  | 0, _ => bottom
  | depth + 1, trail => fun rows map start consumed =>
    let trail := (map.qualifiedId, start) :: trail
    shapeRecordBy policy registry trail (shapeWithinBy policy registry bottom depth trail) rows map
      start consumed

@[simp]
theorem addEachNestedBy_declared (registry : Registry) (trail : Trail) (shape : Shaping)
    (rows : List Row) (start : String) (record : OpenRecord) (rules : List (Nested ResultMap)) :
    addEachNestedBy .declared registry trail shape rows start record rules =
      addEachNested registry trail shape rows start record rules := by
  induction rules generalizing record with
  | nil => rfl
  | cons rule rest inductionHypothesis =>
    have sameStep : addNestedBy .declared registry trail shape rows start record rule =
        addNested registry trail shape rows start record rule := rfl
    rw [addEachNestedBy, addEachNested, sameStep]
    cases addNested registry trail shape rows start record rule with
    | error error => rfl
    | ok next => exact inductionHypothesis next

@[simp]
theorem shapeRecordBy_declared (registry : Registry) (trail : Trail) (shape : Shaping) :
    shapeRecordBy .declared registry trail shape = shapeRecord registry trail shape := by
  funext rows map start consumed
  cases rows with
  | nil => rfl
  | cons first rest =>
    cases nested : addEachNested registry trail shape (first :: rest) start
        (map.mappings.foldl (addMapped first start) (.start consumed)) map.nested with
    | error error => simp only [shapeRecordBy, shapeRecord, addEachNestedBy_declared, nested]
    | ok record => simp only [shapeRecordBy, shapeRecord, addEachNestedBy_declared, nested]

/-- Leaving out those that declare a prefix is what shaping does. -/
theorem shapeWithinBy_declared (registry : Registry) (depth : Nat) (trail : Trail) :
    shapeWithinBy .declared registry (fun _ _ _ consumed => .ok (.start consumed)) depth trail =
      shapeWithin registry depth trail := by
  induction depth generalizing trail with
  | zero => rfl
  | succ depth inductionHypothesis =>
    funext rows map start consumed
    simp only [shapeWithinBy, shapeWithin, inductionHypothesis, shapeRecordBy_declared]

/-! ### Nothing found -/

/-- A record has gone on without a value and without using a column. -/
structure OpenRecord.Stays (before after : OpenRecord) : Prop where
  present : after.present = before.present
  consumed : after.consumed = before.consumed

theorem OpenRecord.Stays.refl (record : OpenRecord) : record.Stays record :=
  ⟨rfl, rfl⟩

theorem OpenRecord.Stays.trans {before between after : OpenRecord} (first : before.Stays between)
    (second : between.Stays after) : before.Stays after :=
  ⟨second.present.trans first.present, second.consumed.trans first.consumed⟩

/-- Shaping by a result map finds nothing where the prefix is lacking: it gives a record, which has
no value and has used no column. -/
def FindsNothing (shape : Shaping) (map : ResultMap) : Prop :=
  ∀ rows start used, start ≠ "" → Lacks rows start →
    ∃ record, shape rows map start used = .ok record ∧ (OpenRecord.start used).Stays record

section

variable {shape : Shaping} {policy : Policy} {trail : Trail} {map : ResultMap}

/-- Records in which nothing is found are left out below the top. -/
theorem FindsNothing.shapeGroups (finds : FindsNothing shape map) (filled : start ≠ "")
    (used : List String) {groups : List (List Row)} (lack : ∀ group ∈ groups, Lacks group start) :
    shapeGroups shape false map start used groups = .ok ([], used) := by
  induction groups with
  | nil => rfl
  | cons group rest inductionHypothesis =>
    obtain ⟨lacksFirst, lackRest⟩ := List.forall_mem_cons.1 lack
    obtain ⟨record, shaped, stays⟩ := finds group start used filled lacksFirst
    have notPresent : record.present = false := stays.present
    have sameUsed : record.consumed = used := stays.consumed
    rw [Projection.shapeGroups, shaped]
    simp only [sameUsed, inductionHypothesis lackRest, notPresent, Bool.or_false,
      Bool.false_eq_true, if_false]

/-- The value of a nested mapping is nothing where nothing is found. -/
theorem FindsNothing.shapeNested (finds : FindsNothing shape map) (filled : start ≠ "")
    (lacks : Lacks rows start) (kind : NestedKind) (used : List String) :
    shapeNested shape kind rows map start used = .ok (nothing kind, used) := by
  cases kind with
  | association =>
    obtain ⟨record, shaped, stays⟩ := finds (rows.take 1) start used filled
      (lacks.subset fun row => List.mem_of_mem_take)
    have notPresent : record.present = false := stays.present
    have sameUsed : record.consumed = used := stays.consumed
    simp only [Projection.shapeNested, shaped, notPresent, sameUsed, nothing, Bool.false_eq_true,
      if_false]
  | collection =>
    have groups : ∀ group ∈ groupRows false map start rows, Lacks group start :=
      fun group isGroup => lacks.subset fun row => mem_of_mem_groupRows isGroup
    simp only [Projection.shapeNested, finds.shapeGroups filled used groups, nothing]

/-- Whatever the policy, a nested mapping puts nothing into a record where nothing is found. -/
theorem FindsNothing.addNestedBy (finds : FindsNothing shape map) {rule : Nested ResultMap}
    (found : registry.nestedMap? rule.target = .ok (some map))
    (filled : start ++ rule.columnPrefix.getD "" ≠ "")
    (lacks : Lacks rows (start ++ rule.columnPrefix.getD "")) (record : OpenRecord) :
    addNestedBy policy registry trail shape rows start record rule =
      .ok (record.put rule.property (nothing rule.kind)) := by
  unfold Projection.addNestedBy
  rw [found]
  simp only [finds.shapeNested filled lacks]
  split <;> rfl

/-- No mapping of a column finds one where the prefix is lacking. -/
theorem foldl_addMapped_of_lacks (lacks : Lacks rows start) (filled : start ≠ "")
    (isRow : row ∈ rows) {rules : List Mapping} (named : ∀ rule ∈ rules, rule.column ≠ "")
    (record : OpenRecord) : rules.foldl (addMapped row start) record = record := by
  induction rules with
  | nil => rfl
  | cons rule rest inductionHypothesis =>
    obtain ⟨namedFirst, namedRest⟩ := List.forall_mem_cons.1 named
    have unchanged : addMapped row start record rule = record := by
      rw [addMapped, lacks.column?_eq_none filled isRow namedFirst]
    rw [List.foldl_cons, unchanged, inductionHypothesis namedRest]

/-- No column is taken over where the prefix is lacking. -/
theorem foldl_addUnmapped_of_lacks (lacks : Lacks rows start) (filled : start ≠ "")
    (isRow : row ∈ rows) (camel : Bool) {columns : Row} (among : ∀ column ∈ columns, column ∈ row)
    (record : OpenRecord) : columns.foldl (addUnmapped camel start) record = record := by
  induction columns with
  | nil => rfl
  | cons column rest inductionHypothesis =>
    obtain ⟨inRow, restInRow⟩ := List.forall_mem_cons.1 among
    have unchanged : addUnmapped camel start record column = record := by
      rw [addUnmapped, lacks.behindPrefix?_eq_none filled isRow inRow]
      exact ite_self record
    rw [List.foldl_cons, unchanged, inductionHypothesis restInRow]

/-- Nested mappings leave a record without a value where the prefix is lacking. -/
theorem exists_stays_of_addEachNestedBy (policy : Policy) (trail : Trail)
    {rules : List (Nested ResultMap)} (filled : start ≠ "") (lacks : Lacks rows start)
    (resolves : ∀ rule ∈ rules, ∃ found, registry.nestedMap? rule.target = .ok found)
    (find : ∀ rule ∈ rules, ∀ inner, registry.nestedMap? rule.target = .ok (some inner) →
      FindsNothing shape inner) (record : OpenRecord) :
    ∃ last, addEachNestedBy policy registry trail shape rows start record rules = .ok last ∧
      record.Stays last := by
  induction rules generalizing record with
  | nil => exact ⟨record, rfl, .refl record⟩
  | cons rule rest inductionHypothesis =>
    obtain ⟨⟨found, isFound⟩, resolvesRest⟩ := List.forall_mem_cons.1 resolves
    obtain ⟨findFirst, findRest⟩ := List.forall_mem_cons.1 find
    have step : ∃ next, addNestedBy policy registry trail shape rows start record rule =
        .ok next ∧ record.Stays next := by
      cases found with
      | none =>
        refine ⟨record, ?_, .refl record⟩
        rw [addNestedBy, isFound]
      | some inner =>
        have filledInner : start ++ rule.columnPrefix.getD "" ≠ "" :=
          fun empty => filled (String.append_eq_empty_iff.1 empty).1
        exact ⟨_, (findFirst inner isFound).addNestedBy isFound filledInner (lacks.append _) record,
          rfl, rfl⟩
    obtain ⟨next, added, staysNext⟩ := step
    obtain ⟨last, addedRest, staysLast⟩ := inductionHypothesis resolvesRest findRest next
    refine ⟨last, ?_, staysNext.trans staysLast⟩
    rw [addEachNestedBy, added]
    exact addedRest

/-- Nothing is found by a result map if nothing is found by those it uses. -/
theorem findsNothing_shapeRecordBy (policy : Policy) (trail : Trail)
    (named : ∀ rule ∈ map.mappings, rule.column ≠ "")
    (resolves : ∀ rule ∈ map.nested, ∃ found, registry.nestedMap? rule.target = .ok found)
    (find : ∀ inner, registry.Uses map inner → FindsNothing shape inner) :
    FindsNothing (shapeRecordBy policy registry trail shape) map := by
  intro rows start used filled lacks
  cases rows with
  | nil => exact ⟨_, rfl, .refl _⟩
  | cons first rest =>
    have isRow : first ∈ first :: rest := List.mem_cons_self
    obtain ⟨last, added, stays⟩ := exists_stays_of_addEachNestedBy policy trail filled lacks
      resolves (fun rule isRule inner found => find inner ⟨rule, isRule, found⟩) (.start used)
    refine ⟨last, ?_, stays⟩
    simp only [shapeRecordBy, foldl_addMapped_of_lacks lacks filled isRow named, added,
      foldl_addUnmapped_of_lacks lacks filled isRow _ (fun _ => id), ite_self]

/-- Nothing is found by a result map that can be followed to an end, whatever the policy, when
shaping may be deeper than there are result maps used within that one, or finds nothing at the
bottom. -/
theorem findsNothing_shapeWithinBy (policy : Policy) {bottom : Shaping} {depth : Nat}
    (followed : registry.CanBeFollowed map)
    (ends : (registry.usedWithin map).ncard < depth ∨ ∀ map, FindsNothing bottom map)
    (trail : Trail) : FindsNothing (shapeWithinBy policy registry bottom depth trail) map := by
  induction depth generalizing map trail with
  | zero =>
    rcases ends with deep | atBottom
    · exact absurd deep (Nat.not_lt_zero _)
    · exact atBottom map
  | succ depth inductionHypothesis =>
    intro rows start used
    refine findsNothing_shapeRecordBy policy _ (followed.named .refl) (followed.resolves .refl)
      (fun inner uses => inductionHypothesis (followed.uses uses) ?_ _) rows start used
    have fewer := Registry.ncard_usedWithin_lt uses (followed.notRecursive (.single uses))
    exact ends.imp_left fun deep => by omega

/-- Shaping as it is finds nothing either, with no regard to depth. -/
theorem findsNothing_shapeWithin (followed : registry.CanBeFollowed map) (depth : Nat)
    (trail : Trail) : FindsNothing (shapeWithin registry depth trail) map := by
  rw [← shapeWithinBy_declared]
  exact findsNothing_shapeWithinBy .declared followed
    (.inr fun map rows start used _ _ => ⟨_, rfl, .refl _⟩) trail

end

/-- Where no column has the prefix of a nested mapping, shaping its records gives nothing and uses
no column, to the end if it is allowed to be deep enough, and by any policy below. So not leaving
the mapping out gives the record that leaving it out gives. -/
theorem leaving_out_changes_nothing (registry : Registry) (map : ResultMap)
    (followed : registry.CanBeFollowed map) (rows : List Row) (start : String) (filled : start ≠ "")
    (lacks : Lacks rows start) :
    (∀ depth, (registry.usedWithin map).ncard < depth → ∀ policy bottom trail kind used,
      shapeNested (shapeWithinBy policy registry bottom depth trail) kind rows map start used =
        .ok (nothing kind, used)) ∧
    (∀ depth trail kind used, shapeNested (shapeWithin registry depth trail) kind rows map start
      used = .ok (nothing kind, used)) ∧
    ∀ (rule : Nested ResultMap) (outer : String) (trail : Trail) (record : OpenRecord),
      registry.nestedMap? rule.target = .ok (some map) →
      outer ++ rule.columnPrefix.getD "" = start →
      (rule.columnPrefix.isSome = true → ∀ shape,
        addNested registry trail shape rows outer record rule =
          .ok (record.put rule.property (nothing rule.kind))) ∧
      ∀ depth, (registry.usedWithin map).ncard < depth → ∀ policy bottom,
        addNestedBy .never registry trail (shapeWithinBy policy registry bottom depth trail) rows
          outer record rule = .ok (record.put rule.property (nothing rule.kind)) := by
  refine ⟨fun depth deep policy bottom trail kind used => ?_, fun depth trail kind used => ?_, ?_⟩
  · exact (findsNothing_shapeWithinBy policy followed (.inl deep) trail).shapeNested filled lacks
      kind used
  · exact (findsNothing_shapeWithin followed depth trail).shapeNested filled lacks kind used
  · rintro rule outer trail record found rfl
    refine ⟨fun declares shape => ?_, fun depth deep policy bottom => ?_⟩
    · have notCarried := (anyCarries_eq_false_iff filled).2 lacks
      have leftOut : isLeftOut trail rows rule map (outer ++ rule.columnPrefix.getD "") = true := by
        rw [isLeftOut, declares, notCarried]
        rfl
      rw [addNested, found]
      simp only [leftOut, if_true]
    · exact (findsNothing_shapeWithinBy policy followed (.inl deep) trail).addNestedBy found filled
        lacks record

/-! ### Volumes that are not there -/

/-- A person, from whatever columns there are. -/
def writerMap : ResultMap where
  namespaceName := "space"
  id := "writer"
  typeName := some "writer"
  extended := none
  autoMapping := true
  ids := []
  results := [⟨"name", "name", none, none⟩]
  nested := []

/-- A volume with the person who wrote it. -/
def volumeMap : ResultMap where
  namespaceName := "space"
  id := "volume"
  typeName := some "volume"
  extended := none
  autoMapping := true
  ids := [⟨"id", "id", none, none⟩]
  results := []
  nested := [⟨.association, "author", .reference "space.writer", some "author_", none⟩]

/-- A registry of the two result maps. -/
def catalogue : Registry :=
  ⟨.standard, [⟨"space", [], [writerMap, volumeMap], []⟩]⟩

/-- The mapping of the volumes of something. -/
def volumesRule : Nested ResultMap :=
  ⟨.collection, "volumes", .reference "space.volume", some "volume_", none⟩

/-- Rows without a column of a volume, though with names that come close. -/
def bareRows : List Row :=
  [[("id", .int64 1), ("VOLUME_", .int64 2)], [("id", .int64 1), ("volume", .string "x")]]

theorem catalogue_writer :
    catalogue.nestedMap? (.reference "space.writer") = .ok (some writerMap) :=
  Registry.nestedMap?_of_declared rfl rfl

theorem catalogue_volume :
    catalogue.nestedMap? (.reference "space.volume") = .ok (some volumeMap) :=
  Registry.nestedMap?_of_declared rfl rfl

theorem eq_writerMap_of_uses {inner : ResultMap} (uses : catalogue.Uses volumeMap inner) :
    inner = writerMap := by
  obtain ⟨rule, isRule, found⟩ := uses
  obtain rfl := List.mem_singleton.1 isRule
  exact Option.some.inj (Except.ok.inj (found.symm.trans catalogue_writer))

theorem not_uses_writerMap (inner : ResultMap) : ¬ catalogue.Uses writerMap inner :=
  fun ⟨_, isRule, _⟩ => nomatch isRule

theorem usedWithin_writerMap : catalogue.usedWithin writerMap = ∅ := by
  refine Set.eq_empty_of_forall_notMem fun inner isUsed => ?_
  obtain ⟨next, uses, -⟩ := TransGen.head'_iff.1 isUsed
  exact not_uses_writerMap next uses

theorem usedWithin_volumeMap : catalogue.usedWithin volumeMap ⊆ {writerMap} := by
  intro inner isUsed
  obtain ⟨next, uses, reaches⟩ := TransGen.head'_iff.1 isUsed
  obtain rfl := eq_writerMap_of_uses uses
  rcases ReflTransGen.cases_head reaches with same | ⟨last, further, -⟩
  · exact same.symm
  · exact absurd further (not_uses_writerMap last)

theorem volume_or_writer {outer : ResultMap}
    (reaches : ReflTransGen catalogue.Uses volumeMap outer) :
    outer = volumeMap ∨ outer = writerMap :=
  (Relation.reflTransGen_iff_eq_or_transGen.1 reaches).imp_right fun isUsed =>
    usedWithin_volumeMap isUsed

theorem canBeFollowed_volumeMap : catalogue.CanBeFollowed volumeMap where
  resolves reaches := by
    rcases volume_or_writer reaches with rfl | rfl
    · exact List.forall_mem_singleton.2 ⟨_, catalogue_writer⟩
    · exact fun rule isRule => nomatch isRule
  notRecursive reaches := by
    rcases volume_or_writer reaches with rfl | rfl
    · intro isUsed
      exact absurd (congrArg ResultMap.id (usedWithin_volumeMap isUsed)) (by decide)
    · rw [usedWithin_writerMap]
      exact Set.notMem_empty writerMap
  named reaches := by
    rcases volume_or_writer reaches with rfl | rfl <;> decide

/-- Shaping that gives up. -/
def tooDeep : Shaping :=
  fun _ _ _ _ => .error (.note "too deep")

theorem leaving_out_changes_nothing_volumes :
    shapeNested (shapeWithinBy .never catalogue tooDeep 2 []) .collection bareRows volumeMap
        "volume_" [] = .ok (.list [], []) ∧
      addNestedBy .never catalogue [] (shapeWithinBy .never catalogue tooDeep 2 []) bareRows ""
          (.start []) volumesRule = .ok ((OpenRecord.start []).put "volumes" (.list [])) ∧
      addNested catalogue [] tooDeep bareRows "" (.start []) volumesRule =
        .ok ((OpenRecord.start []).put "volumes" (.list [])) := by
  have few : (catalogue.usedWithin volumeMap).ncard < 2 :=
    Nat.lt_succ_of_le ((Set.ncard_le_ncard usedWithin_volumeMap).trans
      (Set.ncard_singleton writerMap).le)
  have lacks : Lacks bareRows "volume_" := (anyCarries_eq_false_iff (by decide)).1 (by decide)
  obtain ⟨whenDeep, -, mapped⟩ := leaving_out_changes_nothing catalogue volumeMap
    canBeFollowed_volumeMap bareRows "volume_" (by decide) lacks
  obtain ⟨leftOut, notLeftOut⟩ := mapped volumesRule "" [] (.start []) catalogue_volume rfl
  exact ⟨whenDeep 2 few .never tooDeep [] .collection [], notLeftOut 2 few .never tooDeep,
    leftOut rfl tooDeep⟩

end Projection

end DynamicSql
