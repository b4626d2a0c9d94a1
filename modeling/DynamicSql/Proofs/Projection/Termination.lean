/-
This file says that shaping rows into records ends, and when it fails. One record calls for others:
for each of its nested mappings that is not left out, those of the groups of its rows. Each such
call adds its result map and prefix to the trail, where they have not been yet, so calls do not come
up within each other for ever. The recursion that follows them without counting how deep it is
therefore has one solution, which is what counting gives as well. It fails only where the target of
a nested mapping cannot be resolved.
-/

import DynamicSql.Proofs.Projection.Depth
import DynamicSql.Proofs.Registry.Resolution

namespace DynamicSql.Projection

open Relation (ReflTransGen)

variable {registry : Registry}

/-! ### Calls -/

/-- A call for one record: the result maps being used, the rows of its group, the result map and the
prefix of its columns. -/
structure Call where
  trail : Trail
  rows : List Row
  map : ResultMap
  start : String

/-- The result maps being used within a call. -/
def Call.within (call : Call) : Trail :=
  (call.map.qualifiedId, call.start) :: call.trail

/-- The record of a call, by a shaping for each trail. -/
def Call.record (call : Call) (shape : Trail → Shaping) (used : List String) :
    Except Error OpenRecord :=
  shape call.trail call.rows call.map call.start used

/-- A call makes another one: for a group of its rows, by a nested mapping that is not left out. -/
def Nests (registry : Registry) (outer inner : Call) : Prop :=
  inner.trail = outer.within ∧ ∃ rule ∈ outer.map.nested,
    registry.nestedMap? rule.target = .ok (some inner.map) ∧
    inner.start = outer.start ++ rule.columnPrefix.getD "" ∧
    isLeftOut outer.within outer.rows rule inner.map inner.start = false ∧
    inner.rows ∈ Comparison.nestedRows rule.kind inner.map inner.start outer.rows

/-- The calls that come up while rows are shaped: those for the groups of the rows, and all that
these make. -/
def ComesUp (registry : Registry) (rows : List Row) (map : ResultMap) (call : Call) : Prop :=
  ∃ group ∈ groupRows true map "" rows, ReflTransGen (Nests registry) ⟨[], group, map, ""⟩ call

theorem ComesUp.nests {rows : List Row} {map : ResultMap} {outer inner : Call}
    (comesUp : ComesUp registry rows map outer) (nests : Nests registry outer inner) :
    ComesUp registry rows map inner := by
  obtain ⟨group, isGroup, reaches⟩ := comesUp
  exact ⟨group, isGroup, reaches.tail nests⟩

/-- A call has a result map and a prefix that are not being used together, and its prefix is that of
the call that makes it, or some column of the rows has it. -/
theorem fresh_of_nests {outer inner : Call} (nests : Nests registry outer inner) :
    inner.trail = outer.within ∧ (inner.map.qualifiedId, inner.start) ∉ inner.trail ∧
      (inner.start = outer.start ∨ anyCarries outer.rows inner.start = true) := by
  obtain ⟨sameTrail, rule, isRule, found, isStart, notLeftOut, isGroup⟩ := nests
  unfold isLeftOut at notLeftOut
  obtain ⟨carried, fresh⟩ := Bool.or_eq_false_iff.1 notLeftOut
  refine ⟨sameTrail, fun used => ?_, ?_⟩
  · rw [sameTrail] at used
    rw [List.contains_iff_mem.2 used] at fresh
    cases fresh
  · cases columnPrefix : rule.columnPrefix with
    | none =>
      rw [columnPrefix, Option.getD_none, String.append_empty] at isStart
      exact .inl isStart
    | some extra =>
      rw [columnPrefix] at carried
      exact .inr (by simpa using carried)

/-- A property that result maps have however they come about is had by those of all calls. -/
theorem holds_of_comesUp {property : ResultMap → Prop}
    (inherited : registry.Inherited property) {id : String} {rows : List Row} {map : ResultMap}
    {call : Call} (resolved : registry.resultMap id = .ok map)
    (comesUp : ComesUp registry rows map call) : property call.map := by
  obtain ⟨group, isGroup, reaches⟩ := comesUp
  induction reaches with
  | refl => exact inherited.resultMap resolved
  | tail before nests inductionHypothesis =>
    obtain ⟨-, rule, isRule, found, -⟩ := nests
    exact inherited.passes _ inductionHypothesis rule isRule _ found

/-! ### Calls end -/

/-- A call that can come up while rows are shaped whose names of columns are within a limit. -/
def Call.Fits (registry : Registry) (limit : Nat) (call : Call) : Prop :=
  Projection.Fits registry limit call.trail call.rows call.map call.start

theorem Call.Fits.nests {limit : Nat} {outer inner : Call} (fits : outer.Fits registry limit)
    (nests : Nests registry outer inner) : inner.Fits registry limit := by
  obtain ⟨sameTrail, rule, isRule, found, isStart, notLeftOut, isGroup⟩ := nests
  unfold Call.Fits at fits ⊢
  rw [isStart] at notLeftOut isGroup ⊢
  rw [sameTrail]
  exact fits.admits.makes rule isRule inner.map found notLeftOut inner.rows isGroup

theorem fits_of_comesUp {id : String} {rows : List Row} {map : ResultMap} {call : Call}
    (resolved : registry.resultMap id = .ok map) (comesUp : ComesUp registry rows map call) :
    call.Fits registry (longestName rows) := by
  obtain ⟨group, isGroup, reaches⟩ := comesUp
  induction reaches with
  | refl =>
    refine ⟨(known_inherited registry).resultMap resolved, List.not_mem_nil, List.nodup_nil,
      fun _ member => absurd member List.not_mem_nil,
      fun _ member => absurd member List.not_mem_nil, Nat.zero_le _, ?_⟩
    refine longestName_le_iff.1 (longestName_mono fun row isRow => ?_)
    exact mem_of_mem_groupRows isGroup isRow
  | tail before nests fits => exact fits.nests nests

/-- Calls do not come up within each other for ever: each makes the trail longer, and trails are
bounded. -/
theorem acc_of_fits {limit : Nat} {call : Call} (fits : call.Fits registry limit) :
    Acc (fun inner outer => Nests registry outer inner) call := by
  induction left : trailBound registry limit - call.trail.length generalizing call with
  | zero =>
    have short : call.trail.length < trailBound registry limit := fits.length_trail_lt
    omega
  | succ left inductionHypothesis =>
    refine .intro call fun inner nests => inductionHypothesis (fits.nests nests) ?_
    rw [nests.1, Call.within, List.length_cons]
    omega

/-! ### The recursion without a limit -/

/-- A shaping that follows all calls that come up, however deep they lie within each other. -/
def Unlimited (registry : Registry) (rows : List Row) (map : ResultMap)
    (shape : Trail → Shaping) : Prop :=
  ∀ call, ComesUp registry rows map call → ∀ used, call.record shape used =
    shapeRecord registry call.within (shape call.within) call.rows call.map call.start used

/-- Two such shapings shape the same. -/
theorem Unlimited.unique {id : String} {rows : List Row} {map : ResultMap}
    {shape other : Trail → Shaping} (resolved : registry.resultMap id = .ok map)
    (unlimited : Unlimited registry rows map shape) (again : Unlimited registry rows map other)
    {call : Call} (comesUp : ComesUp registry rows map call) (used : List String) :
    call.record shape used = call.record other used := by
  have ends := acc_of_fits (fits_of_comesUp resolved comesUp)
  induction ends generalizing used with
  | intro call _ inductionHypothesis =>
    rw [unlimited call comesUp, again call comesUp]
    have compares : Comparison.identical.Compares
        (fun rows map start => Nests registry call ⟨call.within, rows, map, start⟩)
        (shape call.within) (other call.within) := by
      rintro rows map start used _ nests rfl
      have same : shape call.within rows map start used = other call.within rows map start used :=
        inductionHypothesis _ nests (comesUp.nests nests) used
      rw [same]
      cases other call.within rows map start used with
      | error error => exact .failed error
      | ok record => exact .done ⟨rfl, fun _ => rfl, fun _ => rfl⟩
    refine eq_of_both_identical (compares.shapeRecord ?_ (fun _ => Comparison.tells_identical) rfl)
    exact fun rule isRule inner found notLeftOut group isGroup =>
      ⟨rfl, rule, isRule, found, rfl, notLeftOut, isGroup⟩

/-- Groups are shaped the same by shapings that agree on them. -/
theorem shapeGroups_congr {shape other : Shaping} {map : ResultMap} {start : String}
    {groups : List (List Row)} (top : Bool)
    (same : ∀ group ∈ groups, ∀ used, shape group map start used = other group map start used)
    (used : List String) :
    shapeGroups shape top map start used groups = shapeGroups other top map start used groups := by
  induction groups generalizing used with
  | nil => rfl
  | cons group rest inductionHypothesis =>
    obtain ⟨sameFirst, sameRest⟩ := List.forall_mem_cons.1 same
    rw [shapeGroups, shapeGroups, sameFirst used]
    split
    · rfl
    · next record isRecord => rw [inductionHypothesis sameRest record.consumed]

/-- How rows are shaped within a trail, as deep as is left of the limit. -/
def shapeBehind (registry : Registry) (rows : List Row) (trail : Trail) : Shaping :=
  shapeWithin registry (depthLimit registry rows - trail.length) trail

theorem trailBound_lt_depthLimit (registry : Registry) (rows : List Row) :
    trailBound registry (longestName rows) < depthLimit registry rows := by
  unfold trailBound depthLimit
  rw [Nat.mul_comm]
  exact Nat.lt_succ_of_le (Nat.mul_le_mul_left _ (Nat.le_succ _))

/-- The limit is never reached. -/
theorem unlimited_shapeBehind {id : String} {rows : List Row} {map : ResultMap}
    (resolved : registry.resultMap id = .ok map) :
    Unlimited registry rows map (shapeBehind registry rows) := by
  intro call comesUp used
  have short : call.trail.length < trailBound registry (longestName rows) :=
    (fits_of_comesUp resolved comesUp).length_trail_lt
  have bound := trailBound_lt_depthLimit registry rows
  have deep : depthLimit registry rows - call.trail.length =
      (depthLimit registry rows - call.within.length) + 1 := by
    rw [Call.within, List.length_cons]
    omega
  unfold Call.record shapeBehind
  rw [deep]
  rfl

/-! ### What fails -/

section

variable {shape : Shaping} {map : ResultMap} {start : String} {used : List String} {error : Error}

theorem exists_of_shapeGroups_error {top : Bool} {groups : List (List Row)}
    (failed : shapeGroups shape top map start used groups = .error error) :
    ∃ group ∈ groups, ∃ before, shape group map start before = .error error := by
  induction groups generalizing used with
  | nil => cases failed
  | cons group rest inductionHypothesis =>
    unfold shapeGroups at failed
    split at failed
    · next other isError =>
      obtain rfl := Except.error.inj failed
      exact ⟨group, List.mem_cons_self, used, isError⟩
    · split at failed
      · next other isError =>
        obtain rfl := Except.error.inj failed
        obtain ⟨later, member, before, isLater⟩ := inductionHypothesis isError
        exact ⟨later, List.mem_cons_of_mem group member, before, isLater⟩
      · split at failed <;> cases failed

theorem exists_of_shapeNested_error {kind : NestedKind} {rows : List Row}
    (failed : shapeNested shape kind rows map start used = .error error) :
    ∃ group ∈ Comparison.nestedRows kind map start rows, ∃ before,
      shape group map start before = .error error := by
  unfold shapeNested at failed
  split at failed
  · split at failed
    · next other isError =>
      obtain rfl := Except.error.inj failed
      exact ⟨rows.take 1, List.mem_cons_self, used, isError⟩
    · cases failed
  · split at failed
    · next other isError =>
      obtain rfl := Except.error.inj failed
      exact exists_of_shapeGroups_error isError
    · cases failed

/-- Shaping nested records fails if a target cannot be resolved, or if a record that is called for
fails. -/
theorem exists_of_addEachNested_error {trail : Trail} {rows : List Row} {record : OpenRecord}
    {rules : List (Nested ResultMap)}
    (failed : addEachNested registry trail shape rows start record rules = .error error) :
    ∃ rule ∈ rules, registry.nestedMap? rule.target = .error error ∨
      ∃ inner, registry.nestedMap? rule.target = .ok (some inner) ∧
        isLeftOut trail rows rule inner (start ++ rule.columnPrefix.getD "") = false ∧
        ∃ group ∈ Comparison.nestedRows rule.kind inner (start ++ rule.columnPrefix.getD "") rows,
        ∃ before, shape group inner (start ++ rule.columnPrefix.getD "") before = .error error := by
  induction rules generalizing record with
  | nil => cases failed
  | cons rule rest inductionHypothesis =>
    unfold addEachNested at failed
    split at failed
    · next other isError =>
      obtain rfl := Except.error.inj failed
      refine ⟨rule, List.mem_cons_self, ?_⟩
      unfold addNested at isError
      split at isError
      · next cause isCause =>
        obtain rfl := Except.error.inj isError
        exact .inl isCause
      · cases isError
      · next inner found =>
        simp only at isError
        split at isError
        · cases isError
        · next notLeftOut =>
          split at isError
          · next cause isCause =>
            obtain rfl := Except.error.inj isError
            exact .inr ⟨inner, found, by simpa using notLeftOut,
              exists_of_shapeNested_error isCause⟩
          · cases isError
    · next record isRecord =>
      obtain ⟨later, member, fails⟩ := inductionHypothesis failed
      exact ⟨later, List.mem_cons_of_mem rule member, fails⟩

theorem addEachNested_of_shapeRecord_error {trail : Trail} {rows : List Row}
    (failed : shapeRecord registry trail shape rows map start used = .error error) :
    ∃ record, addEachNested registry trail shape rows start record map.nested = .error error := by
  unfold shapeRecord at failed
  split at failed
  · cases failed
  · simp only at failed
    split at failed
    · next other isError =>
      obtain rfl := Except.error.inj failed
      exact ⟨_, isError⟩
    · cases failed

end

/-- A record fails only if a call that comes up within it has a nested mapping whose target cannot
be resolved. -/
theorem exists_of_record_error {id : String} {rows : List Row} {map : ResultMap} {call : Call}
    (resolved : registry.resultMap id = .ok map) (comesUp : ComesUp registry rows map call)
    {used : List String} {error : Error}
    (failed : call.record (shapeBehind registry rows) used = .error error) :
    ∃ later, ComesUp registry rows map later ∧ ∃ rule ∈ later.map.nested,
      registry.nestedMap? rule.target = .error error := by
  have ends := acc_of_fits (fits_of_comesUp resolved comesUp)
  induction ends generalizing used with
  | intro call _ inductionHypothesis =>
    rw [unlimited_shapeBehind resolved call comesUp] at failed
    obtain ⟨record, inNested⟩ := addEachNested_of_shapeRecord_error failed
    obtain ⟨rule, isRule, fails | ⟨inner, found, notLeftOut, group, isGroup, before, fails⟩⟩ :=
      exists_of_addEachNested_error inNested
    · exact ⟨call, comesUp, rule, isRule, fails⟩
    · have nests : Nests registry call
          ⟨call.within, group, inner, call.start ++ rule.columnPrefix.getD ""⟩ :=
        ⟨rfl, rule, isRule, found, rfl, notLeftOut, isGroup⟩
      exact inductionHypothesis _ nests (comesUp.nests nests) fails

/-! ### Results -/

/-- The targets that are resolved while rows are shaped by the result map of an identifier. -/
inductive Followed (registry : Registry) (id : String) (rows : List Row) :
    NestedTarget ResultMap → Prop
  | top : Followed registry id rows (.reference id)
  | nested {map : ResultMap} {call : Call} {rule : Nested ResultMap}
      (resolved : registry.resultMap id = .ok map) (comesUp : ComesUp registry rows map call)
      (isRule : rule ∈ call.map.nested) : Followed registry id rows rule.target

/-- Rows fail only where a target that is followed cannot be resolved. -/
theorem exists_of_projectRows_error {id : String} {rows : List Row} {error : Error}
    (failed : registry.projectRows id rows = .error error) :
    ∃ target, Followed registry id rows target ∧ registry.nestedMap? target = .error error := by
  unfold Registry.projectRows at failed
  split at failed
  · next other isError =>
    obtain rfl := Except.error.inj failed
    refine ⟨.reference id, .top, ?_⟩
    show (registry.resultMap id).map some = _
    rw [isError]
    rfl
  · next map resolved =>
    obtain ⟨group, isGroup, used, fails⟩ :=
      exists_of_shapeGroups_error (eq_error_of_map_eq_error failed)
    have comesUp : ComesUp registry rows map ⟨[], group, map, ""⟩ := ⟨group, isGroup, .refl⟩
    obtain ⟨call, comesUp, rule, isRule, notResolved⟩ :=
      exists_of_record_error resolved comesUp fails
    exact ⟨rule.target, .nested resolved comesUp isRule, notResolved⟩

/-- Where identifiers are distinct, nothing that is followed clashes. -/
theorem not_clashes_of_followed {id : String} {rows : List Row} (distinct : registry.Distinct)
    {target : NestedTarget ResultMap} (followed : Followed registry id rows target) :
    ¬ registry.Clashes target := by
  rintro ⟨map, isMap, collides⟩
  refine Registry.not_collides_of_distinct distinct ?_ collides
  cases followed with
  | top =>
    refine Registry.innerMaps_of_declaredMap? isMap map ?_
    rw [map.innerMaps_eq]
    exact List.mem_cons_self
  | @nested top call rule resolved comesUp isRule =>
    have inside := holds_of_comesUp (Registry.inherited_nestedMaps registry) resolved comesUp
    cases isTarget : rule.target with
    | reference other =>
      rw [isTarget] at isMap
      refine Registry.innerMaps_of_declaredMap? isMap map ?_
      rw [map.innerMaps_eq]
      exact List.mem_cons_self
    | inline inner =>
      rw [isTarget] at isMap
      obtain rfl := Option.some.inj isMap
      refine inside inner (ResultMap.mem_nestedMaps_iff.2 ⟨rule, isRule, ?_⟩)
      rw [isTarget, ResultMap.targetMaps, inner.innerMaps_eq]
      exact List.mem_cons_self
    | select statement column =>
      rw [isTarget] at isMap
      cases isMap

/-- At the top one row is one group. -/
@[simp]
theorem groupRows_singleton (map : ResultMap) (start : String) (row : Row) :
    groupRows true map start [row] = [[row]] := by
  rw [groupRows_top, sameIdentity]
  split
  · rw [sameIdentity]
  · rw [List.filter_nil, List.filter_nil, sameIdentity]

/-- The records of one row are its record. -/
theorem projectRows_singleton (registry : Registry) (map : ResultMap) (row : Row) :
    projectRows registry map [row] = (projectRow registry map row).map fun record => [record] := by
  unfold projectRows projectRow
  rw [groupRows_singleton, shapeGroups]
  cases shape registry [row] [row] map "" [] with
  | error error => rfl
  | ok record => simp [shapeGroups, Except.map]

theorem project_singleton (registry : Registry) (id : String) (row : Row) :
    registry.projectRows id [row] = (registry.project id row).map fun record => [record] := by
  unfold Registry.projectRows Registry.project
  split
  · rfl
  · exact projectRows_singleton registry _ row

/-- Shaping rows ends, whatever the result maps and the rows are, and fails only where a result map
cannot be resolved. Every call adds its result map and prefix to the trail, where they have not
been, and its prefix is that of the call before, or some column has it; so calls end, and following
them without a limit has one solution, which gives the records. An error is that of a target that is
followed and either broken or has an identifier that clashes, which is impossible where all result
maps have their own. One row by itself is shaped as the only one of its rows. -/
theorem projectRows_ends (registry : Registry) (id : String) (rows : List Row) :
    (∀ row, registry.projectRows id [row] =
      (registry.project id row).map fun record => [record]) ∧
    (∀ outer inner, Nests registry outer inner →
      inner.trail = (outer.map.qualifiedId, outer.start) :: outer.trail ∧
        (inner.map.qualifiedId, inner.start) ∉ inner.trail ∧
        (inner.start = outer.start ∨ anyCarries outer.rows inner.start = true)) ∧
    (∀ map, registry.resultMap id = .ok map →
      (∀ call, ComesUp registry rows map call →
        Acc (fun inner outer => Nests registry outer inner) call) ∧
      (∃ shape, Unlimited registry rows map shape) ∧
      ∀ shape, Unlimited registry rows map shape → registry.projectRows id rows =
        (shapeGroups (shape []) true map "" [] (groupRows true map "" rows)).map Prod.fst) ∧
    (∀ error, registry.projectRows id rows = .error error → ∃ target,
      Followed registry id rows target ∧ registry.nestedMap? target = .error error ∧
        (registry.Broken target ∨ registry.Clashes target)) ∧
    (∀ target, (∃ error, registry.nestedMap? target = .error error) ↔
      registry.Broken target ∨ registry.Clashes target) ∧
    (registry.Distinct → ∀ target, Followed registry id rows target →
      ¬ registry.Clashes target) := by
  have whenFailing := registry.exists_error_nestedMap?_iff
  refine ⟨project_singleton registry id, fun outer inner => fresh_of_nests, ?_, ?_, whenFailing,
    fun distinct target => not_clashes_of_followed distinct⟩
  · intro map resolved
    refine ⟨fun call comesUp => acc_of_fits (fits_of_comesUp resolved comesUp),
      ⟨_, unlimited_shapeBehind resolved⟩, fun shape unlimited => ?_⟩
    rw [Registry.projectRows_of_resolved resolved]
    refine congrArg (Except.map Prod.fst) (shapeGroups_congr true (fun group isGroup used => ?_) [])
    exact (unlimited_shapeBehind resolved).unique resolved unlimited ⟨group, isGroup, .refl⟩ used
  · intro error failed
    obtain ⟨target, followed, isError⟩ := exists_of_projectRows_error failed
    exact ⟨target, followed, isError, (whenFailing target).1 ⟨error, isError⟩⟩

/-! ### An identifier that clashes -/

/-- A result map that extends no other one. -/
def plainMap : ResultMap where
  namespaceName := "space"
  id := "plain"
  typeName := some "part"
  extended := none
  autoMapping := false
  ids := [⟨"key", "key", none, none⟩]
  results := []
  nested := []

/-- A result map with the identifier that a nested mapping in another one gives to its own. -/
def bracketedMap : ResultMap where
  namespaceName := "space"
  id := "whole[part]"
  typeName := none
  extended := some "space.plain"
  autoMapping := false
  ids := []
  results := []
  nested := []

/-- The result map declared in a nested mapping, which extends the one of the same identifier. -/
def partMap : ResultMap where
  namespaceName := "space"
  id := "whole[part]"
  typeName := none
  extended := some "space.whole[part]"
  autoMapping := false
  ids := []
  results := []
  nested := []

/-- The result map with the nested mapping. -/
def wholeMap : ResultMap where
  namespaceName := "space"
  id := "whole"
  typeName := some "whole"
  extended := none
  autoMapping := false
  ids := []
  results := []
  nested := [⟨.association, "part", .inline partMap, none, none⟩]

/-- A registry of the result maps that are declared by themselves. -/
def wholes : Registry :=
  ⟨.standard, [⟨"space", [], [plainMap, bracketedMap, wholeMap], []⟩]⟩

theorem wholes_extends_part : wholes.Extends partMap bracketedMap :=
  ⟨"space.whole[part]", rfl, rfl⟩

theorem wholes_extends_bracketed : wholes.Extends bracketedMap plainMap :=
  ⟨"space.plain", rfl, rfl⟩

/-- Extending the result map in the nested mapping leads over the one of its identifier to the end,
so it neither dangles nor circles. -/
theorem wholes_not_broken_part : ¬ wholes.Broken (.inline partMap) := by
  have ends : plainMap.extended = none := rfl
  rintro (⟨id, impossible, -⟩ | ⟨map, isMap, ⟨last, leads, parentId, isParentId, unknown⟩ |
    ⟨last, leads, circle⟩⟩)
  · cases impossible
  · obtain rfl := Option.some.inj isMap
    rw [Registry.leadsTo_iff wholes_extends_part, Registry.leadsTo_iff wholes_extends_bracketed]
      at leads
    rcases leads with rfl | rfl | leads
    · obtain rfl := Option.some.inj isParentId
      cases unknown
    · obtain rfl := Option.some.inj isParentId
      cases unknown
    · rw [← Registry.eq_of_leadsTo ends leads, ends] at isParentId
      cases isParentId
  · obtain rfl := Option.some.inj isMap
    rw [Registry.leadsTo_iff wholes_extends_part, Registry.leadsTo_iff wholes_extends_bracketed]
      at leads
    rcases leads with rfl | rfl | leads
    · rw [Registry.transGen_iff wholes_extends_part,
        Registry.leadsTo_iff wholes_extends_bracketed] at circle
      rcases circle with same | back
      · exact absurd (congrArg ResultMap.extended same) (by decide)
      · cases congrArg ResultMap.extended (Registry.eq_of_leadsTo ends back)
    · rw [Registry.transGen_iff wholes_extends_bracketed] at circle
      cases congrArg ResultMap.extended (Registry.eq_of_leadsTo ends circle)
    · rw [← Registry.eq_of_leadsTo ends leads] at circle
      obtain ⟨next, ⟨parentId, isParentId, -⟩, -⟩ := Relation.TransGen.head'_iff.1 circle
      cases isParentId

theorem wholes_resultMap_whole : wholes.resultMap "space.whole" = .ok wholeMap :=
  Registry.resultMap_of_declared rfl rfl

/-- Where identifiers clash, rows can fail although every result map that is followed is declared
and extends others to an end. -/
theorem projectRows_clashes : ¬ ∀ (registry : Registry) (id : String) (rows : List Row)
    (error : Error), registry.projectRows id rows = .error error →
      ∃ target, Followed registry id rows target ∧ registry.Broken target := by
  intro broken
  have failing : (wholes.projectRows "space.whole" [[("key", .int64 1)]]).isOk = false := by
    decide +kernel
  have notNested : (wholes.nestedMap? (.inline partMap)).isOk = false := by decide +kernel
  obtain ⟨error, failed⟩ := isOk_eq_false_iff_exists.1 failing
  obtain ⟨target, followed, isBroken⟩ := broken wholes _ _ error failed
  cases followed with
  | top =>
    obtain ⟨other, isError⟩ :=
      (wholes.exists_error_nestedMap?_iff (.reference "space.whole")).2 (.inl isBroken)
    rw [Registry.nestedMap?, wholes_resultMap_whole] at isError
    cases isError
  | @nested map call rule resolved comesUp isRule =>
    obtain rfl := Except.ok.inj (wholes_resultMap_whole.symm.trans resolved)
    obtain ⟨group, -, reaches⟩ := comesUp
    rcases Relation.ReflTransGen.cases_head reaches with rfl | ⟨inner, nests, -⟩
    · obtain rfl := List.mem_singleton.1 isRule
      exact wholes_not_broken_part isBroken
    · obtain ⟨-, other, isOther, found, -⟩ := nests
      obtain rfl := List.mem_singleton.1 isOther
      rw [found] at notNested
      cases notNested

end DynamicSql.Projection
