/-
This file says when the records of rows do not depend on each other. The columns used by mappings
are carried from one group of rows to the next, and auto-mapping leaves them out. So the records of
all rows are those of the groups by themselves exactly if no group misses anything by leaving out
the columns that the groups before it have claimed. Where nothing is auto-mapped they always are.
-/

import DynamicSql.Proofs.Projection.Depth
import DynamicSql.Proofs.Registry.Resolution

namespace DynamicSql.Projection

variable {registry : Registry} {map : ResultMap}

/-! ### A group by itself -/

/-- The record of the rows of a group, when auto-mapping leaves out columns. -/
def recordLeavingOut (registry : Registry) (map : ResultMap) (columns : List String)
    (group : List Row) : Except Error Value :=
  (shape registry group group map "" columns).map fun record => record.toValue map.typeName

/-- The columns that the mappings of a group claim. -/
def claimedColumns (registry : Registry) (map : ResultMap) (group : List Row) : List String :=
  match shape registry group group map "" [] with
  | .ok record => record.consumed
  | .error _ => []

/-- The rows of a group are shaped as deep as they are by themselves. -/
theorem shape_eq (known : Known registry map) {rows group : List Row}
    (among : ∀ row ∈ group, row ∈ rows) (used : List String) :
    shape registry rows group map "" used = shape registry group group map "" used := by
  have fits : Fits registry (longestName group) [] group map "" :=
    ⟨known, List.not_mem_nil, List.nodup_nil, fun _ member => (nomatch member),
      fun _ member => (nomatch member), Nat.zero_le _, longestName_le_iff.1 (Nat.le_refl _)⟩
  have deep : ∀ longest, longestName group ≤ longest →
      trailBound registry (longestName group) ≤
        (longest + 1) * ((allMapIds registry).length + 1) + 1 := by
    intro longest longer
    have factors : (allMapIds registry).length * (longestName group + 1) ≤
        ((allMapIds registry).length + 1) * (longest + 1) :=
      Nat.mul_le_mul (Nat.le_succ _) (Nat.succ_le_succ longer)
    rw [Nat.mul_comm (longest + 1)]
    exact Nat.le_succ_of_le factors
  exact eq_of_both_identical (compares_depth (deep _ (longestName_mono among))
    (deep _ (Nat.le_refl _)) group map "" used used fits rfl)

/-- Shaping a group with columns used before does what it does with none, except that auto-mapping
leaves those columns out. -/
theorem exists_alone (known : Known registry map) {rows group : List Row}
    (among : ∀ row ∈ group, row ∈ rows) {used columns : List String}
    (same : ∀ column, column ∈ used ↔ column ∈ columns) {record : OpenRecord}
    (done : shape registry rows group map "" used = .ok record) :
    recordLeavingOut registry map columns group = .ok (record.toValue map.typeName) ∧
      ∃ alone, shape registry group group map "" [] = .ok alone ∧
        ∀ column, column ∈ record.consumed ↔ column ∈ used ∨ column ∈ alone.consumed := by
  have trivially : registry.Passes fun _ => True := fun _ _ _ _ _ _ => trivial
  rw [shape_eq known among] at done
  have reordered := Comparison.compares_shapeWithin .unordered trivially
    (fun _ _ _ => Comparison.tells_unordered) (depthLimit registry group) [] group map ""
    used columns trivial same
  have fromNone := Comparison.compares_shapeWithin (.besides used) trivially
    (fun _ _ _ => Comparison.tells_besides used) (depthLimit registry group) [] group map ""
    used [] trivial fun column => by simp
  unfold recordLeavingOut
  unfold shape at done ⊢
  rw [done] at reordered fromNone
  generalize shapeWithin registry (depthLimit registry group) [] group map "" columns = outcome
    at reordered ⊢
  generalize shapeWithin registry (depthLimit registry group) [] group map "" [] = fresh
    at fromNone ⊢
  constructor
  · cases reordered with
    | done alike =>
      show Except.ok (OpenRecord.toValue _ _) = _
      rw [OpenRecord.toValue, OpenRecord.toValue, alike.fields trivial]
  · cases fromNone with
    | done alike => exact ⟨_, rfl, alike.consumed⟩

/-- The records of a group by itself are its one record. -/
theorem projectRows_alone {group : List Row} {record : OpenRecord}
    (one : sameIdentity (identity? map "") group = [group])
    (done : shape registry group group map "" [] = .ok record) :
    projectRows registry map group = .ok [record.toValue map.typeName] := by
  unfold projectRows
  rw [groupRows_top, one]
  unfold shapeGroups
  rw [done]
  simp [shapeGroups, Except.map]

/-! ### Groups after each other -/

/-- The groups of rows at the top, in the order of their first rows. -/
def topGroups (map : ResultMap) (rows : List Row) : List (List Row) :=
  sameIdentity (identity? map "") rows

/-- No group misses anything by leaving out the given columns and those that the groups before it
have claimed. -/
def MissNothing (registry : Registry) (map : ResultMap) (columns : List String)
    (groups : List (List Row)) : Prop :=
  ∀ earlier group later, groups = earlier ++ group :: later →
    recordLeavingOut registry map (columns ++ earlier.flatMap (claimedColumns registry map)) group =
      recordLeavingOut registry map [] group

theorem missNothing_nil (columns : List String) : MissNothing registry map columns [] := by
  intro earlier group later split
  cases earlier <;> cases split

theorem missNothing_cons_iff {columns : List String} {group : List Row}
    {groups : List (List Row)} :
    MissNothing registry map columns (group :: groups) ↔
      recordLeavingOut registry map columns group = recordLeavingOut registry map [] group ∧
        MissNothing registry map (columns ++ claimedColumns registry map group) groups := by
  constructor
  · intro missNothing
    refine ⟨?_, fun earlier other later split => ?_⟩
    · have first := missNothing [] group groups rfl
      rwa [List.flatMap_nil, List.append_nil] at first
    · have next := missNothing (group :: earlier) other later (by rw [split, List.cons_append])
      rwa [List.flatMap_cons, ← List.append_assoc] at next
  · rintro ⟨first, missNothing⟩ earlier other later split
    cases earlier with
    | nil =>
      obtain ⟨rfl, -⟩ := List.cons.inj split
      rwa [List.flatMap_nil, List.append_nil]
    | cons before earlier =>
      obtain ⟨rfl, splitRest⟩ := List.cons.inj split
      rw [List.flatMap_cons, ← List.append_assoc]
      exact missNothing earlier other later splitRest

/-- The records of groups one after the other, next to those of each group by itself. -/
theorem exists_parts (known : Known registry map) {rows : List Row} {groups : List (List Row)}
    (among : ∀ group ∈ groups, ∀ row ∈ group, row ∈ rows)
    (single : ∀ group ∈ groups, sameIdentity (identity? map "") group = [group])
    {used columns : List String} (same : ∀ column, column ∈ used ↔ column ∈ columns)
    {records : List Value} {last : List String}
    (done : shapeGroups (shape registry rows) true map "" used groups = .ok (records, last)) :
    ∃ parts, List.Forall₂ (fun group part => projectRows registry map group = .ok part)
        groups parts ∧
      (records = parts.flatten ↔ MissNothing registry map columns groups) := by
  induction groups generalizing used columns records last with
  | nil =>
    obtain ⟨rfl, -⟩ := Prod.mk.inj (Except.ok.inj done)
    exact ⟨[], .nil, iff_of_true rfl (missNothing_nil columns)⟩
  | cons group rest inductionHypothesis =>
    obtain ⟨amongFirst, amongRest⟩ := List.forall_mem_cons.1 among
    obtain ⟨singleFirst, singleRest⟩ := List.forall_mem_cons.1 single
    unfold shapeGroups at done
    split at done
    · cases done
    · next record shaped =>
      split at done
      · cases done
      · next others final shapedRest =>
        obtain ⟨rfl, -⟩ : record.toValue map.typeName :: others = records ∧ final = last := by
          simpa using done
        obtain ⟨leavingOut, alone, shapedAlone, claimed⟩ :=
          exists_alone known amongFirst same shaped
        have leavingNothing : recordLeavingOut registry map [] group =
            .ok (alone.toValue map.typeName) := by
          rw [recordLeavingOut, shapedAlone]
          rfl
        have claims : claimedColumns registry map group = alone.consumed := by
          rw [claimedColumns, shapedAlone]
        have sameLater : ∀ column, column ∈ record.consumed ↔
            column ∈ columns ++ claimedColumns registry map group := by
          intro column
          rw [claimed, claims, List.mem_append, same]
        obtain ⟨parts, projected, isIff⟩ :=
          inductionHypothesis amongRest singleRest sameLater shapedRest
        refine ⟨[alone.toValue map.typeName] :: parts,
          .cons (projectRows_alone singleFirst shapedAlone) projected, ?_⟩
        rw [missNothing_cons_iff, ← isIff, leavingOut, leavingNothing, List.flatten_cons,
          List.singleton_append, List.cons.injEq, Except.ok.injEq]

/-! ### Nothing auto-mapped -/

/-- No result map of the registry takes over columns without a mapping. -/
def NeverAutoMaps (registry : Registry) : Prop :=
  ∀ map ∈ registry.allMaps, map.autoMapping = false

/-- Where nothing is auto-mapped, nothing is missed. -/
theorem missNothing_of_neverAutoMaps (never : NeverAutoMaps registry) {id : String}
    (found : registry.resultMap id = .ok map) (columns : List String)
    (groups : List (List Row)) : MissNothing registry map columns groups := by
  intro earlier group later _
  have inherited : registry.Inherited fun map => map.autoMapping = false ∧
      ∀ inner ∈ ResultMap.nestedMaps map.nested, inner.autoMapping = false :=
    Registry.inherited_of_allMaps never fun map parent unmapped _ => unmapped
  have alike := Comparison.compares_shapeWithin .unrelated inherited.passes
    (fun map holds auto => by rw [holds.1] at auto; cases auto) (depthLimit registry group) []
    group map "" (columns ++ earlier.flatMap (claimedColumns registry map)) []
    (inherited.resultMap found) trivial
  unfold recordLeavingOut shape
  revert alike
  generalize shapeWithin registry (depthLimit registry group) [] group map "" _ = outcome
  generalize shapeWithin registry (depthLimit registry group) [] group map "" [] = fresh
  intro alike
  cases alike with
  | failed error => rfl
  | done alike =>
    show Except.ok (OpenRecord.toValue _ _) = Except.ok (OpenRecord.toValue _ _)
    rw [OpenRecord.toValue, OpenRecord.toValue, alike.fields trivial]

/-! ### Rows and groups -/

theorem mem_of_mem_topGroups {rows group : List Row} (member : group ∈ topGroups map rows)
    {row : Row} (inGroup : row ∈ group) : row ∈ rows := by
  unfold topGroups at member
  rw [← groupRows_top] at member
  exact mem_of_mem_groupRows member inGroup

/-- Records of rows are those of the groups by themselves exactly if no group misses anything by
leaving out what the groups before it have claimed, and always if nothing is auto-mapped. -/
theorem projectRows_eq_flatten_iff (registry : Registry) (id : String) (rows : List Row)
    (records : List Value) (projected : registry.projectRows id rows = .ok records) :
    ∃ map parts, registry.resultMap id = .ok map ∧
      List.Forall₂ (fun group part => registry.projectRows id group = .ok part)
        (topGroups map rows) parts ∧
      (records = parts.flatten ↔ MissNothing registry map [] (topGroups map rows)) ∧
      (NeverAutoMaps registry → records = parts.flatten) := by
  obtain ⟨map, found⟩ : ∃ map, registry.resultMap id = .ok map := by
    unfold Registry.projectRows at projected
    split at projected
    · cases projected
    · next map found => exact ⟨map, found⟩
  rw [Registry.projectRows_of_resolved found] at projected
  obtain ⟨⟨_, last⟩, shaped, rfl⟩ := exists_of_map_eq_ok projected
  rw [groupRows_top] at shaped
  obtain ⟨parts, alone, isIff⟩ := exists_parts
    ((known_inherited registry).resultMap found)
    (fun group (member : group ∈ topGroups map rows) row => mem_of_mem_topGroups member)
    (fun group member => sameIdentity_of_mem member) (fun _ => Iff.rfl) shaped
  simp only [Registry.projectRows_of_resolved found]
  exact ⟨map, parts, found, alone, isIff,
    fun never => isIff.2 (missNothing_of_neverAutoMaps never found [] _)⟩

/-- A result map with two mappings. -/
def itemMap : ResultMap where
  namespaceName := "space"
  id := "item"
  typeName := none
  extended := none
  autoMapping := false
  ids := [⟨"id", "item_id", none, none⟩]
  results := [⟨"name", "item_name", none, none⟩]
  nested := []

/-- A result map that takes over columns and gathers items. -/
def orderMap : ResultMap where
  namespaceName := "space"
  id := "order"
  typeName := none
  extended := none
  autoMapping := true
  ids := [⟨"id", "id", none, none⟩]
  results := []
  nested := [⟨.collection, "items", .reference "space.item", none, none⟩]

/-- A registry of the two result maps. -/
def orders : Registry :=
  ⟨.standard, [⟨"space", [], [itemMap, orderMap], []⟩]⟩

/-- An order with an item. -/
def fullOrder : Row :=
  [("id", .int64 1), ("item_id", .int64 5), ("item_name", .string "x")]

/-- An order without an item, though with a name in the column of items. -/
def emptyOrder : Row :=
  [("id", .int64 2), ("item_id", .null), ("item_name", .string "y")]

/-- Records as JSON texts. -/
def texts : Except Error (List Value) → List String
  | .ok records => records.map fun record => record.toJson.render
  | .error _ => []

theorem orders_order : orders.resultMap "space.order" = .ok orderMap :=
  Registry.resultMap_of_declared rfl rfl

theorem topGroups_order :
    topGroups orderMap [fullOrder, emptyOrder] = [[fullOrder], [emptyOrder]] := by
  have firstIdentity : identity? orderMap "" fullOrder = some "[1]" := by decide +kernel
  have secondIdentity : identity? orderMap "" emptyOrder = some "[2]" := by decide +kernel
  simp [topGroups, sameIdentity, firstIdentity, secondIdentity]

/-- The second order lacks the columns of items, which it takes over when it is projected by itself,
because the first one has claimed them. -/
theorem orders_ne_flatten {records : List Value} {parts : List (List Value)}
    (projected : orders.projectRows "space.order" [fullOrder, emptyOrder] = .ok records)
    (alone : List.Forall₂ (fun group part => orders.projectRows "space.order" group = .ok part)
      [[fullOrder], [emptyOrder]] parts) : records ≠ parts.flatten := by
  rintro rfl
  have different : texts (orders.projectRows "space.order" [fullOrder, emptyOrder]) ≠
      texts (orders.projectRows "space.order" [fullOrder]) ++
        texts (orders.projectRows "space.order" [emptyOrder]) := by
    decide +kernel
  obtain _ | ⟨first, _ | ⟨second, ⟨⟩⟩⟩ := alone
  rw [projected, first, second] at different
  exact different (by simp [texts])

theorem projectRows_eq_flatten_iff_orders :
    ∃ records parts, orders.projectRows "space.order" [fullOrder, emptyOrder] = .ok records ∧
      List.Forall₂ (fun group part => orders.projectRows "space.order" group = .ok part)
        [[fullOrder], [emptyOrder]] parts ∧
      records ≠ parts.flatten ∧
      ¬ MissNothing orders orderMap [] [[fullOrder], [emptyOrder]] := by
  have done : (orders.projectRows "space.order" [fullOrder, emptyOrder]).isOk = true := by
    decide +kernel
  obtain ⟨records, projected⟩ := isOk_iff_exists.1 done
  obtain ⟨map, parts, found, alone, isIff, -⟩ := projectRows_eq_flatten_iff orders _ _ _ projected
  obtain rfl := Except.ok.inj (orders_order.symm.trans found)
  rw [topGroups_order] at alone isIff
  have different := orders_ne_flatten projected alone
  exact ⟨records, parts, projected, alone, different, mt isIff.2 different⟩

/-- Records can depend on each other: what an order is depends on the orders before it. -/
theorem projectRows_ne_flatten :
    ¬ ∀ (registry : Registry) (id : String) (map : ResultMap) (rows : List Row)
      (records : List Value), registry.resultMap id = .ok map →
      registry.projectRows id rows = .ok records →
      ∃ parts, List.Forall₂ (fun group part => registry.projectRows id group = .ok part)
          (topGroups map rows) parts ∧
        records = parts.flatten := by
  intro independent
  have done : (orders.projectRows "space.order" [fullOrder, emptyOrder]).isOk = true := by
    decide +kernel
  obtain ⟨records, projected⟩ := isOk_iff_exists.1 done
  obtain ⟨parts, alone, same⟩ :=
    independent orders "space.order" orderMap _ _ orders_order projected
  rw [topGroups_order] at alone
  exact orders_ne_flatten projected alone same

end DynamicSql.Projection
