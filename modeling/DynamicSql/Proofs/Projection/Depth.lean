/-
This file proves that the depth which limits how deep records lie within each other is never
reached. The result maps being used are those of the registry, no two of them with the same prefix,
and their prefixes continue each other, so their lengths tell them apart; none is longer than the
longest name of a column. There are only so many such pairs, so any depth that is large enough
shapes the same records.
-/

import DynamicSql.Proofs.Projection.Comparison
import Mathlib.Data.List.ProdSigma
import Mathlib.Data.List.Perm.Subperm

namespace DynamicSql.Projection

/-! ### Lengths of names -/

theorem foldl_max_le_iff {limit accumulated : Nat} {lengths : List Nat} :
    lengths.foldl max accumulated ≤ limit ↔
      accumulated ≤ limit ∧ ∀ length ∈ lengths, length ≤ limit := by
  induction lengths generalizing accumulated with
  | nil => simp
  | cons length rest inductionHypothesis =>
    rw [List.foldl_cons, inductionHypothesis, List.forall_mem_cons, Nat.max_le, and_assoc]

/-- All names of columns are at most as long as the limit. -/
def NamesWithin (limit : Nat) (rows : List Row) : Prop :=
  ∀ row ∈ rows, ∀ column ∈ row, column.1.length ≤ limit

theorem longestName_le_iff {limit : Nat} {rows : List Row} :
    longestName rows ≤ limit ↔ NamesWithin limit rows := by
  unfold longestName NamesWithin
  rw [foldl_max_le_iff]
  simp only [List.mem_flatMap, List.mem_map]
  constructor
  · rintro ⟨-, each⟩ row isRow column isColumn
    exact each _ ⟨row, isRow, column, isColumn, rfl⟩
  · intro each
    refine ⟨Nat.zero_le _, ?_⟩
    rintro _ ⟨row, isRow, column, isColumn, rfl⟩
    exact each row isRow column isColumn

theorem longestName_mono {rows others : List Row} (among : ∀ row ∈ others, row ∈ rows) :
    longestName others ≤ longestName rows := by
  have within := longestName_le_iff.1 (Nat.le_refl (longestName rows))
  exact longestName_le_iff.2 fun row member => within row (among row member)

theorem length_dropPrefixIgnoringCase? {start text rest : List Char}
    (dropped : Text.dropPrefixIgnoringCase? start text = some rest) :
    start.length ≤ text.length := by
  induction start generalizing text with
  | nil => exact Nat.zero_le _
  | cons expected start inductionHypothesis =>
    cases text with
    | nil => cases dropped
    | cons character text =>
      unfold Text.dropPrefixIgnoringCase? at dropped
      split at dropped
      · exact Nat.succ_le_succ (inductionHypothesis dropped)
      · cases dropped

/-- A prefix that some column has is not longer than the names of columns. -/
theorem length_le_of_anyCarries {limit : Nat} {rows : List Row} (within : NamesWithin limit rows)
    {start : String} (carried : anyCarries rows start = true) : start.length ≤ limit := by
  obtain ⟨row, isRow, carries⟩ := List.any_eq_true.1 carried
  obtain ⟨column, isColumn, behind⟩ := List.any_eq_true.1 carries
  unfold behindPrefix? at behind
  split at behind
  · next empty =>
    rw [String.isEmpty_iff.1 empty]
    exact Nat.zero_le _
  · split at behind
    · cases behind
    · cases behind
    · next rest _ dropped =>
      have shorter := length_dropPrefixIgnoringCase? dropped
      rw [String.length_toList, String.length_toList] at shorter
      exact Nat.le_trans shorter (within row isRow column isColumn)

/-! ### Trails -/

/-- The result map is one of the registry, and so are those declared inside it. -/
def Known (registry : Registry) (map : ResultMap) : Prop :=
  map.qualifiedId ∈ allMapIds registry ∧
    ∀ inner ∈ ResultMap.nestedMaps map.nested, inner.qualifiedId ∈ allMapIds registry

theorem known_inherited (registry : Registry) : registry.Inherited (Known registry) := by
  refine Registry.inherited_of_allMaps (fun map member => ?_) fun map parent known _ => known
  rw [Registry.allMapIds_eq]
  exact List.mem_map_of_mem member

/-- A call that can come up while rows are shaped: the result map is one of the registry, it is not
being used under the prefix yet, and the prefix continues those of the trail. -/
structure Fits (registry : Registry) (limit : Nat) (trail : Trail) (rows : List Row)
    (map : ResultMap) (start : String) : Prop where
  known : Known registry map
  fresh : (map.qualifiedId, start) ∉ trail
  distinct : trail.Nodup
  ids : ∀ entry ∈ trail, entry.1 ∈ allMapIds registry
  behind : ∀ entry ∈ trail, entry.2.toList <+: start.toList
  short : start.length ≤ limit
  within : NamesWithin limit rows

/-- How many result maps can be in use at once: each of them once for each length of a prefix. -/
def trailBound (registry : Registry) (limit : Nat) : Nat :=
  (allMapIds registry).length * (limit + 1)

namespace Fits

variable {registry : Registry} {limit : Nat} {trail : Trail} {rows : List Row} {map : ResultMap}
  {start : String}

theorem behind_cons (fits : Fits registry limit trail rows map start) :
    ∀ entry ∈ (map.qualifiedId, start) :: trail, entry.2.toList <+: start.toList :=
  List.forall_mem_cons.2 ⟨List.prefix_rfl, fits.behind⟩

/-- The trail of a call that can come up, the call included, is not longer than the bound. -/
theorem length_trail_lt (fits : Fits registry limit trail rows map start) :
    trail.length < trailBound registry limit := by
  have distinct : ((map.qualifiedId, start) :: trail).Nodup :=
    List.nodup_cons.2 ⟨fits.fresh, fits.distinct⟩
  have lengths : (((map.qualifiedId, start) :: trail).map fun entry =>
      (entry.1, entry.2.length)).Nodup := by
    refine List.Nodup.map_on (fun entry isEntry other isOther same => ?_) distinct
    obtain ⟨sameId, sameLength⟩ := Prod.mk.inj same
    -- Both prefixes continue to the prefix of the call, so one of them continues the other.
    have shorter := List.prefix_of_prefix_length_le (fits.behind_cons entry isEntry)
      (fits.behind_cons other isOther) (by
        rw [String.length_toList, String.length_toList]
        exact Nat.le_of_eq sameLength)
    have equal := shorter.eq_of_length (by
      rw [String.length_toList, String.length_toList]
      exact sameLength)
    exact Prod.ext sameId (String.toList_inj.1 equal)
  have among : (((map.qualifiedId, start) :: trail).map fun entry =>
      (entry.1, entry.2.length)) ⊆ allMapIds registry ×ˢ List.range (limit + 1) := by
    intro pair member
    obtain ⟨entry, isEntry, rfl⟩ := List.mem_map.1 member
    refine List.mem_product.2 ⟨?_, List.mem_range.2 (Nat.lt_succ_of_le ?_)⟩
    · rcases List.mem_cons.1 isEntry with rfl | old
      · exact fits.known.1
      · exact fits.ids entry old
    · have shorter := (fits.behind_cons entry isEntry).length_le
      rw [String.length_toList, String.length_toList] at shorter
      exact Nat.le_trans shorter fits.short
  have counted := (lengths.subperm among).length_le
  rw [List.length_map, List.length_cons, List.length_product, List.length_range] at counted
  exact counted

/-- The calls that a record makes can come up within its own. -/
theorem admits (fits : Fits registry limit trail rows map start) :
    Comparison.Admits registry ((map.qualifiedId, start) :: trail)
      (Fits registry limit ((map.qualifiedId, start) :: trail)) rows start map.nested := by
  intro rule member inner found notLeftOut others among
  unfold isLeftOut at notLeftOut
  obtain ⟨carried, fresh⟩ := Bool.or_eq_false_iff.1 notLeftOut
  refine ⟨(known_inherited registry).passes map fits.known rule member inner found, ?_,
    List.nodup_cons.2 ⟨fits.fresh, fits.distinct⟩, ?_, ?_, ?_, ?_⟩
  · intro old
    rw [List.contains_iff_mem.2 old] at fresh
    cases fresh
  · exact List.forall_mem_cons.2 ⟨fits.known.1, fits.ids⟩
  · intro entry isEntry
    rw [String.toList_append]
    exact (fits.behind_cons entry isEntry).trans (List.prefix_append _ _)
  · cases columnPrefix : rule.columnPrefix with
    | none =>
      rw [Option.getD_none, String.append_empty]
      exact fits.short
    | some extra =>
      rw [columnPrefix] at carried
      refine length_le_of_anyCarries fits.within ?_
      simpa using carried
  · exact fun row isRow => fits.within row (among row isRow)

end Fits

/-! ### Depths that are large enough -/

theorem compares_depth {registry : Registry} {limit : Nat} {depth other : Nat} {trail : Trail}
    (enough : trailBound registry limit ≤ depth + trail.length)
    (enoughOther : trailBound registry limit ≤ other + trail.length) :
    Comparison.identical.Compares (Fits registry limit trail) (shapeWithin registry depth trail)
      (shapeWithin registry other trail) := by
  intro rows map start used otherUsed fits same
  induction depth generalizing other trail rows map start used otherUsed with
  | zero =>
    have short := fits.length_trail_lt
    omega
  | succ depth inductionHypothesis =>
    cases other with
    | zero =>
      have short := fits.length_trail_lt
      omega
    | succ other =>
      unfold shapeWithin
      have inner : Comparison.identical.Compares
          (Fits registry limit ((map.qualifiedId, start) :: trail))
          (shapeWithin registry depth ((map.qualifiedId, start) :: trail))
          (shapeWithin registry other ((map.qualifiedId, start) :: trail)) := by
        refine inductionHypothesis ?_ ?_
        · rw [List.length_cons]
          omega
        · rw [List.length_cons]
          omega
      exact inner.shapeRecord fits.admits.makes (fun _ => Comparison.tells_identical) same

end DynamicSql.Projection
