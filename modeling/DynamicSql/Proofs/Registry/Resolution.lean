/-
This file says when result maps cannot be resolved: exactly if extending one after the other leads
to one that is not declared, or comes to an identifier a second time and goes on from there. The
second happens if the result maps extend each other in a circle. It also happens where they do not:
a result map that is declared inside another one is given an identifier, which may be that of a
result map that is declared by itself.
-/

import DynamicSql.Proofs.Registry.Inherited
import Mathlib.Logic.Relation

namespace DynamicSql.Registry

open Relation (ReflTransGen TransGen)

variable {registry : Registry} {map parent last : ResultMap} {chain : List String}

/-! ### Extending -/

/-- A result map extends another one. -/
def Extends (registry : Registry) (map parent : ResultMap) : Prop :=
  ∃ parentId, map.extended = some parentId ∧ registry.declaredMap? parentId = some parent

/-- Extending leads from a result map to another one. -/
def LeadsTo (registry : Registry) : ResultMap → ResultMap → Prop :=
  ReflTransGen registry.Extends

/-- Extending leads to a result map that extends one that is not declared. -/
def Dangles (registry : Registry) (map : ResultMap) : Prop :=
  ∃ last, registry.LeadsTo map last ∧
    ∃ parentId, last.extended = some parentId ∧ registry.declaredMap? parentId = none

/-- Extending leads to a result map and back to it again. -/
def Circles (registry : Registry) (map : ResultMap) : Prop :=
  ∃ last, registry.LeadsTo map last ∧ TransGen registry.Extends last last

/-- Extending leads to two different result maps of one identifier, the second of which extends
another one. -/
def Collides (registry : Registry) (map : ResultMap) : Prop :=
  ∃ first last, registry.LeadsTo map first ∧ TransGen registry.Extends first last ∧
    first ≠ last ∧ first.qualifiedId = last.qualifiedId ∧ last.extended.isSome

/-- The result map that resolving the target of a nested mapping begins with. -/
def targetMap? (registry : Registry) : NestedTarget ResultMap → Option ResultMap
  | .reference id => registry.declaredMap? id
  | .inline map => some map
  | .select _ _ => none

/-- The target of a nested mapping is a result map that is not declared, or one from which extending
dangles or circles. -/
def Broken (registry : Registry) (target : NestedTarget ResultMap) : Prop :=
  (∃ id, target = .reference id ∧ registry.declaredMap? id = none) ∨
    ∃ map, registry.targetMap? target = some map ∧ (registry.Dangles map ∨ registry.Circles map)

/-- The target of a nested mapping is a result map from which extending collides. -/
def Clashes (registry : Registry) (target : NestedTarget ResultMap) : Prop :=
  ∃ map, registry.targetMap? target = some map ∧ registry.Collides map

theorem Extends.unique {other : ResultMap} (extending : registry.Extends map parent)
    (again : registry.Extends map other) : other = parent := by
  obtain ⟨parentId, isParentId, found⟩ := extending
  obtain ⟨otherId, isOtherId, otherFound⟩ := again
  obtain rfl := Option.some.inj (isParentId.symm.trans isOtherId)
  exact Option.some.inj (otherFound.symm.trans found)

/-- What a result map leads to by extending is itself, or what the one that it extends leads to. -/
theorem leadsTo_iff (extending : registry.Extends map parent) :
    registry.LeadsTo map last ↔ map = last ∨ registry.LeadsTo parent last := by
  constructor
  · intro leads
    rcases ReflTransGen.cases_head leads with same | ⟨next, first, later⟩
    · exact .inl same
    · rw [extending.unique first] at later
      exact .inr later
  · rintro (rfl | later)
    · exact .refl
    · exact .head extending later

theorem transGen_iff (extending : registry.Extends map parent) :
    TransGen registry.Extends map last ↔ registry.LeadsTo parent last := by
  constructor
  · intro leads
    obtain ⟨next, first, later⟩ := TransGen.head'_iff.1 leads
    rw [extending.unique first] at later
    exact later
  · exact fun later => .head' extending later

theorem eq_of_leadsTo (ends : map.extended = none) (leads : registry.LeadsTo map last) :
    map = last := by
  rcases ReflTransGen.cases_head leads with same | ⟨next, ⟨parentId, isParentId, -⟩, -⟩
  · exact same
  · rw [ends] at isParentId
    cases isParentId

/-! ### Where extending gets stuck -/

/-- Extending, begun with identifiers on a chain, cannot go on from a result map: the one it extends
is not declared, or its own identifier has come up already. -/
def Blocks (registry : Registry) (chain : List String) (map last : ResultMap) : Prop :=
  ∃ parentId, last.extended = some parentId ∧ (registry.declaredMap? parentId = none ∨
    last.qualifiedId ∈ chain ∨ ∃ first, registry.LeadsTo map first ∧
      TransGen registry.Extends first last ∧ first.qualifiedId = last.qualifiedId)

/-- What blocks extending from the parent is what blocks it from the result map and is not the
result map itself. -/
theorem blocks_parent_iff (extending : registry.Extends map parent)
    (leads : registry.LeadsTo parent last) :
    registry.Blocks (chain ++ [map.qualifiedId]) parent last ↔ registry.Blocks chain map last := by
  constructor
  · rintro ⟨parentId, isParentId, unknown | member | ⟨first, leadsFirst, later, same⟩⟩
    · exact ⟨parentId, isParentId, .inl unknown⟩
    · rcases List.mem_append.1 member with before | own
      · exact ⟨parentId, isParentId, .inr (.inl before)⟩
      · exact ⟨parentId, isParentId, .inr (.inr
          ⟨map, .refl, (transGen_iff extending).2 leads, (List.mem_singleton.1 own).symm⟩)⟩
    · exact ⟨parentId, isParentId, .inr (.inr
        ⟨first, (leadsTo_iff extending).2 (.inr leadsFirst), later, same⟩)⟩
  · rintro ⟨parentId, isParentId, unknown | member | ⟨first, leadsFirst, later, same⟩⟩
    · exact ⟨parentId, isParentId, .inl unknown⟩
    · exact ⟨parentId, isParentId, .inr (.inl (List.mem_append_left _ member))⟩
    · rcases (leadsTo_iff extending).1 leadsFirst with rfl | leadsFirst
      · refine ⟨parentId, isParentId, .inr (.inl ?_)⟩
        rw [same]
        exact List.mem_append_right chain List.mem_cons_self
      · exact ⟨parentId, isParentId, .inr (.inr ⟨first, leadsFirst, later, same⟩)⟩

/-- Extending fails exactly if it leads to a result map that it cannot go on from. -/
theorem exists_error_inheritFrom_iff (registry : Registry) (chain : List String) (map : ResultMap) :
    (∃ error, registry.inheritFrom chain map = .error error) ↔
      ∃ last, registry.LeadsTo map last ∧ registry.Blocks chain map last := by
  fun_induction registry.inheritFrom chain map with
  | case1 chain map ends =>
    constructor
    · rintro ⟨error, failed⟩
      cases failed
    · rintro ⟨last, leads, parentId, isParentId, -⟩
      obtain rfl := eq_of_leadsTo ends leads
      rw [ends] at isParentId
      cases isParentId
  | case2 chain map parentId isParentId onChain =>
    exact iff_of_true ⟨_, rfl⟩ ⟨map, .refl, parentId, isParentId, .inr (.inl onChain)⟩
  | case3 chain map parentId isParentId fresh unknown =>
    exact iff_of_true ⟨_, rfl⟩ ⟨map, .refl, parentId, isParentId, .inl unknown⟩
  | case4 chain map parentId isParentId fresh parent found smaller error failed
      inductionHypothesis =>
    have extending : registry.Extends map parent := ⟨parentId, isParentId, found⟩
    obtain ⟨last, leads, blocks⟩ := inductionHypothesis.1 ⟨error, failed⟩
    exact iff_of_true ⟨error, rfl⟩ ⟨last, (leadsTo_iff extending).2 (.inr leads),
      (blocks_parent_iff extending leads).1 blocks⟩
  | case5 chain map parentId isParentId fresh parent found smaller resolved done
      inductionHypothesis =>
    have extending : registry.Extends map parent := ⟨parentId, isParentId, found⟩
    have free : ∀ last, registry.LeadsTo parent last → ¬ registry.Blocks chain map last := by
      intro last leads blocks
      obtain ⟨error, failed⟩ := inductionHypothesis.2
        ⟨last, leads, (blocks_parent_iff extending leads).2 blocks⟩
      rw [done] at failed
      cases failed
    constructor
    · rintro ⟨error, failed⟩
      cases failed
    rintro ⟨last, leads, blocks⟩
    rcases (leadsTo_iff extending).1 leads with rfl | leads
    · -- The result map itself is not blocked, unless extending comes back to it.
      obtain ⟨otherId, isOtherId, unknown | member | ⟨first, leadsFirst, later, same⟩⟩ := blocks
      · obtain rfl := Option.some.inj (isParentId.symm.trans isOtherId)
        rw [found] at unknown
        cases unknown
      · exact absurd member fresh
      · refine absurd ⟨otherId, isOtherId, .inr (.inr ⟨first, leadsFirst, later, same⟩)⟩
          (free map ?_)
        rcases (leadsTo_iff extending).1 leadsFirst with rfl | leadsFirst
        · exact (transGen_iff extending).1 later
        · exact leadsFirst.trans later.to_reflTransGen
    · exact absurd blocks (free last leads)

/-- A result map cannot be resolved exactly if extending dangles, circles or collides. -/
theorem exists_error_resolve_iff (registry : Registry) (map : ResultMap) :
    (∃ error, registry.resolve map = .error error) ↔
      registry.Dangles map ∨ registry.Circles map ∨ registry.Collides map := by
  unfold resolve
  rw [exists_error_inheritFrom_iff]
  constructor
  · rintro ⟨last, leads, parentId, isParentId, unknown | member | ⟨first, leadsFirst, later, same⟩⟩
    · exact .inl ⟨last, leads, parentId, isParentId, unknown⟩
    · exact absurd member List.not_mem_nil
    · by_cases equal : first = last
      · rw [equal] at leadsFirst later
        exact .inr (.inl ⟨last, leadsFirst, later⟩)
      · refine .inr (.inr ⟨first, last, leadsFirst, later, equal, same, ?_⟩)
        rw [isParentId]
        rfl
  · rintro (⟨last, leads, parentId, isParentId, unknown⟩ | ⟨last, leads, circle⟩ |
      ⟨first, last, leads, later, -, same, goesOn⟩)
    · exact ⟨last, leads, parentId, isParentId, .inl unknown⟩
    · obtain ⟨next, ⟨parentId, isParentId, -⟩, -⟩ := TransGen.head'_iff.1 circle
      exact ⟨last, leads, parentId, isParentId, .inr (.inr ⟨last, leads, circle, rfl⟩)⟩
    · obtain ⟨parentId, isParentId⟩ := Option.isSome_iff_exists.1 goesOn
      exact ⟨last, leads.trans later.to_reflTransGen, parentId, isParentId,
        .inr (.inr ⟨first, leads, later, same⟩)⟩

theorem exists_error_map_iff {Result Next : Type} {outcome : Except Error Result}
    {change : Result → Next} :
    (∃ error, outcome.map change = .error error) ↔ ∃ error, outcome = .error error := by
  cases outcome with
  | error error => exact iff_of_true ⟨error, rfl⟩ ⟨error, rfl⟩
  | ok result =>
    exact iff_of_false (fun ⟨_, failed⟩ => nomatch failed) fun ⟨_, failed⟩ => nomatch failed

theorem exists_error_resultMap_iff (registry : Registry) (id : String) :
    (∃ error, registry.resultMap id = .error error) ↔ registry.declaredMap? id = none ∨
      ∃ map, registry.declaredMap? id = some map ∧
        (registry.Dangles map ∨ registry.Circles map ∨ registry.Collides map) := by
  unfold resultMap
  split
  · next unknown => exact iff_of_true ⟨_, rfl⟩ (.inl unknown)
  · next map found =>
    rw [exists_error_resolve_iff]
    constructor
    · exact fun stuck => .inr ⟨map, found, stuck⟩
    · rintro (unknown | ⟨other, isOther, stuck⟩)
      · rw [found] at unknown
        cases unknown
      · obtain rfl := Option.some.inj (found.symm.trans isOther)
        exact stuck

/-- The target of a nested mapping fails exactly if it is broken or clashes. -/
theorem exists_error_nestedMap?_iff (registry : Registry) (target : NestedTarget ResultMap) :
    (∃ error, registry.nestedMap? target = .error error) ↔
      registry.Broken target ∨ registry.Clashes target := by
  cases target with
  | reference id =>
    refine exists_error_map_iff.trans ((exists_error_resultMap_iff registry id).trans ?_)
    constructor
    · rintro (unknown | ⟨map, found, dangles | circles | collides⟩)
      · exact .inl (.inl ⟨id, rfl, unknown⟩)
      · exact .inl (.inr ⟨map, found, .inl dangles⟩)
      · exact .inl (.inr ⟨map, found, .inr circles⟩)
      · exact .inr ⟨map, found, collides⟩
    · rintro ((⟨_, ⟨⟩, unknown⟩ | ⟨map, found, dangles | circles⟩) | ⟨map, found, collides⟩)
      · exact .inl unknown
      · exact .inr ⟨map, found, .inl dangles⟩
      · exact .inr ⟨map, found, .inr (.inl circles)⟩
      · exact .inr ⟨map, found, .inr (.inr collides)⟩
  | inline map =>
    refine exists_error_map_iff.trans ((exists_error_resolve_iff registry map).trans ?_)
    constructor
    · rintro (dangles | circles | collides)
      · exact .inl (.inr ⟨map, rfl, .inl dangles⟩)
      · exact .inl (.inr ⟨map, rfl, .inr circles⟩)
      · exact .inr ⟨map, rfl, collides⟩
    · rintro ((⟨_, impossible, -⟩ | ⟨_, ⟨⟩, dangles | circles⟩) | ⟨_, ⟨⟩, collides⟩)
      · cases impossible
      · exact .inl dangles
      · exact .inr (.inl circles)
      · exact .inr (.inr collides)
  | select statement column =>
    refine iff_of_false (fun ⟨_, failed⟩ => nomatch failed) ?_
    rintro ((⟨_, impossible, -⟩ | ⟨_, impossible, -⟩) | ⟨_, impossible, -⟩)
    all_goals cases impossible

/-- A result map that extends no other one is resolved as it is declared. -/
theorem resultMap_of_declared {id : String} (declared : registry.declaredMap? id = some map)
    (extendsNone : map.extended = none) : registry.resultMap id = .ok map := by
  rw [resultMap, declared]
  show registry.resolve map = _
  rw [resolve, inheritFrom, extendsNone]

theorem nestedMap?_of_declared {id : String} (declared : registry.declaredMap? id = some map)
    (extendsNone : map.extended = none) :
    registry.nestedMap? (.reference id) = .ok (some map) := by
  rw [nestedMap?, resultMap_of_declared declared extendsNone]
  rfl

/-! ### Distinct identifiers -/

/-- No two result maps have one identifier, whether they are declared by themselves or inside of
others. -/
def Distinct (registry : Registry) : Prop :=
  ∀ map ∈ registry.allMaps, ∀ other ∈ registry.allMaps,
    map.qualifiedId = other.qualifiedId → map = other

theorem mem_allMaps_of_leadsTo (leads : registry.LeadsTo map last)
    (known : map ∈ registry.allMaps) : last ∈ registry.allMaps := by
  induction leads with
  | refl => exact known
  | tail before extending inductionHypothesis =>
    obtain ⟨parentId, -, found⟩ := extending
    refine innerMaps_of_declaredMap? found _ ?_
    rw [ResultMap.innerMaps_eq]
    exact List.mem_cons_self

/-- Where identifiers are distinct, extending does not collide. -/
theorem not_collides_of_distinct (distinct : registry.Distinct) (known : map ∈ registry.allMaps) :
    ¬ registry.Collides map := by
  rintro ⟨first, last, leads, later, different, same, -⟩
  have knownFirst := mem_allMaps_of_leadsTo leads known
  exact different (distinct first knownFirst last
    (mem_allMaps_of_leadsTo later.to_reflTransGen knownFirst) same)

/-- All result maps that are declared inside a result map are among those of the registry. -/
theorem inherited_nestedMaps (registry : Registry) : registry.Inherited fun map =>
    ∀ inner ∈ ResultMap.nestedMaps map.nested, inner ∈ registry.allMaps where
  declared id map found inner member := by
    refine innerMaps_of_declaredMap? found inner ?_
    rw [map.innerMaps_eq]
    exact List.mem_cons_of_mem map member
  inherit map parent holds holdsParent inner member := by
    obtain ⟨rule, isRule, inTarget⟩ := ResultMap.mem_nestedMaps_iff.1 member
    rcases ResultMap.mem_nested_inherit isRule with ofParent | own
    · exact holdsParent inner (ResultMap.mem_nestedMaps_iff.2 ⟨rule, ofParent, inTarget⟩)
    · exact holds inner (ResultMap.mem_nestedMaps_iff.2 ⟨rule, own, inTarget⟩)
  inline map holds rule member inner target other isOther := by
    refine holds other (ResultMap.mem_nestedMaps_iff.2 ⟨rule, member, ?_⟩)
    rw [target, ResultMap.targetMaps, inner.innerMaps_eq]
    exact List.mem_cons_of_mem inner isOther

end DynamicSql.Registry
