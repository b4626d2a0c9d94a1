/-
This file proves properties of result maps by how result maps come about: some are declared, some
are declared inside of others, and some take over the mappings of those they extend. A property
that all of these have is had by every result map that nested mappings can lead to.
-/

import DynamicSql.Projection.Record
import DynamicSql.Proofs.Outcome

namespace DynamicSql

/-! ### Result maps inside of others -/

mutual

/-- A result map and those declared inside it. -/
def ResultMap.innerMaps : ResultMap → List ResultMap
  | ⟨namespaceName, id, typeName, extended, autoMapping, ids, results, nested⟩ =>
    ⟨namespaceName, id, typeName, extended, autoMapping, ids, results, nested⟩ ::
      ResultMap.nestedMaps nested

/-- The result maps declared inside of nested mappings. -/
def ResultMap.nestedMaps : List (Nested ResultMap) → List ResultMap
  | [] => []
  | ⟨_, _, target, _, _⟩ :: rest => ResultMap.targetMaps target ++ ResultMap.nestedMaps rest

/-- The result maps declared in a target. -/
def ResultMap.targetMaps : NestedTarget ResultMap → List ResultMap
  | .reference _ => []
  | .inline map => ResultMap.innerMaps map
  | .select _ _ => []

end

namespace ResultMap

theorem innerMaps_eq (map : ResultMap) : map.innerMaps = map :: nestedMaps map.nested := by
  obtain ⟨namespaceName, id, typeName, extended, autoMapping, ids, results, nested⟩ := map
  rw [innerMaps]

theorem mem_nestedMaps_iff {rules : List (Nested ResultMap)} {map : ResultMap} :
    map ∈ nestedMaps rules ↔ ∃ rule ∈ rules, map ∈ targetMaps rule.target := by
  induction rules with
  | nil => simp [nestedMaps]
  | cons rule rest inductionHypothesis =>
    rw [nestedMaps, List.mem_append, inductionHypothesis]
    simp

/-- What is nested in a result map that extends another one is nested in one of the two. -/
theorem mem_nested_inherit {map parent : ResultMap} {rule : Nested ResultMap}
    (member : rule ∈ (map.inherit parent).nested) : rule ∈ parent.nested ∨ rule ∈ map.nested := by
  rcases List.mem_append.1 member with inherited | own
  · exact Or.inl (List.mem_filter.1 inherited).1
  · exact Or.inr own

end ResultMap

namespace Projection

mutual

theorem innerIds_eq (map : ResultMap) :
    innerIds map = map.innerMaps.map ResultMap.qualifiedId := by
  obtain ⟨namespaceName, id, typeName, extended, autoMapping, ids, results, nested⟩ := map
  rw [innerIds, ResultMap.innerMaps, List.map_cons, nestedIds_eq nested]
  rfl

theorem nestedIds_eq (rules : List (Nested ResultMap)) :
    nestedIds rules = (ResultMap.nestedMaps rules).map ResultMap.qualifiedId := by
  match rules with
  | [] => rfl
  | ⟨_, _, target, _, _⟩ :: rest =>
    rw [nestedIds, ResultMap.nestedMaps, List.map_append, targetIds_eq target, nestedIds_eq rest]

theorem targetIds_eq (target : NestedTarget ResultMap) :
    targetIds target = (ResultMap.targetMaps target).map ResultMap.qualifiedId := by
  cases target with
  | reference id => rfl
  | inline map =>
    rw [targetIds, ResultMap.targetMaps, innerIds_eq map]
  | select statement column => rfl

end

end Projection

namespace Registry

variable {registry : Registry}

/-- All result maps, also those declared inside others. -/
def allMaps (registry : Registry) : List ResultMap :=
  registry.mappers.flatMap fun mapper => mapper.resultMaps.flatMap ResultMap.innerMaps

theorem allMapIds_eq (registry : Registry) :
    Projection.allMapIds registry = registry.allMaps.map ResultMap.qualifiedId := by
  have ids : Projection.innerIds = fun map => map.innerMaps.map ResultMap.qualifiedId :=
    funext Projection.innerIds_eq
  unfold Projection.allMapIds allMaps
  rw [ids]
  simp only [List.map_flatMap]

theorem innerMaps_of_declaredMap? {id : String} {map : ResultMap}
    (found : registry.declaredMap? id = some map) :
    ∀ inner ∈ map.innerMaps, inner ∈ registry.allMaps := by
  intro inner member
  obtain ⟨mapper, isMapper, localId, picked, -⟩ := exists_of_find? found
  exact List.mem_flatMap.2 ⟨mapper, isMapper,
    List.mem_flatMap.2 ⟨map, List.mem_of_find?_eq_some picked, member⟩⟩

/-! ### Properties of result maps -/

/-- A property of result maps that nested result maps share. -/
def Passes (registry : Registry) (property : ResultMap → Prop) : Prop :=
  ∀ map, property map → ∀ rule ∈ map.nested, ∀ inner,
    registry.nestedMap? rule.target = .ok (some inner) → property inner

/-- A property that result maps have however they come about. -/
structure Inherited (registry : Registry) (property : ResultMap → Prop) : Prop where
  declared : ∀ id map, registry.declaredMap? id = some map → property map
  inherit : ∀ map parent, property map → property parent → property (map.inherit parent)
  inline : ∀ map, property map → ∀ rule ∈ map.nested, ∀ inner,
    rule.target = .inline inner → property inner

namespace Inherited

variable {property : ResultMap → Prop}

theorem inheritFrom (inherited : Inherited registry property) {chain : List String}
    {map resolved : ResultMap} (holds : property map)
    (done : registry.inheritFrom chain map = .ok resolved) : property resolved := by
  fun_induction registry.inheritFrom chain map generalizing resolved with
  | case1 chain map none =>
    obtain rfl := Except.ok.inj done
    exact holds
  | case2 => cases done
  | case3 => cases done
  | case4 => cases done
  | case5 chain map parentId extends' fresh declared found smaller parent isParent
      inductionHypothesis =>
    obtain rfl := Except.ok.inj done
    exact inherited.inherit map parent holds
      (inductionHypothesis (inherited.declared parentId declared found) isParent)

theorem resultMap (inherited : Inherited registry property) {id : String} {map : ResultMap}
    (done : registry.resultMap id = .ok map) : property map := by
  unfold Registry.resultMap at done
  split at done
  · cases done
  · next declared found => exact inherited.inheritFrom (inherited.declared id declared found) done

theorem passes (inherited : Inherited registry property) : registry.Passes property := by
  intro map holds rule member inner done
  cases target : rule.target with
  | reference id =>
    rw [target] at done
    obtain ⟨found, resolved, same⟩ := exists_of_map_eq_ok
      (show (registry.resultMap id).map some = .ok (some inner) from done)
    obtain rfl := Option.some.inj same
    exact inherited.resultMap resolved
  | inline declared =>
    rw [target] at done
    obtain ⟨found, resolved, same⟩ := exists_of_map_eq_ok
      (show (registry.resolve declared).map some = .ok (some inner) from done)
    obtain rfl := Option.some.inj same
    exact inherited.inheritFrom (inherited.inline map holds rule member declared target) resolved
  | select statement column =>
    rw [target] at done
    cases done

end Inherited

/-- What holds of all result maps, and goes on holding when the mappings of others are taken over,
holds of a result map and of those inside of it, however it comes about. -/
theorem inherited_of_allMaps {property : ResultMap → Prop}
    (all : ∀ map ∈ registry.allMaps, property map)
    (stable : ∀ map parent, property map → property parent → property (map.inherit parent)) :
    Inherited registry fun map =>
      property map ∧ ∀ inner ∈ ResultMap.nestedMaps map.nested, property inner where
  declared id map found := by
    have known := innerMaps_of_declaredMap? found
    rw [map.innerMaps_eq] at known
    exact ⟨all map (known map List.mem_cons_self),
      fun inner member => all inner (known inner (List.mem_cons_of_mem _ member))⟩
  inherit map parent holds holdsParent := by
    refine ⟨stable map parent holds.1 holdsParent.1, fun inner member => ?_⟩
    obtain ⟨rule, isRule, inTarget⟩ := ResultMap.mem_nestedMaps_iff.1 member
    rcases ResultMap.mem_nested_inherit isRule with ofParent | own
    · exact holdsParent.2 inner (ResultMap.mem_nestedMaps_iff.2 ⟨rule, ofParent, inTarget⟩)
    · exact holds.2 inner (ResultMap.mem_nestedMaps_iff.2 ⟨rule, own, inTarget⟩)
  inline map holds rule member inner target := by
    have inside : ∀ other ∈ inner.innerMaps, property other := by
      intro other isInner
      refine holds.2 other (ResultMap.mem_nestedMaps_iff.2 ⟨rule, member, ?_⟩)
      rw [target, ResultMap.targetMaps]
      exact isInner
    rw [inner.innerMaps_eq] at inside
    exact ⟨inside inner List.mem_cons_self,
      fun other isInner => inside other (List.mem_cons_of_mem _ isInner)⟩

end Registry

end DynamicSql
