/-
This file resolves result maps: a result map that extends another one takes over the mappings of
that one, itself resolved first. Result maps that extend each other in a circle cannot be resolved;
there are finitely many, so following them ends.
-/

import DynamicSql.Registry.Basic

namespace DynamicSql.Registry

/-- The qualified identifiers of all result maps that are declared by themselves. -/
def resultMapIds (registry : Registry) : List String :=
  registry.mappers.flatMap fun mapper => mapper.resultMaps.map ResultMap.qualifiedId

/-- A result map that is found has one of the identifiers. -/
theorem mem_resultMapIds_of_declaredMap? {registry : Registry} {id : String} {map : ResultMap}
    (found : registry.declaredMap? id = some map) : map.qualifiedId ∈ registry.resultMapIds := by
  obtain ⟨mapper, isMapper, localId, picked, _⟩ := exists_of_find? found
  exact List.mem_flatMap.2
    ⟨mapper, isMapper, List.mem_map.2 ⟨map, List.mem_of_find?_eq_some picked, rfl⟩⟩

/-- What remains to be followed from a result map: the identifiers outside of the chain, and the
result map itself if it is declared inside of another one. -/
def remaining (registry : Registry) (chain : List String) (map : ResultMap) : Nat :=
  (Chain.outside chain registry.resultMapIds).length +
    if map.qualifiedId ∈ registry.resultMapIds then 0 else 1

theorem remaining_lt {registry : Registry} {chain : List String} {map parent : ResultMap}
    (fresh : map.qualifiedId ∉ chain) (known : parent.qualifiedId ∈ registry.resultMapIds) :
    registry.remaining (chain ++ [map.qualifiedId]) parent < registry.remaining chain map := by
  unfold remaining
  rw [if_pos known]
  split
  · next member => exact Chain.length_outside_lt member fresh
  · exact Nat.lt_succ_of_le (Chain.length_outside_le ..)

/-- A result map with the mappings of those it extends, reached by extending along `chain`. -/
def inheritFrom (registry : Registry) (chain : List String) (map : ResultMap) :
    Except Error ResultMap :=
  match map.extended with
  | none => .ok map
  | some parentId =>
    if onChain : map.qualifiedId ∈ chain then
      .error (.note ("result map inheritance cycle: " ++ Chain.cycleText chain map.qualifiedId))
    else
      match found : registry.declaredMap? parentId with
      | none => .error (.of (.resultMapNotFound parentId))
      | some parent =>
        have := remaining_lt onChain (mem_resultMapIds_of_declaredMap? found)
        match registry.inheritFrom (chain ++ [map.qualifiedId]) parent with
        | .error error => .error error
        | .ok parent => .ok (map.inherit parent)
termination_by registry.remaining chain map

/-- A result map with the mappings of those it extends. -/
def resolve (registry : Registry) (map : ResultMap) : Except Error ResultMap :=
  registry.inheritFrom [] map

/-- The result map of a qualified identifier with the mappings of those it extends. -/
def resultMap (registry : Registry) (id : String) : Except Error ResultMap :=
  match registry.declaredMap? id with
  | none => .error (.of (.resultMapNotFound id))
  | some map => registry.resolve map

/-- The result map that a nested mapping shapes its records with; a select has none. -/
def nestedMap? (registry : Registry) :
    NestedTarget ResultMap → Except Error (Option ResultMap)
  | .reference id => (registry.resultMap id).map some
  | .inline map => (registry.resolve map).map some
  | .select _ _ => .ok none

end DynamicSql.Registry
