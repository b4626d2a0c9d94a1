/-
This file says which result maps are used within a result map: those that its nested mappings shape
records with, those that these use in turn, and so on. Their targets are all declared somewhere in
the registry or in the result map itself, so there are finitely many. Where none of them is used
within itself, each has fewer below it than the one it is used by, so following them ends.
-/

import DynamicSql.Proofs.Registry.Inherited
import Mathlib.Data.Set.Card

namespace DynamicSql

open Relation (ReflTransGen TransGen)

namespace Registry

variable {registry : Registry} {outer inner map : ResultMap}

/-! ### Result maps that use others -/

/-- A result map uses another one: a nested mapping shapes its records with it. -/
def Uses (registry : Registry) (outer inner : ResultMap) : Prop :=
  ∃ rule ∈ outer.nested, registry.nestedMap? rule.target = .ok (some inner)

/-- The result maps that are used within a result map, to any depth. -/
def usedWithin (registry : Registry) (map : ResultMap) : Set ResultMap :=
  {inner | TransGen registry.Uses map inner}

/-- The result map that a target is resolved to, if there is one. -/
def resolved? (registry : Registry) (target : NestedTarget ResultMap) : Option ResultMap :=
  match registry.nestedMap? target with
  | .ok found => found
  | .error _ => none

/-- The targets of the nested mappings of a result map are among some targets. -/
def TargetsAmong (targets : List (NestedTarget ResultMap)) (map : ResultMap) : Prop :=
  ∀ rule ∈ map.nested, rule.target ∈ targets

theorem targetsAmong_inherit {targets : List (NestedTarget ResultMap)} (map parent : ResultMap)
    (own : TargetsAmong targets map) (ofParent : TargetsAmong targets parent) :
    TargetsAmong targets (map.inherit parent) := by
  intro rule isRule
  rcases ResultMap.mem_nested_inherit isRule with inherited | declared
  · exact ofParent rule inherited
  · exact own rule declared

/-- Only finitely many result maps are used within one: their targets are all declared in the
registry or in the result map itself. -/
theorem finite_usedWithin (registry : Registry) (map : ResultMap) :
    (registry.usedWithin map).Finite := by
  let targets := (registry.allMaps ++ map.innerMaps).flatMap fun other =>
    other.nested.map Nested.target
  have among : ∀ other ∈ registry.allMaps ++ map.innerMaps, TargetsAmong targets other :=
    fun other isOther rule isRule =>
      List.mem_flatMap.2 ⟨other, isOther, List.mem_map_of_mem isRule⟩
  have inherited : registry.Inherited fun other => TargetsAmong targets other ∧
      ∀ inner ∈ ResultMap.nestedMaps other.nested, TargetsAmong targets inner :=
    inherited_of_allMaps (fun other isOther => among other (List.mem_append_left _ isOther))
      targetsAmong_inherit
  have atStart : TargetsAmong targets map ∧
      ∀ inner ∈ ResultMap.nestedMaps map.nested, TargetsAmong targets inner := by
    have own : ∀ other ∈ map.innerMaps, TargetsAmong targets other :=
      fun other isOther => among other (List.mem_append_right _ isOther)
    rw [map.innerMaps_eq] at own
    exact List.forall_mem_cons.1 own
  have within : ∀ inner, ReflTransGen registry.Uses map inner →
      TargetsAmong targets inner ∧
        ∀ deeper ∈ ResultMap.nestedMaps inner.nested, TargetsAmong targets deeper := by
    intro inner reaches
    induction reaches with
    | refl => exact atStart
    | tail before uses inductionHypothesis =>
      obtain ⟨rule, isRule, found⟩ := uses
      exact inherited.passes _ inductionHypothesis rule isRule _ found
  refine (List.finite_toSet (targets.filterMap registry.resolved?)).subset ?_
  intro inner isUsed
  obtain ⟨last, before, rule, isRule, found⟩ := TransGen.tail'_iff.1 isUsed
  exact List.mem_filterMap.2
    ⟨rule.target, (within last before).1 rule isRule, by rw [resolved?, found]⟩

/-- A result map that is not used within itself uses fewer ones than those it is used by. -/
theorem ncard_usedWithin_lt (uses : registry.Uses outer inner)
    (notRecursive : inner ∉ registry.usedWithin inner) :
    (registry.usedWithin inner).ncard < (registry.usedWithin outer).ncard := by
  have fewer : registry.usedWithin inner ⊂ registry.usedWithin outer :=
    ⟨fun deeper isUsed => TransGen.head uses isUsed,
      fun all => notRecursive (all (TransGen.single uses))⟩
  exact Set.ncard_lt_ncard fewer (registry.finite_usedWithin outer)

/-- A result map whose nested mappings can be followed to an end: it and those used within it have
targets that can be resolved, none is used within itself, and all columns have names. -/
structure CanBeFollowed (registry : Registry) (map : ResultMap) : Prop where
  resolves {outer : ResultMap} (reaches : ReflTransGen registry.Uses map outer) :
    ∀ rule ∈ outer.nested, ∃ found, registry.nestedMap? rule.target = .ok found
  notRecursive {outer : ResultMap} (reaches : ReflTransGen registry.Uses map outer) :
    outer ∉ registry.usedWithin outer
  named {outer : ResultMap} (reaches : ReflTransGen registry.Uses map outer) :
    ∀ rule ∈ outer.mappings, rule.column ≠ ""

theorem CanBeFollowed.uses (followed : registry.CanBeFollowed outer)
    (uses : registry.Uses outer inner) : registry.CanBeFollowed inner where
  resolves reaches := followed.resolves (.head uses reaches)
  notRecursive reaches := followed.notRecursive (.head uses reaches)
  named reaches := followed.named (.head uses reaches)

end Registry

end DynamicSql
