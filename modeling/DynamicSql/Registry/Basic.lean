/-
This file holds registries of mappers. A registry has at most one mapper for each namespace, in the
order in which the namespaces first came; registering another mapper for a namespace replaces the
one before it in its place.
-/

import DynamicSql.Document.Include
import DynamicSql.Mapper.Basic
import DynamicSql.Settings

namespace DynamicSql

/-- Mappers with the settings that their statements are executed under. -/
structure Registry where
  settings : Settings
  mappers : List Mapper

namespace Registry

/-- A registry without mappers. -/
def empty (settings : Settings) : Registry := ⟨settings, []⟩

/-! ### Mappers -/

/-- Mappers with one more: in the place of the one that has its namespace, else at the end. -/
def put (mapper : Mapper) : List Mapper → List Mapper
  | [] => [mapper]
  | other :: rest =>
    if other.namespaceName = mapper.namespaceName then mapper :: rest
    else other :: put mapper rest

/-- The registry with a mapper registered. -/
def register (registry : Registry) (mapper : Mapper) : Registry :=
  { registry with mappers := put mapper registry.mappers }

/-- The namespaces of the mappers, in order. -/
def namespaces (registry : Registry) : List String :=
  registry.mappers.map Mapper.namespaceName

/-- The mapper of a namespace. -/
def mapper? (registry : Registry) (namespaceName : String) : Option Mapper :=
  registry.mappers.find? fun mapper => mapper.namespaceName == namespaceName

theorem mem_of_mapper? {registry : Registry} {namespaceName : String} {mapper : Mapper}
    (found : registry.mapper? namespaceName = some mapper) : mapper ∈ registry.mappers :=
  List.mem_of_find?_eq_some found

/-- The mapper that is found has the namespace it is looked up by. -/
theorem namespaceName_of_mapper? {registry : Registry} {namespaceName : String} {mapper : Mapper}
    (found : registry.mapper? namespaceName = some mapper) :
    mapper.namespaceName = namespaceName := by
  simpa using List.find?_some found

@[simp]
theorem mapper?_register_self (registry : Registry) (mapper : Mapper) :
    (registry.register mapper).mapper? mapper.namespaceName = some mapper := by
  unfold mapper? register
  generalize registry.mappers = mappers
  induction mappers with
  | nil => simp [put]
  | cons other rest inductionHypothesis =>
    by_cases same : other.namespaceName = mapper.namespaceName
    · simp [put, same]
    · simpa [put, same] using inductionHypothesis

@[simp]
theorem mapper?_register_other (registry : Registry) {mapper : Mapper} {namespaceName : String}
    (different : mapper.namespaceName ≠ namespaceName) :
    (registry.register mapper).mapper? namespaceName = registry.mapper? namespaceName := by
  unfold mapper? register
  generalize registry.mappers = mappers
  induction mappers with
  | nil => simp [put, different]
  | cons other rest inductionHypothesis =>
    by_cases same : other.namespaceName = mapper.namespaceName
    · simp [put, same, different]
    · by_cases wanted : other.namespaceName = namespaceName
      · simp [put, wanted]
        simp [← wanted, same]
      · simpa [put, same, wanted] using inductionHypothesis

/-! ### Qualified identifiers -/

/-- What a qualified identifier names among the things of one sort that mappers hold. -/
def find? {Item : Type} (registry : Registry) (pick : Mapper → String → Option Item)
    (id : String) : Option Item :=
  match Identifier.split? id with
  | none => none
  | some (namespaceName, localId) =>
    (registry.mapper? namespaceName).bind fun mapper => pick mapper localId

/-- What is found is held by a mapper whose namespace is that of the identifier. -/
theorem exists_of_find? {Item : Type} {registry : Registry}
    {pick : Mapper → String → Option Item} {id : String} {item : Item}
    (found : registry.find? pick id = some item) :
    ∃ mapper ∈ registry.mappers, ∃ localId,
      pick mapper localId = some item ∧ Identifier.qualify mapper.namespaceName localId = id := by
  unfold find? at found
  split at found
  · simp at found
  · next namespaceName localId split =>
    obtain ⟨mapper, isMapper, picked⟩ := Option.bind_eq_some_iff.1 found
    refine ⟨mapper, mem_of_mapper? isMapper, localId, picked, ?_⟩
    rw [namespaceName_of_mapper? isMapper]
    exact Identifier.qualify_of_split? split

theorem find?_of_split? {Item : Type} (registry : Registry) (pick : Mapper → String → Option Item)
    {id namespaceName localId : String}
    (split : Identifier.split? id = some (namespaceName, localId)) :
    registry.find? pick id =
      (registry.mapper? namespaceName).bind fun mapper => pick mapper localId := by
  unfold find?
  rw [split]

/-- What is found depends only on the mapper of the namespace of the identifier. -/
theorem find?_congr {Item : Type} {registry other : Registry}
    {pick : Mapper → String → Option Item} {id : String}
    (same : ∀ namespaceName localId, Identifier.split? id = some (namespaceName, localId) →
      registry.mapper? namespaceName = other.mapper? namespaceName) :
    registry.find? pick id = other.find? pick id := by
  unfold find?
  split
  · rfl
  · next namespaceName localId split => rw [same namespaceName localId split]

/-- The statement of a qualified identifier. -/
def statement? (registry : Registry) (id : String) : Option Statement :=
  registry.find? Mapper.statement? id

/-- The statement of a qualified identifier, or the error that there is none. -/
def statement (registry : Registry) (id : String) : Except Error Statement :=
  match registry.statement? id with
  | some statement => .ok statement
  | none => .error (.of (.statementNotFound id))

/-- The result map of a qualified identifier as it was declared. -/
def declaredMap? (registry : Registry) (id : String) : Option ResultMap :=
  registry.find? Mapper.resultMap? id

/-- The fragment of a qualified identifier. -/
def fragment? (registry : Registry) (id : String) : Option Fragment :=
  registry.find? Mapper.fragment? id

/-! ### Fragments for includes -/

/-- The qualified identifiers of all fragments. -/
def fragmentIds (registry : Registry) : List String :=
  registry.mappers.flatMap fun mapper =>
    mapper.fragments.map fun fragment => Identifier.qualify mapper.namespaceName fragment.id

theorem mem_fragmentIds_of_fragment? {registry : Registry} {id : String} {fragment : Fragment}
    (found : registry.fragment? id = some fragment) : id ∈ registry.fragmentIds := by
  obtain ⟨mapper, isMapper, localId, picked, rfl⟩ := exists_of_find? found
  have named : fragment.id = localId := by simpa using List.find?_some picked
  refine List.mem_flatMap.2 ⟨mapper, isMapper, List.mem_map.2 ⟨fragment, ?_, by rw [named]⟩⟩
  exact List.mem_of_find?_eq_some picked

/-- The fragments of the registry, for documents that include them. -/
def fragments (registry : Registry) : Document.FragmentSource where
  find? id := (registry.fragment? id).map Fragment.body
  ids := registry.fragmentIds
  complete found := by
    obtain ⟨fragment, isFragment, _⟩ := Option.map_eq_some_iff.1 found
    exact mem_fragmentIds_of_fragment? isFragment

end Registry

end DynamicSql
