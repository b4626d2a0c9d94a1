/-
This file says which result maps and fragments can be reached once a document has been loaded. The
mapper of the document holds all that the document declares. But a qualified identifier is parted at
its last point, so where a local identifier has a point in it, the qualified one is parted at
another place than it was joined: looking it up goes to another namespace, and so does an include.
Everything else is reached, and as itself.
-/

import DynamicSql.Proofs.Document.Inlining
import DynamicSql.Proofs.Registry.Addressing

namespace DynamicSql

namespace Document

open Markup (Content Element Tag)

/-! ### Includes by qualified identifiers -/

/-- A namespace is not blank. -/
theorem not_blank_of_namespaceOf? {tag : Tag} {namespaceName : String}
    (found : namespaceOf? tag = some namespaceName) :
    Text.isAllBlank namespaceName.toList = false := by
  obtain ⟨text, -, ink, rfl⟩ := namespaceOf?_eq_some_iff.1 found
  rw [Text.trimmed, String.toList_ofList, Text.isAllBlank_trim]
  exact ink

theorem require_of_attribute? {tag : Tag} {key value : String}
    (isValue : tag.attribute? key = some value) (ink : Text.isAllBlank value.toList = false) :
    tag.require key = .ok value := by
  simp only [Tag.require, isValue, ink, Bool.false_eq_true, if_false]

/-- Qualified identifiers of one namespace differ in their local parts. -/
theorem eq_of_qualify_eq {namespaceName first second : String}
    (same : Identifier.qualify namespaceName first = Identifier.qualify namespaceName second) :
    first = second := by
  have letters := congrArg String.toList same
  rw [Identifier.toList_qualify, Identifier.toList_qualify] at letters
  exact String.toList_inj.1 (List.cons.inj (List.append_cancel_left letters)).2

/-- An include finds contents: what it refers to in the scope of some properties is a fragment of
the document itself that holds them. -/
def IncludeFinds (library : Library) (properties : Properties) (tag : Tag)
    (contents : List Content) : Prop :=
  ∃ id, includedId library properties tag = .ok id ∧ library.own? id = some contents

variable {library : Library}

/-- The qualified identifier of a fragment of the document itself leads to it exactly if no point
stands in the local one. -/
theorem own?_resolve_iff {localId : String} {contents : List Content}
    (named : library.namespaceName ≠ "") (filled : localId ≠ "")
    (found : Fields.get? localId library.own = some contents) :
    library.own? (Identifier.resolve library.namespaceName
        (Identifier.qualify library.namespaceName localId)) = some contents ↔
      '.' ∉ localId.toList := by
  constructor
  · intro isOwn
    obtain ⟨other, split, -⟩ := own?_eq_some_iff.1 isOwn
    have plain := (Identifier.parts_of_split? split).2.2
    have joined := Identifier.qualify_of_split? split
    unfold Identifier.resolve at joined
    split at joined
    · rw [← eq_of_qualify_eq joined]
      exact plain
    · -- The namespace is put in front once more, and what is local then has a point in it.
      rw [eq_of_qualify_eq joined, Identifier.toList_qualify] at plain
      simp at plain
  · intro plain
    have split := Identifier.split?_qualify named filled plain
    rw [Identifier.resolve, split]
    exact own?_eq_some_iff.2 ⟨localId, split, found⟩

/-- An include of a fragment by its qualified identifier leads to what the fragment holds exactly if
no point stands in the local one. -/
theorem includeFinds_iff_plain {properties : Properties} {localId : String}
    {contents : List Content} {tag : Tag}
    (ink : Text.isAllBlank library.namespaceName.toList = false)
    (filled : localId ≠ "") (found : Fields.get? localId library.own = some contents)
    (refers : tag.attribute? "refid" = some (Identifier.qualify library.namespaceName localId))
    (kept : substitute properties (Identifier.qualify library.namespaceName localId) =
      Identifier.qualify library.namespaceName localId) :
    IncludeFinds library properties tag contents ↔ '.' ∉ localId.toList := by
  have named : library.namespaceName ≠ "" := by
    intro empty
    rw [empty] at ink
    cases ink
  have inkInside : Text.isAllBlank
      (Identifier.qualify library.namespaceName localId).toList = false := by
    rw [Identifier.toList_qualify, Text.isAllBlank, List.all_append]
    rw [Text.isAllBlank] at ink
    rw [ink, Bool.false_and]
  have included : includedId library properties tag = .ok (Identifier.resolve
      library.namespaceName (Identifier.qualify library.namespaceName localId)) := by
    simp only [includedId, require_of_attribute? refers inkInside, kept]
  rw [← own?_resolve_iff named filled found]
  constructor
  · rintro ⟨id, isId, isOwn⟩
    rw [← Except.ok.inj (isId.symm.trans included)]
    exact isOwn
  · exact fun isOwn => ⟨_, included, isOwn⟩

end Document

namespace Registry

open Document (DeclaresFragment DeclaresResultMap IncludeFinds Labels Library)
open Markup (Element)

/-! ### Result maps and fragments -/

theorem resultMap?_isKeyed : IsKeyed Mapper.resultMap? ResultMap.id :=
  fun _ _ _ found => (Mapper.id_of_resultMap? found).2

theorem fragment?_isKeyed : IsKeyed Mapper.fragment? Fragment.id :=
  fun _ _ _ found => by simpa using List.find?_some found

/-- What of a document is reached in the registry that it has been loaded into. The mapper of its
namespace holds a result map for each element that declares one, and a fragment for each element
that declares one. Each of them is found by its qualified identifier, and each fragment is what an
include of it in the document leads to, exactly if the local identifier has no point in it. -/
structure Reach (elements : List Element) (library : Library) (loaded : Registry)
    (mapper : Mapper) : Prop where
  held : loaded.mapper? mapper.namespaceName = some mapper
  declaredMaps : List.Forall₂ (DeclaresResultMap mapper.namespaceName)
    (Document.resultMapElements elements) mapper.resultMaps
  declaredFragments : List.Forall₂ (DeclaresFragment library)
    (Document.fragmentElements elements) mapper.fragments
  resultMaps : ∀ map ∈ mapper.resultMaps,
    loaded.declaredMap? (Identifier.qualify mapper.namespaceName map.id) = some map ↔
      '.' ∉ map.id.toList
  fragments : ∀ fragment ∈ mapper.fragments,
    loaded.fragment? (Identifier.qualify mapper.namespaceName fragment.id) = some fragment ↔
      '.' ∉ fragment.id.toList
  includes : ∀ element ∈ Document.fragmentElements elements, ∀ localId, Labels element localId →
    ∀ properties tag,
      tag.attribute? "refid" = some (Identifier.qualify mapper.namespaceName localId) →
      Document.substitute properties (Identifier.qualify mapper.namespaceName localId) =
        Identifier.qualify mapper.namespaceName localId →
      (IncludeFinds library properties tag element.children ↔ '.' ∉ localId.toList)

/-- When a document has been loaded, the mapper of its namespace holds all result maps and fragments
that it declares, and they are reached by their qualified identifiers, in the registry and by the
includes of the document, exactly if the local ones have no point in them. -/
theorem reach_of_loadFrom (registry : Registry) (file : Option String) (source : String)
    (loaded : Registry) (mapper : Mapper)
    (done : registry.loadFrom file source = .ok (loaded, mapper)) :
    ∃ root own, Element.read source.toList = .ok root ∧
      Reach root.elements ⟨mapper.namespaceName, own, registry.fragments⟩ loaded mapper := by
  obtain ⟨read, rfl⟩ := loadFrom_eq_ok_iff.1 done
  obtain ⟨root, own, markup, -, space, inventory⟩ := Document.exists_inventory_of_read read
  have addressable := isAddressable_of_read read
  have held := mapper?_register_self registry mapper
  refine ⟨root, own, markup, held, inventory.resultMaps, inventory.fragments, ?_, ?_, ?_⟩
  · intro map member
    exact find?_qualify_iff resultMap?_isKeyed addressable.named
      (addressable.resultMaps map member) held (find?_of_nodup inventory.distinctResultMaps member)
  · intro fragment member
    exact find?_qualify_iff fragment?_isKeyed addressable.named
      (addressable.fragments fragment member) held
      (find?_of_nodup inventory.distinctFragments member)
  · intro element member localId labels properties tag refers kept
    obtain ⟨fragment, -, declares⟩ := Document.exists_of_forall₂_left inventory.fragments member
    obtain rfl : fragment.id = localId :=
      Option.some.inj (declares.labels.1.symm.trans labels.1)
    exact Document.includeFinds_iff_plain (Document.not_blank_of_namespaceOf? space)
      labels.ne_empty declares.own refers kept

/-- A document with a result map, a fragment and an include of the fragment by its qualified
identifier. -/
def plainDocument : String :=
  "<mapper namespace='space'><sql id='columns'>a</sql>" ++
    "<resultMap id='part' type='part'><id property='key' column='key'/></resultMap>" ++
    "<select id='all'><include refid='space.columns'/></select></mapper>"

theorem reach_of_loadFrom_plain : ∃ loaded mapper root own map fragment,
    (Registry.empty .standard).load plainDocument = .ok (loaded, mapper) ∧
      Element.read plainDocument.toList = .ok root ∧
      Reach root.elements ⟨mapper.namespaceName, own, (Registry.empty .standard).fragments⟩
        loaded mapper ∧
      mapper.resultMaps = [map] ∧ loaded.declaredMap? "space.part" = some map ∧
      mapper.fragments = [fragment] ∧ loaded.fragment? "space.columns" = some fragment := by
  have labels : ((Registry.empty .standard).load plainDocument).toOption.map (fun outcome =>
      (outcome.2.namespaceName, outcome.2.resultMaps.map ResultMap.id,
        outcome.2.fragments.map Fragment.id)) = some ("space", ["part"], ["columns"]) := by
    decide +kernel
  obtain ⟨⟨loaded, mapper⟩, isResult, areLabels⟩ := Option.map_eq_some_iff.1 labels
  have done := toOption_eq_some_iff.1 isResult
  obtain ⟨isNamespace, areIds⟩ := Prod.mk.inj areLabels
  obtain ⟨mapIds, fragmentIds⟩ := Prod.mk.inj areIds
  obtain ⟨map, onlyMap, isPart⟩ := List.map_eq_singleton_iff.1 mapIds
  obtain ⟨fragment, onlyFragment, isColumns⟩ := List.map_eq_singleton_iff.1 fragmentIds
  obtain ⟨root, own, markup, reach⟩ := reach_of_loadFrom _ none _ _ _ done
  have foundMap := (reach.resultMaps map (onlyMap ▸ List.mem_singleton_self map)).2
    (by rw [isPart]; decide)
  have foundFragment :=
    (reach.fragments fragment (onlyFragment ▸ List.mem_singleton_self fragment)).2
      (by rw [isColumns]; decide)
  rw [isPart, show mapper.namespaceName = "space" from isNamespace] at foundMap
  rw [isColumns, show mapper.namespaceName = "space" from isNamespace] at foundFragment
  exact ⟨loaded, mapper, root, own, map, fragment, done, markup, reach, onlyMap, foundMap,
    onlyFragment, foundFragment⟩

/-- A document with a result map and a fragment whose local identifiers have points in them. -/
def pointedDocument : String :=
  "<mapper namespace='space'><sql id='c.d'>a</sql>" ++
    "<resultMap id='a.b' type='part'><id property='key' column='key'/></resultMap></mapper>"

/-- Result maps and fragments of a document that has been loaded can be out of reach. -/
theorem exists_unreached_of_load : ∃ loaded mapper,
    (Registry.empty .standard).load pointedDocument = .ok (loaded, mapper) ∧
      (∃ map ∈ mapper.resultMaps,
        loaded.declaredMap? (Identifier.qualify mapper.namespaceName map.id) ≠ some map) ∧
      ∃ fragment ∈ mapper.fragments,
        loaded.fragment? (Identifier.qualify mapper.namespaceName fragment.id) ≠
          some fragment := by
  have missing : ((Registry.empty .standard).load pointedDocument).toOption.any (fun outcome =>
      outcome.2.resultMaps.any (fun map =>
          (outcome.1.declaredMap? (Identifier.qualify outcome.2.namespaceName map.id)).isNone) &&
        outcome.2.fragments.any (fun fragment =>
          (outcome.1.fragment?
            (Identifier.qualify outcome.2.namespaceName fragment.id)).isNone)) = true := by
    decide +kernel
  simp only [Option.any_eq_true, toOption_eq_some_iff, Bool.and_eq_true, List.any_eq_true,
    Option.isNone_iff_eq_none] at missing
  obtain ⟨⟨loaded, mapper⟩, done, ⟨map, isMap, noMap⟩, fragment, isFragment, noFragment⟩ := missing
  exact ⟨loaded, mapper, done, ⟨map, isMap, by simp [noMap]⟩,
    fragment, isFragment, by simp [noFragment]⟩

end Registry

end DynamicSql
