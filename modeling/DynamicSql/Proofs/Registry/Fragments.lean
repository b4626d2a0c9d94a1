/-
This file says what the fragments of a registry are worth to a document of another namespace. Every
fragment has been declared by an element of a document, and is kept as the markup of what that
element expands to. Where a document includes the fragment, without properties, the template is the
one that there would be with the expanded contents themselves in the place of the include.
-/

import DynamicSql.Proofs.Document.Splicing
import DynamicSql.Proofs.Registry.Reachability

namespace DynamicSql

namespace Document

open Markup (Content Element)

/-- A fragment of a mapper has been written from contents: an element of the document of the mapper
declares the fragment and expands to the contents, and their markup is what the fragment holds. -/
def IsWrittenFrom (mapper : Mapper) (fragment : Fragment) (contents : List Content) : Prop :=
  ∃ source file root library element, read source file library.outside = .ok mapper ∧
    Element.read source.toList = .ok root ∧ element ∈ fragmentElements root.elements ∧
    library.namespaceName = mapper.namespaceName ∧ DeclaresFragment library element fragment ∧
    expand library element.children = .ok contents ∧ fragment.body = Markup.toMarkup contents

/-- Every fragment of a document has been written from contents. -/
theorem exists_isWrittenFrom_of_read {source : String} {file : Option String}
    {outside : FragmentSource} {mapper : Mapper} (done : read source file outside = .ok mapper)
    {fragment : Fragment} (member : fragment ∈ mapper.fragments) :
    ∃ contents, IsWrittenFrom mapper fragment contents := by
  obtain ⟨root, own, markup, -, -, inventory⟩ := exists_inventory_of_read done
  obtain ⟨element, isElement, declares⟩ := exists_of_forall₂_right inventory.fragments member
  obtain ⟨contents, isExpanded, isBody⟩ := declares.body
  exact ⟨contents, source, file, root, ⟨mapper.namespaceName, own, outside⟩, element, done, markup,
    isElement, rfl, declares, isExpanded, isBody⟩

/-- What a fragment is written from has been expanded, so no includes are left in it. -/
theorem IsWrittenFrom.includesAmong_eq_nil {mapper : Mapper} {fragment : Fragment}
    {contents : List Content} (written : IsWrittenFrom mapper fragment contents) :
    includesAmong contents = [] := by
  obtain ⟨-, -, -, library, element, -, -, -, -, -, isExpanded, -⟩ := written
  exact (expansion_of_expandFrom [] isExpanded).includesAmong_eq_nil

end Document

namespace Registry

open Document (HasTemplate IsKept IsWrittenFrom Library Splices)
open Markup (AreWellNamed Content Element)

/-- For a document of another namespace, a fragment of a registry is one from outside. -/
theorem isKept_of_isWrittenFrom {registry : Registry} {id localId : String} {mapper : Mapper}
    {fragment : Fragment} {contents : List Content}
    (found : registry.fragment? id = some fragment)
    (split : Identifier.split? id = some (mapper.namespaceName, localId))
    (written : IsWrittenFrom mapper fragment contents) (wellNamed : AreWellNamed contents)
    {namespaceName : String} (other : namespaceName ≠ mapper.namespaceName)
    (own : Fields (List Content)) :
    IsKept ⟨namespaceName, own, registry.fragments⟩ id contents := by
  have includeless := written.includesAmong_eq_nil
  obtain ⟨-, -, -, -, -, -, -, -, -, -, -, isBody⟩ := written
  refine ⟨?_, ?_, wellNamed, includeless⟩
  · refine Option.eq_none_iff_forall_ne_some.2 fun others isOwn => ?_
    obtain ⟨inOwn, splitAgain, -⟩ := Document.own?_eq_some_iff.1 isOwn
    exact other (Prod.mk.inj (Option.some.inj (splitAgain.symm.trans split))).1
  · rw [← isBody]
    simp only [fragments, found, Option.map_some]

/-- Markup is read back, and so an include of a fragment of another namespace comes to what the
fragment holds. Contents whose names are names of markup are read from their markup merged, whatever
their texts and the values of their attributes are. After any calls, from an empty registry on, a
fragment is kept as the markup of contents. A document of another namespace has these merged in the
place of an include of the fragment, wherever it does not pass properties on; and the template of
each body is the one of the body with the contents in the place of such includes. -/
theorem included_eq_expanded (settings : Settings) (loads : List Load) :
    (∀ contents, AreWellNamed contents →
      Element.read ("<sql>".toList ++ (Markup.toMarkup contents).toList ++ "</sql>".toList) =
        .ok ⟨⟨"sql", []⟩, Markup.merged contents⟩) ∧
    let registry := ((empty settings).run loads).1
    ∀ id fragment, registry.fragment? id = some fragment → ∃ mapper,
      registry.mapper? mapper.namespaceName = some mapper ∧ fragment ∈ mapper.fragments ∧
      (∃ contents, IsWrittenFrom mapper fragment contents) ∧
      ∀ contents, IsWrittenFrom mapper fragment contents → AreWellNamed contents →
        ∀ namespaceName own, namespaceName ≠ mapper.namespaceName →
          let library : Library := ⟨namespaceName, own, registry.fragments⟩
          (∀ chain tag children, id ∉ chain → Document.includedId library [] tag = .ok id →
            Markup.elementsOf children = [] →
            Document.expandInclude library chain [] tag children = .ok (Markup.merged contents)) ∧
          ∀ body spliced, Splices library id contents body spliced → ∀ root,
            HasTemplate library body root ↔ HasTemplate library spliced root := by
  refine ⟨fun contents wellNamed => Markup.read_toMarkup wellNamed, ?_⟩
  intro registry id fragment found
  obtain ⟨mapper, localId, isMapper, split, picked⟩ := exists_split_of_find? found
  obtain ⟨source, file, outside, read⟩ := isRead_of_mem_run (mem_of_mapper? isMapper)
  have member : fragment ∈ mapper.fragments := List.mem_of_find?_eq_some picked
  refine ⟨mapper, isMapper, member, Document.exists_isWrittenFrom_of_read read member, ?_⟩
  intro contents written wellNamed namespaceName own other library
  have kept : IsKept library id contents :=
    isKept_of_isWrittenFrom found split written wellNamed other own
  exact ⟨fun chain tag children fresh => Document.expandInclude_of_isKept kept fresh,
    fun body spliced splices => Document.hasTemplate_splices_iff kept splices⟩

end Registry

end DynamicSql
