/-
This file says what qualified identifiers lead to. A namespace and a local identifier are joined by
a point and parted again at the last point. Documents have their namespaces trimmed and not empty,
and refuse identifiers of statements that have a point in them, so each statement is led to by its
own identifier and by no other. Of result maps and fragments no point is refused: those that have
one are held by the mapper, and nothing leads to them.
-/

import DynamicSql.Proofs.Document.Inventory
import DynamicSql.Proofs.Registry.History

namespace DynamicSql

/-! ### Identifiers in documents -/

namespace Document

open Markup (Content Element Tag)

theorem ne_empty_of_namespaceOf? {tag : Tag} {namespaceName : String}
    (found : namespaceOf? tag = some namespaceName) : namespaceName ≠ "" := by
  unfold namespaceOf? at found
  exact of_decide_eq_true (Option.filter_eq_some_iff.1 found).2

theorem Labels.ne_empty {element : Element} {id : String} (labels : Labels element id) :
    id ≠ "" := by
  rintro rfl
  cases labels.2

end Document

/-- Whatever is found by a local identifier has it. -/
def IsKeyed {Item : Type} (pick : Mapper → String → Option Item) (idOf : Item → String) : Prop :=
  ∀ mapper id item, pick mapper id = some item → idOf item = id

/-- The namespace of a mapper and the identifiers of all that it holds are not empty, and those of
statements have no point in them. -/
structure Mapper.IsAddressable (mapper : Mapper) : Prop where
  named : mapper.namespaceName ≠ ""
  statements : ∀ statement ∈ mapper.statements, statement.id ≠ "" ∧ '.' ∉ statement.id.toList
  resultMaps : ∀ map ∈ mapper.resultMaps, map.id ≠ ""
  fragments : ∀ fragment ∈ mapper.fragments, fragment.id ≠ ""

theorem isAddressable_of_read {source : String} {file : Option String}
    {outside : Document.FragmentSource} {mapper : Mapper}
    (done : Document.read source file outside = .ok mapper) : mapper.IsAddressable := by
  obtain ⟨root, own, -, -, space, inventory⟩ := Document.exists_inventory_of_read done
  refine ⟨Document.ne_empty_of_namespaceOf? space, ?_, ?_, ?_⟩
  · intro statement member
    obtain ⟨element, -, declares⟩ := Document.exists_of_forall₂_right inventory.statements member
    exact ⟨declares.labels.ne_empty, (Document.isStatementOf_of_readStatement declares.read).plain⟩
  · intro map member
    obtain ⟨element, -, declares⟩ := Document.exists_of_forall₂_right inventory.resultMaps member
    exact declares.labels.ne_empty
  · intro fragment member
    obtain ⟨element, -, declares⟩ := Document.exists_of_forall₂_right inventory.fragments member
    exact declares.labels.ne_empty

/-- Of items with distinct identifiers each is found by its own. -/
theorem find?_of_nodup {Item : Type} {idOf : Item → String} {items : List Item} {item : Item}
    (distinct : (items.map idOf).Nodup) (member : item ∈ items) :
    items.find? (fun other => idOf other == idOf item) = some item := by
  induction items with
  | nil => cases member
  | cons first rest inductionHypothesis =>
    obtain ⟨absent, later⟩ := List.nodup_cons.1 distinct
    rcases List.mem_cons.1 member with rfl | member
    · exact List.find?_cons_of_pos (beq_self_eq_true _)
    · rw [List.find?_cons_of_neg, inductionHypothesis later member]
      intro same
      exact absent (beq_iff_eq.1 same ▸ List.mem_map_of_mem member)

/-! ### Looking up -/

namespace Registry

variable {registry : Registry} {mapper : Mapper}

/-- What is found by an identifier is found in the mapper of its namespace. -/
theorem exists_split_of_find? {Item : Type} {pick : Mapper → String → Option Item} {id : String}
    {item : Item} (found : registry.find? pick id = some item) :
    ∃ mapper localId, registry.mapper? mapper.namespaceName = some mapper ∧
      Identifier.split? id = some (mapper.namespaceName, localId) ∧
      pick mapper localId = some item := by
  unfold find? at found
  split at found
  · cases found
  · next namespaceName localId split =>
    obtain ⟨mapper, isMapper, picked⟩ := Option.bind_eq_some_iff.1 found
    obtain rfl := namespaceName_of_mapper? isMapper
    exact ⟨mapper, localId, isMapper, split, picked⟩

/-- What is looked up by the identifier of an item is the item, exactly if the local identifier has
no point in it. -/
theorem find?_qualify_iff {Item : Type} {pick : Mapper → String → Option Item}
    {idOf : Item → String} (keyed : IsKeyed pick idOf) {item : Item}
    (named : mapper.namespaceName ≠ "") (filled : idOf item ≠ "")
    (isMapper : registry.mapper? mapper.namespaceName = some mapper)
    (picked : pick mapper (idOf item) = some item) :
    registry.find? pick (Identifier.qualify mapper.namespaceName (idOf item)) = some item ↔
      '.' ∉ (idOf item).toList := by
  constructor
  · intro found
    obtain ⟨other, localId, -, split, pickedThere⟩ := exists_split_of_find? found
    rw [keyed other localId item pickedThere]
    exact (Identifier.parts_of_split? split).2.2
  · intro plain
    rw [find?_of_split? _ _ (Identifier.split?_qualify named filled plain), isMapper]
    exact picked

/-- A statement is registered: the mapper of its namespace holds it. -/
def Registers (registry : Registry) (statement : Statement) : Prop :=
  ∃ mapper, registry.mapper? statement.namespaceName = some mapper ∧
    statement ∈ mapper.statements

/-- A registry holds only mappers of documents. -/
def HoldsDocuments (registry : Registry) : Prop :=
  ∀ mapper ∈ registry.mappers, IsRead mapper

theorem statement?_isKeyed : IsKeyed Mapper.statement? Statement.id :=
  fun _ _ _ found => (Mapper.id_of_statement? found).2

theorem statement?_eq_some_iff (documents : registry.HoldsDocuments) {id : String}
    {statement : Statement} : registry.statement? id = some statement ↔
      registry.Registers statement ∧ statement.qualifiedId = id := by
  constructor
  · intro found
    obtain ⟨mapper, localId, isMapper, split, picked⟩ := exists_split_of_find? found
    obtain ⟨source, file, outside, read⟩ := documents mapper (mem_of_mapper? isMapper)
    obtain ⟨inside, rfl⟩ := Mapper.id_of_statement? picked
    have sameNamespace := ((Document.isLabelled_of_read read).statements statement inside).1
    rw [← sameNamespace] at isMapper split
    exact ⟨⟨mapper, isMapper, inside⟩, Identifier.qualify_of_split? split⟩
  · rintro ⟨⟨mapper, isMapper, inside⟩, rfl⟩
    obtain ⟨source, file, outside, read⟩ := documents mapper (mem_of_mapper? isMapper)
    have addressable := isAddressable_of_read read
    obtain ⟨filled, plain⟩ := addressable.statements statement inside
    have picked := ((Document.isLabelled_of_read read).statements statement inside).2
    have isNamespace := namespaceName_of_mapper? isMapper
    unfold statement? Statement.qualifiedId
    rw [← isNamespace] at isMapper ⊢
    exact (find?_qualify_iff statement?_isKeyed addressable.named filled isMapper picked).2
      plain

theorem holdsDocuments_run (settings : Settings) (loads : List Load) :
    ((empty settings).run loads).1.HoldsDocuments :=
  fun _ member => isRead_of_mem_run member

/-- Statements are addressed without loss or ambiguity. The mapper of a document has one statement
for each statement element inside the root, in their order, under distinct identifiers. After any
calls, from an empty registry on, an identifier leads to a statement exactly if that is registered
and the identifier is its own; no two registered statements have one identifier; and by an
identifier of none the outcome is that there is no statement. -/
theorem statement_eq_ok_iff (settings : Settings) (loads : List Load) :
    (∀ source file outside mapper, Document.read source file outside = .ok mapper →
      ∃ root own, Markup.Element.read source.toList = .ok root ∧
        List.Forall₂ (Document.DeclaresStatement ⟨mapper.namespaceName, own, outside⟩)
          (Document.statementElements root.elements) mapper.statements ∧
        (mapper.statements.map Statement.id).Nodup) ∧
    let registry := ((empty settings).run loads).1
    (∀ id statement, registry.statement id = .ok statement ↔
      registry.Registers statement ∧ statement.qualifiedId = id) ∧
    (∀ first second, registry.Registers first → registry.Registers second →
      first.qualifiedId = second.qualifiedId → first = second) ∧
    ∀ id, (¬ ∃ statement, registry.Registers statement ∧ statement.qualifiedId = id) →
      registry.statement id = .error (.of (.statementNotFound id)) := by
  refine ⟨?_, ?_⟩
  · intro source file outside mapper read
    obtain ⟨root, own, markup, -, -, inventory⟩ := Document.exists_inventory_of_read read
    exact ⟨root, own, markup, inventory.statements, inventory.distinctStatements⟩
  intro registry
  have leads : ∀ id statement, registry.statement? id = some statement ↔
      registry.Registers statement ∧ statement.qualifiedId = id :=
    fun id statement => statement?_eq_some_iff (holdsDocuments_run settings loads)
  refine ⟨fun id statement => ?_, ?_, ?_⟩
  · rw [← leads, Registry.statement]
    cases registry.statement? id with
    | none => simp
    | some found => simp
  · intro first second isFirst isSecond same
    have found := (leads first.qualifiedId first).2 ⟨isFirst, rfl⟩
    have foundToo := (leads first.qualifiedId second).2 ⟨isSecond, same.symm⟩
    exact Option.some.inj (found.symm.trans foundToo)
  · intro id unknown
    have none : registry.statement? id = none :=
      Option.eq_none_iff_forall_ne_some.2 fun statement found =>
        unknown ⟨statement, (leads id statement).1 found⟩
    rw [Registry.statement, none]

end Registry

end DynamicSql
