/-
This file says where the faults of a document are placed. Every fault is placed in the file and the
namespace of the document, and nowhere within it or at an element directly inside the root, by the
identifier that the element has. Only bodies of statements ask for unsupported features, so a fault
of that sort is placed at a statement. Each function of the reader places its own faults; the
walks through the elements only hand them on.
-/

import DynamicSql.Proofs.Document.Inventory

namespace DynamicSql.Document

open Markup (Content Element Tag)

/-! ### Places -/

/-- A fault that does not come from an unsupported feature. -/
def Fault.IsOrdinary (fault : Fault) : Prop :=
  fault.error.any Cause.isUnsupportedFeature = false

/-- A fault is placed at the start, which is the place of the whole document, or at one of its
elements; only at a statement it may be any fault. -/
inductive IsPlaced (start : Location) (elements : List Element) : PlacedFault → Prop where
  | document {fault : Fault} (ordinary : fault.IsOrdinary) : IsPlaced start elements ⟨start, fault⟩
  | element {element : Element} {id : String} {fault : Fault} (member : element ∈ elements)
      (labelled : element.tag.attribute? "id" = some id)
      (cause : fault.IsOrdinary ∨ element.tag.name ∈ statementNames) :
      IsPlaced start elements ⟨start.within id, fault⟩

variable {start : Location} {elements : List Element} {placed : PlacedFault}

theorem exists_of_placedAt_eq_error {Result : Type} {location : Location}
    {reading : Except Fault Result} (failed : placedAt location reading = .error placed) :
    ∃ fault, reading = .error fault ∧ placed = ⟨location, fault⟩ := by
  obtain ⟨fault, isFault, rfl⟩ := exists_of_mapError_eq_error failed
  exact ⟨fault, isFault, rfl⟩

theorem isPlaced_of_requireId {element : Element}
    (failed : requireId start element = .error placed) : IsPlaced start elements placed := by
  obtain ⟨fault, isFault, rfl⟩ := exists_of_placedAt_eq_error failed
  obtain ⟨missing, -, rfl⟩ := exists_of_mapError_eq_error isFault
  exact .document rfl

/-! ### Fragments -/

theorem isPlaced_of_declareFragments {declared : Fields (List Content)} {chosen : List Element}
    (subset : chosen ⊆ elements) (failed : declareFragments start declared chosen = .error placed) :
    IsPlaced start elements placed := by
  induction chosen generalizing declared with
  | nil => cases failed
  | cons element rest inductionHypothesis =>
    obtain ⟨member, others⟩ := List.cons_subset.1 subset
    unfold declareFragments at failed
    obtain noId | ⟨id, isId, failed⟩ := error_or_exists_of_bind_eq_error failed
    · exact isPlaced_of_requireId noId
    · split at failed
      · obtain rfl := Except.error.inj failed
        exact .element member (labels_of_requireId isId).1 (.inl rfl)
      · exact inductionHypothesis others failed

/-- A field carries the identifier of one of the elements. -/
def IsLabelledIn (elements : List Element) (field : String × List Content) : Prop :=
  ∃ element ∈ elements, element.tag.attribute? "id" = some field.1

theorem isLabelledIn_of_declareFragments {own : Fields (List Content)}
    (done : declareFragments start [] (fragmentElements elements) = .ok own) :
    ∀ field ∈ own, IsLabelledIn elements field := by
  intro field isField
  obtain ⟨⟨added, rfl, adds⟩, -⟩ := exists_of_declareFragments done
  obtain ⟨element, member, labels, -⟩ := exists_of_forall₂_right adds isField
  exact ⟨element, List.mem_of_mem_filter member, labels.1⟩

theorem isPlaced_of_expandFragments {library : Library} {own : Fields (List Content)}
    (labelled : ∀ field ∈ own, IsLabelledIn elements field)
    (failed : expandFragments start library own = .error placed) :
    IsPlaced start elements placed := by
  induction own with
  | nil => cases failed
  | cons field rest inductionHypothesis =>
    obtain ⟨⟨element, member, isId⟩, others⟩ := List.forall_mem_cons.1 labelled
    unfold expandFragments at failed
    obtain noExpansion | ⟨expanded, -, failed⟩ := error_or_exists_of_bind_eq_error failed
    · obtain ⟨fault, isFault, rfl⟩ := exists_of_placedAt_eq_error noExpansion
      obtain ⟨cause, -, rfl⟩ := exists_of_mapError_eq_error isFault
      exact .element member isId (.inl rfl)
    · obtain inRest | ⟨fragments, -, failed⟩ := error_or_exists_of_bind_eq_error failed
      · exact inductionHypothesis others inRest
      · cases failed

/-! ### Statements and result maps -/

theorem isPlaced_of_declareStatement {library : Library} {mapper : Mapper} {kind : StatementKind}
    {element : Element} (member : element ∈ elements)
    (named : StatementKind.ofName? element.tag.name = some kind)
    (failed : declareStatement start library mapper kind element = .error placed) :
    IsPlaced start elements placed := by
  have isStatement : element.tag.name ∈ statementNames := by
    rw [← List.contains_iff_mem, ← isSome_ofName?, named]
    rfl
  unfold declareStatement at failed
  obtain noId | ⟨id, isId, failed⟩ := error_or_exists_of_bind_eq_error failed
  · exact isPlaced_of_requireId noId
  · have labelled := (labels_of_requireId isId).1
    obtain noStatement | ⟨statement, -, failed⟩ := error_or_exists_of_bind_eq_error failed
    · obtain ⟨fault, -, rfl⟩ := exists_of_placedAt_eq_error noStatement
      exact .element member labelled (.inr isStatement)
    · split at failed
      · obtain rfl := Except.error.inj failed
        exact .element member labelled (.inr isStatement)
      · cases failed

theorem isPlaced_of_declareResultMap {mapper : Mapper} {element : Element}
    (member : element ∈ elements)
    (failed : declareResultMap start mapper element = .error placed) :
    IsPlaced start elements placed := by
  unfold declareResultMap at failed
  obtain noMap | ⟨map, isMap, failed⟩ := error_or_exists_of_bind_eq_error failed
  · obtain ⟨fault, isFault, rfl⟩ := exists_of_placedAt_eq_error noMap
    obtain ⟨cause, -, rfl⟩ := exists_of_mapError_eq_error isFault
    unfold resultMapLocation
    split
    · next id isId => exact .element member isId (.inl rfl)
    · exact .document rfl
  · split at failed
    · obtain rfl := Except.error.inj failed
      have read := eq_ok_of_mapError_eq_ok (eq_ok_of_mapError_eq_ok isMap)
      have labels := labels_of_requireSetting (labels_of_readResultMap read).2
      exact .element member labels.1 (.inl rfl)
    · cases failed

theorem isPlaced_of_declareEach {library : Library} {mapper : Mapper} {chosen : List Element}
    (subset : chosen ⊆ elements)
    (failed : declareEach start library mapper chosen = .error placed) :
    IsPlaced start elements placed := by
  induction chosen generalizing mapper with
  | nil => cases failed
  | cons element rest inductionHypothesis =>
    obtain ⟨member, others⟩ := List.cons_subset.1 subset
    unfold declareEach at failed
    split at failed
    · next kind named =>
      obtain noStatement | ⟨next, -, failed⟩ := error_or_exists_of_bind_eq_error failed
      · exact isPlaced_of_declareStatement member named noStatement
      · exact inductionHypothesis others failed
    · split at failed
      · obtain noMap | ⟨next, -, failed⟩ := error_or_exists_of_bind_eq_error failed
        · exact isPlaced_of_declareResultMap member noMap
        · exact inductionHypothesis others failed
      · split at failed
        · exact inductionHypothesis others failed
        · obtain rfl := Except.error.inj failed
          exact .document rfl

/-! ### Documents -/

theorem isPlaced_of_readMapper {namespaceName : String} {root : Element} {outside : FragmentSource}
    (failed : readMapper start namespaceName root outside = .error placed) :
    IsPlaced start root.elements placed := by
  unfold readMapper at failed
  obtain noFragments | ⟨own, isOwn, failed⟩ := error_or_exists_of_bind_eq_error failed
  · exact isPlaced_of_declareFragments (List.filter_subset_self _) noFragments
  · obtain noExpansion | ⟨fragments, -, failed⟩ := error_or_exists_of_bind_eq_error failed
    · exact isPlaced_of_expandFragments (isLabelledIn_of_declareFragments isOwn) noExpansion
    · split at failed
      · obtain rfl := Except.error.inj failed
        exact .document rfl
      · exact isPlaced_of_declareEach (List.Subset.refl _) failed

/-- A document gives a namespace: its markup can be read, its root is a mapper, and the namespace
of that, without the blanks around it, is the name. -/
def GivesNamespace (source name : String) : Prop :=
  ∃ root text, Element.read source.toList = .ok root ∧ root.tag.name = "mapper" ∧
    root.tag.attribute? "namespace" = some text ∧ Text.isAllBlank text.toList = false ∧
    name = Text.trimmed text

/-- An element with an identifier is directly inside the root of a document. -/
def HasElement (source : String) (element : Element) (id : String) : Prop :=
  ∃ root, Element.read source.toList = .ok root ∧ element ∈ root.elements ∧
    element.tag.attribute? "id" = some id

/-- A location says all that can be said of where a fault in a document is. -/
structure IsAttribution (source : String) (file : Option String) (error : Error)
    (location : Location) : Prop where
  file : location.file = file
  namespaceName : ∀ name, location.namespaceName = some name ↔ GivesNamespace source name
  statement : ∀ id, location.statement = some id → ∃ element, HasElement source element id
  unsupported : error.any Cause.isUnsupportedFeature = true →
    ∃ element id, location.statement = some id ∧ HasElement source element id ∧
      element.tag.name ∈ statementNames

theorem PlacedFault.outermost_error (placed : PlacedFault) :
    ∃ text, placed.error.outermost = .invalidMapper placed.location text := by
  by_cases unsupported : placed.fault.error.any Cause.isUnsupportedFeature = true
  · exact ⟨_, by rw [PlacedFault.error, if_pos unsupported]; rfl⟩
  · exact ⟨_, by rw [PlacedFault.error, if_neg unsupported]; rfl⟩

/-- The error of an ordinary fault does not speak of an unsupported feature either. -/
theorem Fault.IsOrdinary.error {location : Location} {fault : Fault} (ordinary : fault.IsOrdinary) :
    (PlacedFault.error ⟨location, fault⟩).any Cause.isUnsupportedFeature = false := by
  have noCause : ¬ fault.error.any Cause.isUnsupportedFeature = true := by
    rw [ordinary]
    exact Bool.false_ne_true
  rw [PlacedFault.error, if_neg noCause]
  rfl

/-- A fault of the whole document is attributed to it, with the namespace if there is one. -/
theorem isAttribution_of_isOrdinary {source : String} {file namespaceName : Option String}
    {fault : Fault} (ordinary : fault.IsOrdinary)
    (given : ∀ name, namespaceName = some name ↔ GivesNamespace source name) :
    IsAttribution source file (PlacedFault.error ⟨⟨file, namespaceName, none⟩, fault⟩)
      ⟨file, namespaceName, none⟩ := by
  refine ⟨rfl, given, fun id isId => ?_, fun unsupported => ?_⟩
  · cases isId
  · rw [ordinary.error] at unsupported
    cases unsupported

theorem isAttribution_of_not_givesNamespace {source : String} {file : Option String}
    {fault : Fault} (ordinary : fault.IsOrdinary)
    (unnamed : ∀ name, ¬ GivesNamespace source name) :
    IsAttribution source file (PlacedFault.error ⟨⟨file, none, none⟩, fault⟩)
      ⟨file, none, none⟩ :=
  isAttribution_of_isOrdinary ordinary fun name =>
    ⟨fun isName => (nomatch isName), fun given => absurd given (unnamed name)⟩

theorem isAttribution_of_isPlaced {source : String} {file : Option String} {root : Element}
    {namespaceName : String} (markup : Element.read source.toList = .ok root)
    (given : ∀ name, some namespaceName = some name ↔ GivesNamespace source name)
    (isPlaced : IsPlaced ⟨file, some namespaceName, none⟩ root.elements placed) :
    IsAttribution source file placed.error placed.location := by
  cases isPlaced with
  | document ordinary => exact isAttribution_of_isOrdinary ordinary given
  | @element element id fault member labelled cause =>
    have has : HasElement source element id := ⟨root, markup, member, labelled⟩
    refine ⟨rfl, given, ?_, fun unsupported => ?_⟩
    · rintro other isId
      obtain rfl := Option.some.inj isId
      exact ⟨element, has⟩
    · rcases cause with ordinary | isStatement
      · rw [ordinary.error] at unsupported
        cases unsupported
      · exact ⟨element, id, rfl, has, isStatement⟩

/-- Of a document that can be read the root alone says what the namespace is. -/
theorem givesNamespace_iff {source name : String} {root : Element}
    (markup : Element.read source.toList = .ok root) :
    GivesNamespace source name ↔
      root.tag.name = "mapper" ∧ namespaceOf? root.tag = some name := by
  rw [namespaceOf?_eq_some_iff]
  constructor
  · rintro ⟨other, text, isOther, named, given⟩
    obtain rfl := Except.ok.inj (markup.symm.trans isOther)
    exact ⟨named, text, given⟩
  · rintro ⟨named, text, given⟩
    exact ⟨root, text, markup, named, given⟩

theorem isAttribution_of_readPlaced {source : String} {file : Option String}
    {outside : FragmentSource} (failed : readPlaced source file outside = .error placed) :
    IsAttribution source file placed.error placed.location := by
  unfold readPlaced at failed
  split at failed
  · next fault unreadable =>
    obtain rfl := Except.error.inj failed
    refine isAttribution_of_not_givesNamespace rfl ?_
    rintro name ⟨root, -, markup, -⟩
    rw [unreadable] at markup
    cases markup
  · next root markup =>
    unfold readRoot at failed
    split at failed
    · next noMapper =>
      obtain rfl := Except.error.inj failed
      refine isAttribution_of_not_givesNamespace rfl fun name given => ?_
      exact noMapper ((givesNamespace_iff markup).1 given).1
    · next named =>
      have isMapper := of_not_not named
      split at failed
      · next noNamespace =>
        obtain rfl := Except.error.inj failed
        refine isAttribution_of_not_givesNamespace rfl fun name given => ?_
        rw [((givesNamespace_iff markup).1 given).2] at noNamespace
        cases noNamespace
      · next namespaceName space =>
        refine isAttribution_of_isPlaced markup (fun name => ?_) (isPlaced_of_readMapper failed)
        rw [givesNamespace_iff markup, space]
        exact (and_iff_right isMapper).symm

/-- A document that is no mapper is refused with an error that says first of all where in the
document the fault is. -/
theorem exists_attribution_of_read (source : String) (file : Option String)
    (outside : FragmentSource) (error : Error) (failed : read source file outside = .error error) :
    ∃ location text, error.outermost = .invalidMapper location text ∧
      IsAttribution source file error location := by
  obtain ⟨placed, isPlaced, rfl⟩ := exists_of_mapError_eq_error failed
  obtain ⟨text, isOutermost⟩ := placed.outermost_error
  exact ⟨placed.location, text, isOutermost, isAttribution_of_readPlaced isPlaced⟩

/-- A document with a statement that asks for a text to be put in as it is. -/
def rawDocument : String :=
  "<mapper namespace=' space '><select id='all'>order by ${column}</select></mapper>"

theorem exists_attribution_of_read_raw : ∃ error location text,
    read rawDocument (some "raw.xml") .none = .error error ∧
      error.any Cause.isUnsupportedFeature = true ∧
      error.outermost = .invalidMapper location text ∧
      IsAttribution rawDocument (some "raw.xml") error location := by
  have rejected : (match read rawDocument (some "raw.xml") .none with
      | .error error => error.any Cause.isUnsupportedFeature
      | .ok _ => false) = true := by
    decide +kernel
  split at rejected
  · next error failed =>
    obtain ⟨location, text, outermost, attribution⟩ := exists_attribution_of_read _ _ _ _ failed
    exact ⟨error, location, text, failed, rejected, outermost, attribution⟩
  · cases rejected

end DynamicSql.Document
