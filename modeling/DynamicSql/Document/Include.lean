/-
This file expands includes: an `include` element is replaced by the contents of the fragment that
it refers to, expanded in turn, with the properties that it passes put in for their references. An
include of a fragment that is being expanded already is a cycle. Since there are finitely many
fragments, expansion ends.
-/

import DynamicSql.Fields
import DynamicSql.Mapper.Chain
import DynamicSql.Mapper.Identifier
import DynamicSql.Markup.Reader

namespace DynamicSql.Document

open Markup (Content Tag)

/-! ### Properties -/

/-- The names that an include passes down, with their values. -/
abbrev Properties := Fields String

/-- A text with the references to properties replaced. A reference is a dollar sign with braces
around a name; a name without a property is left as it is. -/
def substituteIn (properties : Properties) (text : List Char) : List Char :=
  match text with
  | [] => []
  | '$' :: '{' :: rest =>
    match cut : Text.cutFirst? '}' rest with
    | none => '$' :: '{' :: rest
    | some (inside, after) =>
      have := Text.cutFirst?_length cut
      match Fields.get? (String.ofList (Text.trim inside)) properties with
      | some value => value.toList ++ substituteIn properties after
      | none => '$' :: '{' :: inside ++ '}' :: substituteIn properties after
  | character :: rest => character :: substituteIn properties rest
termination_by text.length
decreasing_by
  · exact Nat.lt_of_lt_of_le this (Nat.le_add_right _ 2)
  · exact Nat.lt_of_lt_of_le this (Nat.le_add_right _ 2)
  · simp

/-- `substituteIn` for strings. -/
def substitute (properties : Properties) (text : String) : String :=
  String.ofList (substituteIn properties text.toList)

/-- A tag with the references in its attribute values replaced. -/
def substituteTag (properties : Properties) (tag : Tag) : Tag :=
  { tag with attributes := tag.attributes.map fun (key, value) =>
      (key, substitute properties value) }

/-! ### Fragments -/

/-- Fragments outside of a document, found by their qualified identifiers. There are finitely many
of them. -/
structure FragmentSource where
  find? : String → Option String
  ids : List String
  complete : ∀ {id markup}, find? id = some markup → id ∈ ids

/-- No fragments. -/
def FragmentSource.none : FragmentSource where
  find? _ := .none
  ids := []
  complete found := by simp at found

/-- Fragments in a list; of two with one identifier the first is found. -/
def FragmentSource.ofList (fragments : Fields String) : FragmentSource where
  find? id := Fields.get? id fragments
  ids := Fields.names fragments
  complete found := Fields.mem_names_of_get? found

/-- The fragments that includes can refer to: those of the document itself and those outside. -/
structure Library where
  namespaceName : String
  own : Fields (List Content)
  outside : FragmentSource

/-- Why an include cannot be expanded. -/
inductive IncludeFault where
  | missing (key : Markup.MissingAttribute)
  | cycle (chain : List String) (id : String)
  | unexpected (tag : Tag)
  | unknown (id : String)
  | malformed (fault : Markup.ReadFault)
  deriving DecidableEq

/-- The message for a fault. -/
def IncludeFault.message : IncludeFault → String
  | .missing key => key.message
  | .cycle chain id => "include cycle: " ++ Chain.cycleText chain id
  | .unexpected tag => "unexpected `" ++ tag.snippet ++ "` inside `<include>`"
  | .unknown id => "unknown fragment `" ++ id ++ "`"
  | .malformed fault => fault.message

namespace Library

/-- The contents of a fragment of the document itself. -/
def own? (library : Library) (id : String) : Option (List Content) :=
  match Identifier.split? id with
  | some (namespaceName, localId) =>
    if namespaceName = library.namespaceName then Fields.get? localId library.own else none
  | none => none

/-- The contents of a fragment, if there is one: of the document's own, else of those outside,
which are read from their markup. -/
def find? (library : Library) (id : String) :
    Option (Except Markup.ReadFault (List Content)) :=
  match library.own? id with
  | some contents => some (.ok contents)
  | none =>
    (library.outside.find? id).map fun markup =>
      (Markup.Element.read ("<sql>".toList ++ markup.toList ++ "</sql>".toList)).map (·.children)

/-- The qualified identifiers of all fragments. -/
def ids (library : Library) : List String :=
  library.own.map (fun fragment => Identifier.qualify library.namespaceName fragment.1) ++
    library.outside.ids

/-- Every fragment that is found has one of the identifiers. -/
theorem mem_ids_of_find? {library : Library} {id : String}
    {contents : Except Markup.ReadFault (List Content)}
    (found : library.find? id = some contents) : id ∈ library.ids := by
  unfold find? at found
  unfold ids
  split at found
  · next ownContents ownFound =>
    refine List.mem_append_left _ ?_
    unfold own? at ownFound
    split at ownFound
    · next namespaceName localId split =>
      split at ownFound
      · next same =>
        have named := Fields.mem_names_of_get? ownFound
        obtain ⟨fragment, member, equal⟩ := List.mem_map.1 named
        refine List.mem_map.2 ⟨fragment, member, ?_⟩
        rw [equal, ← same]
        exact Identifier.qualify_of_split? split
      · simp at ownFound
    · simp at ownFound
  · refine List.mem_append_right _ ?_
    obtain ⟨markup, outside, _⟩ := Option.map_eq_some_iff.1 found
    exact library.outside.complete outside

end Library

/-! ### Expansion -/

mutual

/-- Contents with every include replaced by what `expandInclude` makes of it, and the properties
put in everywhere else. -/
def expandEach (expandInclude : Tag → List Content → Except IncludeFault (List Content))
    (properties : Properties) : List Content → Except IncludeFault (List Content)
  | [] => .ok []
  | content :: rest =>
    match expandContent expandInclude properties content with
    | .error fault => .error fault
    | .ok first =>
      match expandEach expandInclude properties rest with
      | .error fault => .error fault
      | .ok others => .ok (first ++ others)

/-- `expandEach` for one content. -/
def expandContent (expandInclude : Tag → List Content → Except IncludeFault (List Content))
    (properties : Properties) : Content → Except IncludeFault (List Content)
  | .text text => .ok [.text (substitute properties text)]
  | .element tag children =>
    if tag.name = "include" then expandInclude tag children
    else
      match expandEach expandInclude properties children with
      | .error fault => .error fault
      | .ok expanded => .ok [.element (substituteTag properties tag) expanded]

end

/-- The qualified identifier of the fragment that an include refers to. -/
def includedId (library : Library) (properties : Properties) (tag : Tag) :
    Except IncludeFault String :=
  match tag.require "refid" with
  | .error missing => .error (.missing missing)
  | .ok reference =>
    .ok (Identifier.resolve library.namespaceName (substitute properties reference))

/-- The properties in scope within an include: those around it, and those that the elements inside
it declare, with the ones around it put into their values. -/
def passedProperties (outer : Properties) (passed : Properties) :
    List Markup.Element → Except IncludeFault Properties
  | [] => .ok passed
  | property :: rest =>
    if property.tag.name = "property" then
      match property.tag.require "name" with
      | .error missing => .error (.missing missing)
      | .ok name =>
        let value := substitute outer (property.tag.attributeOr "value" "")
        passedProperties outer (Fields.put name value passed) rest
    else .error (.unexpected property.tag)

/-- Contents with their includes expanded within the expansion of the fragments of `chain`. -/
def expandFrom (library : Library) (chain : List String) (properties : Properties)
    (contents : List Content) : Except IncludeFault (List Content) :=
  expandEach (fun tag children =>
    match includedId library properties tag with
    | .error fault => .error fault
    | .ok id =>
      if onChain : id ∈ chain then .error (.cycle chain id)
      else
        match passedProperties properties properties (Markup.elementsOf children) with
        | .error fault => .error fault
        | .ok passed =>
          match found : library.find? id with
          | none => .error (.unknown id)
          | some (.error fault) => .error (.malformed fault)
          | some (.ok body) =>
            have := Chain.length_outside_lt (Library.mem_ids_of_find? found) onChain
            expandFrom library (chain ++ [id]) passed body)
    properties contents
termination_by (Chain.outside chain library.ids).length

/-- Contents with all includes expanded. -/
def expand (library : Library) (contents : List Content) : Except IncludeFault (List Content) :=
  expandFrom library [] [] contents

end DynamicSql.Document
