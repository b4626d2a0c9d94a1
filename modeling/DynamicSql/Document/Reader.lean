/-
This file reads mapper documents. The fragments of a document are read and expanded first, since
statements may include fragments that are declared after them; then its statements and result maps
are read in order. The first fault ends the reading.
-/

import DynamicSql.Document.Body
import DynamicSql.Document.Include
import DynamicSql.Document.ResultMap
import DynamicSql.Mapper.Basic

namespace DynamicSql.Document

open Markup (Content Element Tag)

/-! ### Faults -/

/-- Why a document is no mapper. -/
inductive Fault where
  | markup (fault : Markup.ReadFault)
  | noMapper (tag : Tag)
  | noNamespace
  | setting (fault : SettingFault)
  | expansion (fault : IncludeFault)
  | strayText (text : String)
  | body (fault : BodyFault)
  | pointInId
  | keysOfReading
  | resultMap (fault : ResultMapFault)
  | duplicateFragment
  | duplicateStatement
  | duplicateResultMap
  | unknown (tag : Tag)
  deriving DecidableEq

/-- The error that a fault is by itself. -/
def Fault.error : Fault → Error
  | .markup fault => .note fault.message
  | .noMapper tag => .note ("expected a `<mapper>` root element, found `" ++ tag.snippet ++ "`")
  | .noNamespace => .note "`<mapper>` requires a `namespace` attribute"
  | .setting fault => .note fault.message
  | .expansion fault => .note fault.message
  | .strayText text =>
    .note ("text directly inside `<mapper>`: `" ++ Markup.abbreviate text ++ "`")
  | .body fault => fault.error
  | .pointInId => .note "statement ids cannot contain `.`"
  | .keysOfReading => .note "`useGeneratedKeys` is only valid on `<insert>` and `<update>`"
  | .resultMap fault => .note fault.message
  | .duplicateFragment => .note "duplicate fragment id"
  | .duplicateStatement => .note "duplicate statement id"
  | .duplicateResultMap => .note "duplicate result map id"
  | .unknown tag => .note ("unknown element `" ++ tag.snippet ++ "`")

/-- A fault with the place it was found at. -/
structure PlacedFault where
  location : Location
  fault : Fault
  deriving DecidableEq

/-- The error that a fault at a place is. The cause stays visible if it is that a feature is not
supported; of all others only the message is kept. -/
def PlacedFault.error (placed : PlacedFault) : Error :=
  let error := placed.fault.error
  if error.any Cause.isUnsupportedFeature then
    error.under (.invalidMapper placed.location "rejected statement body")
  else .of (.invalidMapper placed.location error.message)

/-- A reading whose faults are found at a place. -/
def placedAt {Result : Type} (location : Location) (reading : Except Fault Result) :
    Except PlacedFault Result :=
  reading.mapError fun fault => ⟨location, fault⟩

/-- The identifier that an element must have. -/
def requireId (location : Location) (element : Element) : Except PlacedFault String :=
  placedAt location ((requireSetting element.tag "id").mapError .setting)

/-! ### Fragments -/

/-- The fragments that elements declare, put behind those declared before. -/
def declareFragments (location : Location) (declared : Fields (List Content)) :
    List Element → Except PlacedFault (Fields (List Content))
  | [] => .ok declared
  | element :: rest => do
    let id ← requireId location element
    if Fields.contains id declared then .error ⟨location.within id, .duplicateFragment⟩
    else declareFragments location (declared ++ [(id, element.children)]) rest

/-- The fragments with their includes expanded. -/
def expandFragments (location : Location) (library : Library) :
    Fields (List Content) → Except PlacedFault (List Fragment)
  | [] => .ok []
  | (id, contents) :: rest => do
    let expanded ← placedAt (location.within id) ((expand library contents).mapError .expansion)
    let others ← expandFragments location library rest
    return ⟨id, Markup.toMarkup expanded⟩ :: others

/-! ### Statements -/

/-- The keys that a statement of a kind has generated, if its element asks for any. -/
def generatedKeysOf (kind : StatementKind) (tag : Tag) : Except Fault (Option GeneratedKeys) := do
  let asked ← (flagSetting tag "useGeneratedKeys").mapError .setting
  if kind = .insert ∨ kind = .update then
    let properties := listSetting tag "keyProperty"
    if asked = some true ∨ properties ≠ [] then
      return some ⟨properties, listSetting tag "keyColumn"⟩
    else return none
  else if asked = some true then .error .keysOfReading
  else return none

/-- The statement of a kind that an element with an identifier declares. -/
def readStatement (library : Library) (kind : StatementKind) (id : String) (element : Element) :
    Except Fault Statement := do
  if '.' ∈ id.toList then .error .pointInId
  else
    let tag := element.tag
    let expanded ← (expand library element.children).mapError .expansion
    let root ← (compile expanded).mapError .body
    let generatedKeys ← generatedKeysOf kind tag
    let useCache ← (flagSetting tag "useCache").mapError .setting
    let timeout ← (numberSetting tag "timeout").mapError .setting
    let fetchSize ← (numberSetting tag "fetchSize").mapError .setting
    return {
      namespaceName := library.namespaceName
      id
      kind
      body := Markup.toMarkup element.children
      root
      parameterType := tag.attribute? "parameterType"
      resultType := tag.attribute? "resultType"
      resultMap := (tag.attribute? "resultMap").map (Identifier.resolve library.namespaceName)
      useCache := useCache.getD kind.isSelect
      timeout
      fetchSize
      statementType := tag.attribute? "statementType"
      generatedKeys }

/-! ### Documents -/

/-- The elements that say nothing about statements or results. -/
def ignoredElements : List String :=
  ["sql", "cache", "cache-ref", "parameterMap"]

/-- A mapper with the statement of a kind that an element declares. -/
def declareStatement (location : Location) (library : Library) (mapper : Mapper)
    (kind : StatementKind) (element : Element) : Except PlacedFault Mapper := do
  let id ← requireId location element
  let statement ← placedAt (location.within id) (readStatement library kind id element)
  if (mapper.statement? id).isSome then .error ⟨location.within id, .duplicateStatement⟩
  else return { mapper with statements := mapper.statements ++ [statement] }

/-- Where the faults of a result map are found. -/
def resultMapLocation (location : Location) (tag : Tag) : Location :=
  match tag.attribute? "id" with
  | some id => location.within id
  | none => location

/-- A mapper with the result map that an element declares. -/
def declareResultMap (location : Location) (mapper : Mapper) (element : Element) :
    Except PlacedFault Mapper := do
  let map ← placedAt (resultMapLocation location element.tag)
    ((readResultMap mapper.namespaceName element).mapError .resultMap)
  if (mapper.resultMap? map.id).isSome then
    .error ⟨location.within map.id, .duplicateResultMap⟩
  else return { mapper with resultMaps := mapper.resultMaps ++ [map] }

/-- A mapper with what elements declare. -/
def declareEach (location : Location) (library : Library) (mapper : Mapper) :
    List Element → Except PlacedFault Mapper
  | [] => .ok mapper
  | element :: rest =>
    match StatementKind.ofName? element.tag.name with
    | some kind => do
      let mapper ← declareStatement location library mapper kind element
      declareEach location library mapper rest
    | none =>
      if element.tag.name = "resultMap" then do
        let mapper ← declareResultMap location mapper element
        declareEach location library mapper rest
      else if element.tag.name ∈ ignoredElements then declareEach location library mapper rest
      else .error ⟨location, .unknown element.tag⟩

/-- The mapper of a namespace that the root of a document declares. -/
def readMapper (location : Location) (namespaceName : String) (root : Element)
    (outside : FragmentSource) : Except PlacedFault Mapper := do
  let elements := root.elements
  let own ← declareFragments location [] (elements.filter fun element => element.tag.name == "sql")
  let library : Library := ⟨namespaceName, own, outside⟩
  let fragments ← expandFragments location library own
  match root.strayText? with
  | some text => .error ⟨location, .strayText text⟩
  | none => declareEach location library ⟨namespaceName, [], [], fragments⟩ elements

/-- The namespace of a document, without the blanks around it. -/
def namespaceOf? (tag : Tag) : Option String :=
  ((tag.attribute? "namespace").map Text.trimmed).filter fun name => name ≠ ""

/-- The mapper that the root of a document declares. -/
def readRoot (file : Option String) (root : Element) (outside : FragmentSource) :
    Except PlacedFault Mapper :=
  if root.tag.name ≠ "mapper" then .error ⟨⟨file, none, none⟩, .noMapper root.tag⟩
  else
    match namespaceOf? root.tag with
    | none => .error ⟨⟨file, none, none⟩, .noNamespace⟩
    | some namespaceName =>
      readMapper ⟨file, some namespaceName, none⟩ namespaceName root outside

/-- The mapper that a document declares; `file` is where the document comes from. -/
def readPlaced (source : String) (file : Option String) (outside : FragmentSource) :
    Except PlacedFault Mapper :=
  match Element.read source.toList with
  | .error fault => .error ⟨⟨file, none, none⟩, .markup fault⟩
  | .ok root => readRoot file root outside

/-- The mapper that a document declares, or the error that it is none. -/
def read (source : String) (file : Option String) (outside : FragmentSource) :
    Except Error Mapper :=
  (readPlaced source file outside).mapError PlacedFault.error

end DynamicSql.Document
