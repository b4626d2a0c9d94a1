/-
This file loads mapper documents into a registry: from texts, from files and from all the documents
in a directory. A document may include the fragments of the mappers that are registered when it is
loaded. A load that fails registers nothing; in a directory the documents before it remain.
-/

import DynamicSql.Document.Reader
import DynamicSql.FileTree
import DynamicSql.Registry.Basic

namespace DynamicSql.Registry

/-! ### Documents -/

/-- The registry with the mapper that a document declares, and that mapper; `file` is where the
document comes from. -/
def loadFrom (registry : Registry) (file : Option String) (source : String) :
    Except Error (Registry × Mapper) :=
  match Document.read source file registry.fragments with
  | .error error => .error error
  | .ok mapper => .ok (registry.register mapper, mapper)

/-- A load that succeeds registers the mapper that the document declares. -/
theorem loadFrom_eq_ok_iff {registry loaded : Registry} {file : Option String} {source : String}
    {mapper : Mapper} : registry.loadFrom file source = .ok (loaded, mapper) ↔
      Document.read source file registry.fragments = .ok mapper ∧
        loaded = registry.register mapper := by
  unfold loadFrom
  constructor
  · intro done
    split at done
    · cases done
    · next read =>
      obtain ⟨rfl, rfl⟩ := Prod.mk.inj (Except.ok.inj done)
      exact ⟨read, rfl⟩
  · rintro ⟨read, rfl⟩
    rw [read]

/-- `loadFrom` for a document held in memory. -/
def load (registry : Registry) (source : String) : Except Error (Registry × Mapper) :=
  registry.loadFrom none source

/-- The error of a file or directory that cannot be read in some attempt. -/
def pathError (attempt path : String) (fault : PathFault) : Error :=
  (Error.of (.foreign fault.message)).under (.note (attempt ++ " `" ++ path ++ "`"))

/-- `loadFrom` for a document in a file. -/
def loadFile (registry : Registry) (files : FileTree) (path : String) :
    Except Error (Registry × Mapper) :=
  match files.read path with
  | .error fault => .error (pathError "failed to read mapper" path fault)
  | .ok source => registry.loadFrom (some path) source

/-! ### Directories -/

/-- The registry after loading files one after the other, up to the first that fails. -/
def loadEach (registry : Registry) (files : FileTree) :
    List String → Registry × Except Error (List Mapper)
  | [] => (registry, .ok [])
  | path :: rest =>
    match registry.loadFile files path with
    | .error error => (registry, .error error)
    | .ok (loaded, mapper) =>
      let (last, mappers) := loadEach loaded files rest
      (last, mappers.map (mapper :: ·))

/-- The name of a file that has an extension: something before the last point and the extension
behind it. -/
def hasExtension (extension name : String) : Bool :=
  match Text.cutLast? '.' name.toList with
  | some (before, after) => !before.isEmpty && String.ofList after == extension
  | none => false

/-- The paths of the mapper documents directly inside a directory, sorted. -/
def documentPaths (files : FileTree) (path : String) : Except PathFault (List String) :=
  (files.fileNames path).map fun names =>
    ((names.filter (hasExtension "xml")).map (FileTree.join path)).mergeSort fun first second =>
      decide (first ≤ second)

/-- The registry after loading the mapper documents directly inside a directory. -/
def loadDirectory (registry : Registry) (files : FileTree) (path : String) :
    Registry × Except Error (List Mapper) :=
  match documentPaths files path with
  | .error fault => (registry, .error (pathError "failed to list mappers in" path fault))
  | .ok paths => registry.loadEach files paths

/-! ### Sources -/

/-- Where a registry takes mappers from when it is built. -/
inductive Source where
  | text (source : String)
  | file (path : String)
  | directory (path : String)
  deriving DecidableEq

/-- The registry with the mappers of a source. -/
def loadSource (registry : Registry) (files : FileTree) : Source → Except Error Registry
  | .text source => (registry.load source).map Prod.fst
  | .file path => (registry.loadFile files path).map Prod.fst
  | .directory path =>
    match registry.loadDirectory files path with
    | (loaded, .ok _) => .ok loaded
    | (_, .error error) => .error error

/-- The registry with the mappers of sources, one after the other. -/
def loadSources (registry : Registry) (files : FileTree) : List Source → Except Error Registry
  | [] => .ok registry
  | source :: rest =>
    match registry.loadSource files source with
    | .error error => .error error
    | .ok loaded => loadSources loaded files rest

end DynamicSql.Registry
