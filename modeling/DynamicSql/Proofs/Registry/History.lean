/-
This file says what a registry holds after any calls that load documents: from texts, from files,
from directories, or parsed beforehand. Whatever the calls are and however they end, the registry is
what registering the mappers of the documents that were loaded, in their order, makes of an empty
one. So for each namespace it has the mapper of the last document, in the place of the first one. A
document touches nothing of any other namespace.
-/

import DynamicSql.Execution
import DynamicSql.Proofs.Document.Declaration
import DynamicSql.Registry.Loading

namespace DynamicSql.Registry

/-! ### Registering mappers -/

/-- The registry with mappers registered one after the other. -/
def registerAll (registry : Registry) (mappers : List Mapper) : Registry :=
  mappers.foldl register registry

/-- Registering a mapper adds its namespace at the end unless it is there already. -/
theorem namespaces_register (registry : Registry) (mapper : Mapper) :
    (registry.register mapper).namespaces =
      if mapper.namespaceName ∈ registry.namespaces then registry.namespaces
      else registry.namespaces ++ [mapper.namespaceName] := by
  unfold namespaces register
  generalize registry.mappers = mappers
  induction mappers with
  | nil => rfl
  | cons other rest inductionHypothesis =>
    by_cases same : other.namespaceName = mapper.namespaceName
    · simp [put, same]
    · have different : ¬ mapper.namespaceName = other.namespaceName := fun equal => same equal.symm
      simp only [put, if_neg same, List.map_cons, List.mem_cons, different, false_or] at *
      rw [inductionHypothesis]
      split <;> rfl

/-- Mappers of other namespaces leave the one of a namespace as it is. -/
theorem mapper?_registerAll {registry : Registry} {mappers : List Mapper} {namespaceName : String}
    (others : ∀ mapper ∈ mappers, mapper.namespaceName ≠ namespaceName) :
    (registry.registerAll mappers).mapper? namespaceName = registry.mapper? namespaceName := by
  induction mappers generalizing registry with
  | nil => rfl
  | cons mapper rest inductionHypothesis =>
    obtain ⟨other, others⟩ := List.forall_mem_cons.1 others
    exact (inductionHypothesis others).trans (mapper?_register_other registry other)

@[simp]
theorem settings_registerAll (registry : Registry) (mappers : List Mapper) :
    (registry.registerAll mappers).settings = registry.settings := by
  induction mappers generalizing registry with
  | nil => rfl
  | cons mapper rest inductionHypothesis => exact inductionHypothesis (registry.register mapper)

/-- Of names of which one more is put at the end, that one is the first if it is new. -/
theorem eraseDups_append_singleton (names : List String) (name : String) :
    (names ++ [name]).eraseDups =
      if name ∈ names.eraseDups then names.eraseDups else names.eraseDups ++ [name] := by
  rw [List.eraseDups_append]
  by_cases known : name ∈ names
  · rw [if_pos (List.mem_eraseDups.2 known)]
    simp [List.removeAll, known]
  · rw [if_neg fun member => known (List.mem_eraseDups.1 member)]
    simp [List.removeAll, known, List.eraseDups_cons]

/-- A registry holds, for each namespace, the last mapper of a history that has it; the namespaces
are in the order in which the history first comes to them. -/
structure Holds (registry : Registry) (history : List Mapper) : Prop where
  namespaces : registry.namespaces = (history.map Mapper.namespaceName).eraseDups
  mapper? : ∀ namespaceName, registry.mapper? namespaceName =
    history.reverse.find? fun mapper => mapper.namespaceName == namespaceName

theorem holds_empty (settings : Settings) : Holds (empty settings) [] :=
  ⟨rfl, fun _ => rfl⟩

theorem Holds.register {registry : Registry} {history : List Mapper}
    (holds : Holds registry history) (mapper : Mapper) :
    Holds (registry.register mapper) (history ++ [mapper]) := by
  constructor
  · rw [namespaces_register, holds.namespaces, List.map_append]
    exact (eraseDups_append_singleton (history.map Mapper.namespaceName) mapper.namespaceName).symm
  · intro namespaceName
    rw [List.reverse_append, List.reverse_singleton, List.singleton_append, List.find?_cons]
    by_cases same : mapper.namespaceName = namespaceName
    · simp [← same]
    · simp [same, holds.mapper?, beq_false_of_ne same]

theorem Holds.registerAll {registry : Registry} {history : List Mapper}
    (holds : Holds registry history) (mappers : List Mapper) :
    Holds (registry.registerAll mappers) (history ++ mappers) := by
  induction mappers generalizing registry history with
  | nil =>
    rw [List.append_nil]
    exact holds
  | cons mapper rest inductionHypothesis =>
    rw [List.append_cons]
    exact inductionHypothesis (holds.register mapper)

/-! ### Loads -/

/-- A call that loads a document, or those of a directory. A document that is parsed beforehand may
include fragments from anywhere. -/
inductive Load where
  | text (source : String)
  | file (files : FileTree) (path : String)
  | directory (files : FileTree) (path : String)
  | parsed (source : String) (file : Option String) (outside : Document.FragmentSource)

/-- The mappers of the files that are loaded one after the other, up to the first that fails. -/
def loadedEach (registry : Registry) (files : FileTree) : List String → List Mapper
  | [] => []
  | path :: rest =>
    match registry.loadFile files path with
    | .error _ => []
    | .ok (loaded, mapper) => mapper :: loadedEach loaded files rest

/-- The registry after a load of one document, and what has been loaded. -/
def settle (registry : Registry) : Except Error (Registry × Mapper) → Registry × List Mapper
  | .error _ => (registry, [])
  | .ok (loaded, mapper) => (loaded, [mapper])

/-- The registry after a call, and the mappers of the documents that it has loaded. -/
def perform (registry : Registry) : Load → Registry × List Mapper
  | .text source => registry.settle (registry.load source)
  | .file files path => registry.settle (registry.loadFile files path)
  | .directory files path =>
    ((registry.loadDirectory files path).1,
      match documentPaths files path with
      | .error _ => []
      | .ok paths => registry.loadedEach files paths)
  | .parsed source file outside => registry.settle
    ((Document.read source file outside).map fun mapper => (registry.register mapper, mapper))

/-- The registry after calls, and the mappers of all documents that they have loaded. -/
def run (registry : Registry) : List Load → Registry × List Mapper
  | [] => (registry, [])
  | load :: rest =>
    let (next, loaded) := registry.perform load
    let (last, later) := run next rest
    (last, loaded ++ later)

/-- The mapper is that of a document. -/
def IsRead (mapper : Mapper) : Prop :=
  ∃ source file outside, Document.read source file outside = .ok mapper

/-- A registry has become another one by registering mappers of documents. -/
def Grows (registry : Registry) (outcome : Registry × List Mapper) : Prop :=
  outcome.1 = registry.registerAll outcome.2 ∧ ∀ mapper ∈ outcome.2, IsRead mapper

theorem grows_refl (registry : Registry) : registry.Grows (registry, []) :=
  ⟨rfl, fun _ member => absurd member List.not_mem_nil⟩

theorem Grows.append {registry next last : Registry} {loaded later : List Mapper}
    (first : registry.Grows (next, loaded)) (second : next.Grows (last, later)) :
    registry.Grows (last, loaded ++ later) := by
  refine ⟨?_, List.forall_mem_append.2 ⟨first.2, second.2⟩⟩
  have isNext : next = registry.registerAll loaded := first.1
  have isLast : last = next.registerAll later := second.1
  unfold registerAll at *
  rw [isLast, isNext, List.foldl_append]

theorem exists_of_loadFile {registry loaded : Registry} {files : FileTree} {path : String}
    {mapper : Mapper} (done : registry.loadFile files path = .ok (loaded, mapper)) :
    ∃ source, files.read path = .ok source ∧
      registry.loadFrom (some path) source = .ok (loaded, mapper) := by
  unfold loadFile at done
  split at done
  · cases done
  · next source isSource => exact ⟨source, isSource, done⟩

theorem grows_of_loadFrom {registry loaded : Registry} {file : Option String} {source : String}
    {mapper : Mapper} (done : registry.loadFrom file source = .ok (loaded, mapper)) :
    registry.Grows (loaded, [mapper]) := by
  obtain ⟨read, rfl⟩ := loadFrom_eq_ok_iff.1 done
  exact ⟨rfl, List.forall_mem_singleton.2 ⟨source, file, _, read⟩⟩

theorem grows_settle {registry : Registry} {outcome : Except Error (Registry × Mapper)}
    (grows : ∀ loaded mapper, outcome = .ok (loaded, mapper) → registry.Grows (loaded, [mapper])) :
    registry.Grows (registry.settle outcome) := by
  rcases outcome with error | ⟨loaded, mapper⟩
  · exact grows_refl registry
  · exact grows loaded mapper rfl

theorem grows_loadFile {registry loaded : Registry} {files : FileTree} {path : String}
    {mapper : Mapper} (done : registry.loadFile files path = .ok (loaded, mapper)) :
    registry.Grows (loaded, [mapper]) := by
  obtain ⟨source, -, done⟩ := exists_of_loadFile done
  exact grows_of_loadFrom done

theorem grows_loadEach (registry : Registry) (files : FileTree) (paths : List String) :
    registry.Grows ((registry.loadEach files paths).1, registry.loadedEach files paths) := by
  induction paths generalizing registry with
  | nil => exact grows_refl registry
  | cons path rest inductionHypothesis =>
    rw [loadEach, loadedEach]
    rcases done : registry.loadFile files path with error | ⟨loaded, mapper⟩
    · exact grows_refl registry
    · exact (grows_loadFile done).append (inductionHypothesis loaded)

/-- Every call registers the mappers of the documents that it has loaded, in their order. -/
theorem grows_perform (registry : Registry) (load : Load) :
    registry.Grows (registry.perform load) := by
  cases load with
  | text source => exact grows_settle fun _ _ => grows_of_loadFrom
  | file files path => exact grows_settle fun _ _ => grows_loadFile
  | directory files path =>
    rw [perform, loadDirectory]
    rcases documentPaths files path with fault | paths
    · exact grows_refl registry
    · exact grows_loadEach registry files paths
  | parsed source file outside =>
    refine grows_settle fun loaded mapper done => ?_
    obtain ⟨read, isRead, same⟩ := exists_of_map_eq_ok done
    obtain ⟨rfl, rfl⟩ := Prod.mk.inj same
    exact ⟨rfl, List.forall_mem_singleton.2 ⟨source, file, outside, isRead⟩⟩

theorem grows_run (registry : Registry) (loads : List Load) :
    registry.Grows (registry.run loads) := by
  induction loads generalizing registry with
  | nil => exact grows_refl registry
  | cons load rest inductionHypothesis =>
    exact (grows_perform registry load).append (inductionHypothesis (registry.perform load).1)

/-! ### Directories -/

/-- Files are loaded one after the other, and none of them fails. -/
inductive LoadsInTurn (files : FileTree) : Registry → List String → Registry → List Mapper → Prop
  | nil (registry : Registry) : LoadsInTurn files registry [] registry []
  | cons {registry next last : Registry} {path : String} {mapper : Mapper} {rest : List String}
      {mappers : List Mapper} (first : registry.loadFile files path = .ok (next, mapper))
      (later : LoadsInTurn files next rest last mappers) :
      LoadsInTurn files registry (path :: rest) last (mapper :: mappers)

/-- How the loading of files ends: all are loaded, or the next one fails with the error. -/
def EndsAt (files : FileTree) (registry : Registry) (mappers : List Mapper)
    (outcome : Except Error (List Mapper)) : List String → Prop
  | [] => outcome = .ok mappers
  | failing :: _ => ∃ error, registry.loadFile files failing = .error error ∧ outcome = .error error

/-- Loading files is loading them in turn up to the first that fails. -/
theorem exists_loadsInTurn (registry : Registry) (files : FileTree) (paths : List String) :
    ∃ before after, paths = before ++ after ∧
      LoadsInTurn files registry before (registry.loadEach files paths).1
        (registry.loadedEach files paths) ∧
      EndsAt files (registry.loadEach files paths).1 (registry.loadedEach files paths)
        (registry.loadEach files paths).2 after := by
  induction paths generalizing registry with
  | nil => exact ⟨[], [], rfl, .nil registry, rfl⟩
  | cons path rest inductionHypothesis =>
    rw [loadEach, loadedEach]
    rcases first : registry.loadFile files path with error | ⟨next, mapper⟩
    · exact ⟨[], path :: rest, rfl, .nil registry, error, first, rfl⟩
    · obtain ⟨before, after, rfl, later, ends⟩ := inductionHypothesis next
      refine ⟨path :: before, after, rfl, .cons first later, ?_⟩
      rcases after with _ | ⟨failing, others⟩
      · have allLoaded : (next.loadEach files (before ++ [])).2 =
          .ok (next.loadedEach files (before ++ [])) := ends
        show Except.map _ _ = _
        rw [allLoaded]
        rfl
      · obtain ⟨error, fails, isError⟩ := ends
        refine ⟨error, fails, ?_⟩
        show Except.map _ _ = _
        rw [isError]
        rfl

/-- The documents of a directory are its files with the extension, sorted. -/
theorem documentPaths_eq_ok {files : FileTree} {path : String} {names : List String}
    (listed : files.fileNames path = .ok names) :
    ∃ paths, documentPaths files path = .ok paths ∧ paths.Pairwise (· ≤ ·) ∧
      paths.Perm ((names.filter (hasExtension "xml")).map (FileTree.join path)) := by
  unfold documentPaths
  rw [listed]
  refine ⟨_, rfl, ?_, List.mergeSort_perm _ _⟩
  have sorted := @List.pairwise_mergeSort String (fun first second => decide (first ≤ second))
    (fun first second third before behind => by
      rw [decide_eq_true_eq] at *
      exact String.le_trans before behind)
    (fun first second => by
      rw [Bool.or_eq_true, decide_eq_true_eq, decide_eq_true_eq]
      exact String.le_total first second)
    ((names.filter (hasExtension "xml")).map (FileTree.join path))
  exact sorted.imp fun before => of_decide_eq_true before

/-! ### Other namespaces -/

/-- Nothing has changed about a namespace: not its mapper, what is found by the identifiers of its
statements, result maps and fragments, nor what its statements are executed to. -/
structure Unchanged (namespaceName : String) (registry later : Registry) : Prop where
  mapper? : later.mapper? namespaceName = registry.mapper? namespaceName
  found : ∀ id localId, Identifier.split? id = some (namespaceName, localId) →
    later.statement? id = registry.statement? id ∧
      later.declaredMap? id = registry.declaredMap? id ∧
      later.fragment? id = registry.fragment? id
  executed : ∀ id localId, Identifier.split? id = some (namespaceName, localId) →
    ∀ parameter, later.execute id parameter = registry.execute id parameter ∧
      ∀ kind, later.executeKind kind id parameter = registry.executeKind kind id parameter

theorem unchanged_registerAll (registry : Registry) {mappers : List Mapper}
    {namespaceName : String} (others : ∀ mapper ∈ mappers, mapper.namespaceName ≠ namespaceName) :
    Unchanged namespaceName registry (registry.registerAll mappers) := by
  have sameMapper : (registry.registerAll mappers).mapper? namespaceName =
      registry.mapper? namespaceName := mapper?_registerAll others
  have found : ∀ {Item : Type} (pick : Mapper → String → Option Item) (id localId : String),
      Identifier.split? id = some (namespaceName, localId) →
      (registry.registerAll mappers).find? pick id = registry.find? pick id := by
    intro Item pick id localId split
    rw [find?_of_split? _ _ split, find?_of_split? _ _ split, sameMapper]
  refine ⟨sameMapper, fun id localId split => ⟨?_, ?_, ?_⟩, fun id localId split parameter => ?_⟩
  · exact found _ id localId split
  · exact found _ id localId split
  · exact found _ id localId split
  · have sameStatement : (registry.registerAll mappers).statement id = registry.statement id := by
      unfold statement statement?
      rw [found _ id localId split]
    have sameBind : (registry.registerAll mappers).bind = registry.bind := by
      funext statement value
      unfold bind
      rw [settings_registerAll]
    refine ⟨?_, fun kind => ?_⟩
    · unfold execute
      rw [sameStatement, sameBind]
    · unfold executeKind
      rw [sameStatement, sameBind]

/-! ### Any calls -/

/-- All mappers of a registry carry the namespaces that they are found by, and all that they hold
carries it as well, and the identifier that it is found by. -/
structure IsLabelled (registry : Registry) : Prop where
  mappers : ∀ namespaceName mapper, registry.mapper? namespaceName = some mapper →
    mapper.namespaceName = namespaceName ∧ mapper.IsLabelled
  statements : ∀ id statement, registry.statement? id = some statement →
    statement.qualifiedId = id
  resultMaps : ∀ id map, registry.declaredMap? id = some map → map.qualifiedId = id

theorem isLabelled_of_mappers {registry : Registry}
    (labelled : ∀ mapper ∈ registry.mappers, mapper.IsLabelled) : registry.IsLabelled := by
  refine ⟨fun namespaceName mapper found => ?_, fun id statement found => ?_,
    fun id map found => ?_⟩
  · exact ⟨namespaceName_of_mapper? found, labelled mapper (mem_of_mapper? found)⟩
  · obtain ⟨mapper, member, localId, picked, rfl⟩ := exists_of_find? found
    obtain ⟨inside, rfl⟩ := Mapper.id_of_statement? picked
    unfold Statement.qualifiedId
    rw [((labelled mapper member).statements statement inside).1]
  · obtain ⟨mapper, member, localId, picked, rfl⟩ := exists_of_find? found
    obtain ⟨inside, rfl⟩ := Mapper.id_of_resultMap? picked
    unfold ResultMap.qualifiedId
    rw [((labelled mapper member).resultMaps map inside).1]

theorem mem_put {mapper other : Mapper} {mappers : List Mapper}
    (member : other ∈ put mapper mappers) : other = mapper ∨ other ∈ mappers := by
  induction mappers with
  | nil => exact .inl (List.mem_singleton.1 member)
  | cons first rest inductionHypothesis =>
    unfold put at member
    split at member
    · exact (List.mem_cons.1 member).imp_right (List.mem_cons_of_mem first)
    · rcases List.mem_cons.1 member with rfl | later
      · exact .inr List.mem_cons_self
      · exact (inductionHypothesis later).imp_right (List.mem_cons_of_mem first)

theorem mem_registerAll {registry : Registry} {mappers : List Mapper} {mapper : Mapper}
    (member : mapper ∈ (registry.registerAll mappers).mappers) :
    mapper ∈ registry.mappers ∨ mapper ∈ mappers := by
  induction mappers generalizing registry with
  | nil => exact .inl member
  | cons first rest inductionHypothesis =>
    rcases inductionHypothesis member with before | later
    · rcases mem_put before with rfl | old
      · exact .inr List.mem_cons_self
      · exact .inl old
    · exact .inr (List.mem_cons_of_mem first later)

/-- All that calls can put into an empty registry are the mappers of documents. -/
theorem isRead_of_mem_run {settings : Settings} {loads : List Load} {mapper : Mapper}
    (member : mapper ∈ ((empty settings).run loads).1.mappers) : IsRead mapper := by
  obtain ⟨isRegistry, areRead⟩ := grows_run (empty settings) loads
  rw [isRegistry] at member
  rcases mem_registerAll member with before | loaded
  · exact absurd before List.not_mem_nil
  · exact areRead mapper loaded

theorem isLabelled_run (settings : Settings) (loads : List Load) :
    ((empty settings).run loads).1.IsLabelled := by
  refine isLabelled_of_mappers fun mapper member => ?_
  obtain ⟨source, file, outside, read⟩ := isRead_of_mem_run member
  exact Document.isLabelled_of_read read

/-- A registry is a store in which the last document of a namespace wins. After any calls, from an
empty registry on, it holds for each namespace the mapper of the last document that was loaded, with
the namespaces in the order of their first documents, and all that it holds is labelled. A document
that is not loaded changes nothing. A directory is loaded by loading its documents in the order of
their paths, up to the first that fails. And whatever a call loads, all that belongs to another
namespace stays as it is. -/
theorem run_lastWins (settings : Settings) (loads : List Load) :
    Holds ((empty settings).run loads).1 ((empty settings).run loads).2 ∧
    ((empty settings).run loads).1.IsLabelled ∧
    (∀ mapper ∈ ((empty settings).run loads).2, IsRead mapper) ∧
    ∀ registry : Registry,
      (∀ source error, registry.load source = .error error →
        registry.perform (.text source) = (registry, [])) ∧
      (∀ files path error, registry.loadFile files path = .error error →
        registry.perform (.file files path) = (registry, [])) ∧
      (∀ files path fault, files.fileNames path = .error fault →
        registry.perform (.directory files path) = (registry, [])) ∧
      (∀ files path names, files.fileNames path = .ok names → ∃ before after,
        (before ++ after).Pairwise (· ≤ ·) ∧
        (before ++ after).Perm ((names.filter (hasExtension "xml")).map (FileTree.join path)) ∧
        LoadsInTurn files registry before (registry.perform (.directory files path)).1
          (registry.perform (.directory files path)).2 ∧
        EndsAt files (registry.perform (.directory files path)).1
          (registry.perform (.directory files path)).2
          (registry.loadDirectory files path).2 after) ∧
      ∀ load namespaceName,
        (∀ mapper ∈ (registry.perform load).2, mapper.namespaceName ≠ namespaceName) →
        Unchanged namespaceName registry (registry.perform load).1 := by
  obtain ⟨isRegistry, areRead⟩ := grows_run (empty settings) loads
  refine ⟨?_, isLabelled_run settings loads, areRead, fun registry => ⟨?_, ?_, ?_, ?_, ?_⟩⟩
  · rw [isRegistry]
    exact (holds_empty settings).registerAll _
  · intro source error fails
    rw [perform, fails, settle]
  · intro files path error fails
    rw [perform, fails, settle]
  · intro files path fault fails
    rw [perform, loadDirectory, documentPaths, fails]
    rfl
  · intro files path names listed
    obtain ⟨paths, isPaths, sorted, perm⟩ := documentPaths_eq_ok listed
    obtain ⟨before, after, rfl, inTurn, ends⟩ := exists_loadsInTurn registry files paths
    refine ⟨before, after, sorted, perm, ?_⟩
    rw [perform, loadDirectory, isPaths]
    exact ⟨inTurn, ends⟩
  · intro load namespaceName others
    rw [(grows_perform registry load).1]
    exact unchanged_registerAll registry others

end DynamicSql.Registry
