/-
This file says when a document can be loaded again right after it has been loaded. Whatever a second
load gives is what the first one gave, and the registry stays as it is. But a second load does not
always succeed: the fragments of the version that the document replaces, which it may include
although it does not declare them, are gone by then. It succeeds exactly if the document can be
loaded without the earlier version.
-/

import DynamicSql.Proofs.Document.Declaration
import DynamicSql.Registry.Loading

namespace DynamicSql.Registry

open Document (FragmentSource Library)
open Markup (Content)

/-! ### Registering twice -/

@[simp]
theorem put_put (mapper : Mapper) (mappers : List Mapper) :
    put mapper (put mapper mappers) = put mapper mappers := by
  induction mappers with
  | nil => rw [put, put, if_pos rfl]
  | cons other rest inductionHypothesis =>
    by_cases same : other.namespaceName = mapper.namespaceName
    · rw [put, if_pos same, put, if_pos rfl]
    · rw [put, if_neg same, put, if_neg same, inductionHypothesis]

@[simp]
theorem register_register (registry : Registry) (mapper : Mapper) :
    (registry.register mapper).register mapper = registry.register mapper := by
  unfold register
  rw [put_put]

/-! ### Without a namespace -/

/-- The registry without the mapper of a namespace. -/
def without (registry : Registry) (namespaceName : String) : Registry :=
  { registry with
    mappers := registry.mappers.filter fun mapper => mapper.namespaceName != namespaceName }

@[simp]
theorem mapper?_without_self (registry : Registry) (namespaceName : String) :
    (registry.without namespaceName).mapper? namespaceName = none := by
  unfold mapper? without
  refine List.find?_eq_none.2 fun mapper member => ?_
  have different := (List.mem_filter.1 member).2
  simpa using different

@[simp]
theorem mapper?_without_other (registry : Registry) {namespaceName other : String}
    (different : other ≠ namespaceName) :
    (registry.without namespaceName).mapper? other = registry.mapper? other := by
  unfold mapper? without
  rw [List.find?_filter]
  refine congrFun (congrArg List.find? (funext fun mapper => ?_)) registry.mappers
  by_cases wanted : mapper.namespaceName = other
  · simp [wanted, different]
  · simp [wanted]

/-! ### What documents find -/

variable {registry : Registry} {mapper : Mapper}

/-- What one registry finds of the fragments that a document does not declare itself, the other one
finds as well. -/
theorem findsWithin_of_fragment? {first second : Registry} {namespaceName : String}
    {own : Fields (List Content)}
    (found : ∀ id fragment, Library.own? ⟨namespaceName, own, first.fragments⟩ id = none →
      first.fragment? id = some fragment → second.fragment? id = some fragment) :
    Library.FindsWithin ⟨namespaceName, own, first.fragments⟩
      ⟨namespaceName, own, second.fragments⟩ := by
  refine ⟨rfl, fun id body isBody => ?_⟩
  have sameOwn : Library.own? ⟨namespaceName, own, second.fragments⟩ id =
      Library.own? ⟨namespaceName, own, first.fragments⟩ id := rfl
  unfold Library.find? at isBody ⊢
  rw [sameOwn]
  split at isBody
  · exact isBody
  · next notOwn =>
    obtain ⟨markup, isMarkup, isRead⟩ := Option.map_eq_some_iff.1 isBody
    obtain ⟨fragment, isFragment, rfl⟩ := Option.map_eq_some_iff.1 isMarkup
    refine Option.map_eq_some_iff.2 ⟨fragment.body, ?_, isRead⟩
    exact Option.map_eq_some_iff.2 ⟨fragment, found id fragment notOwn isFragment, rfl⟩

/-- Without a namespace, no more fragments are found. -/
theorem fragment?_of_without {namespaceName id : String} {fragment : Fragment}
    (found : (registry.without namespaceName).fragment? id = some fragment) :
    registry.fragment? id = some fragment := by
  rw [← found]
  refine find?_congr fun other localId split => ?_
  by_cases same : other = namespaceName
  · unfold fragment? at found
    simp [find?_of_split? _ _ split, same] at found
  · exact (mapper?_without_other registry same).symm

/-- A fragment of its own namespace that a document does not declare is not one of its mapper. -/
theorem fragment?_eq_none_of_own? {own : Fields (List Content)} {outside : FragmentSource}
    {id localId : String} (declared : Fields.names own = mapper.fragments.map Fragment.id)
    (split : Identifier.split? id = some (mapper.namespaceName, localId))
    (notOwn : Library.own? ⟨mapper.namespaceName, own, outside⟩ id = none) :
    mapper.fragment? localId = none := by
  have absent : Fields.get? localId own = none := by
    unfold Library.own? at notOwn
    rw [split] at notOwn
    exact (if_pos rfl).symm.trans notOwn
  refine List.find?_eq_none.2 fun fragment member named => ?_
  have isName : localId ∈ Fields.names own := by
    rw [declared, ← beq_iff_eq.1 named]
    exact List.mem_map_of_mem member
  obtain ⟨entry, isEntry⟩ := Fields.exists_get?_of_mem_names isName
  rw [absent] at isEntry
  cases isEntry

/-! ### Loading again -/

/-- A fragment that a document does not declare is found behind its mapper as it is found without
its namespace. -/
theorem fragment?_register {own : Fields (List Content)} {outside : FragmentSource} {id : String}
    (declared : Fields.names own = mapper.fragments.map Fragment.id)
    (notOwn : Library.own? ⟨mapper.namespaceName, own, outside⟩ id = none) :
    (registry.register mapper).fragment? id =
      (registry.without mapper.namespaceName).fragment? id := by
  rcases split : Identifier.split? id with _ | ⟨namespaceName, localId⟩
  · exact find?_congr fun _ _ some => by
      rw [split] at some
      cases some
  · unfold fragment?
    rw [find?_of_split? _ _ split, find?_of_split? _ _ split]
    by_cases same : namespaceName = mapper.namespaceName
    · subst same
      have absent := fragment?_eq_none_of_own? declared split notOwn
      simp [absent]
    · simp [same, Ne.symm same]

theorem read_without_of_register {source : String} {file : Option String} {other : Mapper}
    (sameNamespace : other.namespaceName = mapper.namespaceName)
    (sameFragments : other.fragments.map Fragment.id = mapper.fragments.map Fragment.id)
    (done : Document.read source file (registry.register mapper).fragments = .ok other) :
    Document.read source file (registry.without mapper.namespaceName).fragments = .ok other := by
  refine Document.read_mono done fun own declared => findsWithin_of_fragment? ?_
  intro id fragment notOwn found
  rw [sameNamespace] at notOwn
  rw [← fragment?_register (declared.trans sameFragments) notOwn]
  exact found

theorem read_register_of_without {source : String} {file : Option String}
    (done : Document.read source file (registry.without mapper.namespaceName).fragments =
      .ok mapper) :
    Document.read source file (registry.register mapper).fragments = .ok mapper := by
  refine Document.read_mono done fun own declared => findsWithin_of_fragment? ?_
  intro id fragment notOwn found
  rw [fragment?_register declared notOwn]
  exact found

theorem read_of_without {source namespaceName : String} {file : Option String}
    (done : Document.read source file (registry.without namespaceName).fragments = .ok mapper) :
    Document.read source file registry.fragments = .ok mapper :=
  Document.read_mono done fun _ _ => findsWithin_of_fragment? fun _ _ _ => fragment?_of_without

/-- All fragments of the earlier mapper of a namespace are fragments of another mapper as well. -/
def Redeclares (registry : Registry) (mapper : Mapper) : Prop :=
  ∀ earlier, registry.mapper? mapper.namespaceName = some earlier →
    ∀ fragment ∈ earlier.fragments, (mapper.fragment? fragment.id).isSome

/-- What a document does not declare itself, the earlier mapper of its namespace cannot give to it
if the new one redeclares all that it has. -/
theorem read_register_of_redeclares {source : String} {file : Option String}
    (redeclares : registry.Redeclares mapper)
    (done : Document.read source file registry.fragments = .ok mapper) :
    Document.read source file (registry.register mapper).fragments = .ok mapper := by
  refine Document.read_mono done fun own declared => findsWithin_of_fragment? ?_
  intro id fragment notOwn found
  rw [← found]
  refine find?_congr fun namespaceName localId split => ?_
  by_cases same : namespaceName = mapper.namespaceName
  · subst same
    have absent := fragment?_eq_none_of_own? declared split notOwn
    unfold fragment? at found
    rw [find?_of_split? _ _ split] at found
    obtain ⟨earlier, isEarlier, picked⟩ := Option.bind_eq_some_iff.1 found
    have redeclared := redeclares earlier isEarlier fragment (List.mem_of_find?_eq_some picked)
    have named : fragment.id = localId := by simpa using List.find?_some picked
    rw [named, absent] at redeclared
    cases redeclared
  · exact mapper?_register_other registry (Ne.symm same)

/-- A document that has been loaded is loaded again to the same mapper and the same registry, if it
is loaded at all. It is exactly if it can be loaded without the version that it has replaced; in
particular if it redeclares the fragments of that version. -/
theorem reload_eq_ok_iff (registry : Registry) (source : String) (loaded : Registry)
    (mapper : Mapper) (done : registry.load source = .ok (loaded, mapper)) :
    (∀ outcome, loaded.load source = .ok outcome → outcome = (loaded, mapper)) ∧
    (loaded.load source = .ok (loaded, mapper) ↔
      ∃ outcome, (registry.without mapper.namespaceName).load source = .ok outcome) ∧
    (registry.Redeclares mapper → loaded.load source = .ok (loaded, mapper)) := by
  obtain ⟨read, rfl⟩ := loadFrom_eq_ok_iff.1 done
  have again : ∀ other, Document.read source none (registry.register mapper).fragments = .ok other →
      Document.read source none (registry.without mapper.namespaceName).fragments = .ok other ∧
        other = mapper := by
    intro other isOther
    obtain ⟨sameNamespace, sameFragments⟩ := Document.labels_of_read read isOther
    have alone := read_without_of_register sameNamespace sameFragments isOther
    exact ⟨alone, Except.ok.inj ((read_of_without alone).symm.trans read)⟩
  have loads : Document.read source none (registry.register mapper).fragments = .ok mapper →
      (registry.register mapper).load source = .ok (registry.register mapper, mapper) :=
    fun isMapper => loadFrom_eq_ok_iff.2 ⟨isMapper, (register_register registry mapper).symm⟩
  refine ⟨?_, ⟨?_, ?_⟩, fun redeclares => loads (read_register_of_redeclares redeclares read)⟩
  · rintro ⟨later, other⟩ isOutcome
    obtain ⟨isOther, rfl⟩ := loadFrom_eq_ok_iff.1 isOutcome
    obtain ⟨-, rfl⟩ := again other isOther
    rw [register_register]
  · intro isOutcome
    obtain ⟨alone, -⟩ := again mapper (loadFrom_eq_ok_iff.1 isOutcome).1
    exact ⟨_, loadFrom_eq_ok_iff.2 ⟨alone, rfl⟩⟩
  · rintro ⟨⟨later, other⟩, isOutcome⟩
    have alone := (loadFrom_eq_ok_iff.1 isOutcome).1
    obtain rfl := Except.ok.inj ((read_of_without alone).symm.trans read)
    exact loads (read_register_of_without alone)

/-- A document with a fragment and a statement that includes it. -/
def wholeDocument : String :=
  "<mapper namespace='space'><sql id='columns'>a</sql>" ++
    "<select id='all'><include refid='columns'/></select></mapper>"

theorem reload_eq_ok_iff_whole : ∃ loaded mapper,
    (Registry.empty .standard).load wholeDocument = .ok (loaded, mapper) ∧
      (Registry.empty .standard).Redeclares mapper ∧
      loaded.load wholeDocument = .ok (loaded, mapper) ∧
      ∃ outcome, ((Registry.empty .standard).without mapper.namespaceName).load wholeDocument =
        .ok outcome := by
  have accepted : ((Registry.empty .standard).load wholeDocument).isOk = true := by decide +kernel
  obtain ⟨⟨loaded, mapper⟩, done⟩ := isOk_iff_exists.1 accepted
  obtain ⟨-, isIff, whenRedeclared⟩ := reload_eq_ok_iff _ _ _ _ done
  -- There is no earlier mapper with fragments to redeclare.
  have redeclares : (Registry.empty .standard).Redeclares mapper := by
    intro earlier isEarlier
    cases isEarlier
  have again := whenRedeclared redeclares
  exact ⟨loaded, mapper, done, redeclares, again, isIff.1 again⟩

/-- A document with nothing but a fragment. -/
def firstVersion : String :=
  "<mapper namespace='space'><sql id='columns'>a</sql></mapper>"

/-- A document that replaces the first one and includes the fragment that only that one had. -/
def secondVersion : String :=
  "<mapper namespace='space'><select id='all'><include refid='columns'/></select></mapper>"

/-- A document can be loaded and then not be loaded again right away. -/
theorem reload_ne_ok : ¬ ∀ (first source : String) (registry loaded : Registry)
    (earlier mapper : Mapper), (Registry.empty .standard).load first = .ok (registry, earlier) →
      registry.load source = .ok (loaded, mapper) →
      loaded.load source = .ok (loaded, mapper) := by
  intro idempotent
  have once : ((Registry.empty .standard).load firstVersion >>= fun first =>
      first.1.load secondVersion).isOk = true := by
    decide +kernel
  have twice : ((Registry.empty .standard).load firstVersion >>= fun first =>
      first.1.load secondVersion >>= fun second => second.1.load secondVersion).isOk = false := by
    decide +kernel
  obtain ⟨⟨loaded, mapper⟩, done⟩ := isOk_iff_exists.1 once
  obtain ⟨⟨registry, earlier⟩, first, second⟩ := exists_of_bind_eq_ok done
  have again := idempotent firstVersion secondVersion registry loaded earlier mapper first second
  rw [bind_of_eq_ok first, bind_of_eq_ok second, again] at twice
  cases twice

end DynamicSql.Registry
