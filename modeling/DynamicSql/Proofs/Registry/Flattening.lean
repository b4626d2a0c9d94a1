/-
This file says what resolving a result map gives. Extending passes one result map after the other;
it ends at one that extends no other, at an identifier that none has, or where a result map comes
up again. Only the first gives a result map, which has the rules of all that were passed. The line
of result maps is the same from an identifier on, so it tells by itself which of the three happens.
-/

import DynamicSql.Proofs.Mapper.Layers
import DynamicSql.Proofs.Registry.History
import DynamicSql.Registry.Inheritance
import Mathlib.Data.List.Nodup

namespace DynamicSql.Registry

variable {registry : Registry}

/-! ### Following what result maps extend -/

/-- Result maps that are passed one after the other: each is found by an identifier, the first of
them by `start`, and extends the one that the next is found by; the last one extends `next`. -/
def Ascends (registry : Registry) : Option String → List ResultMap → Option String → Prop
  | start, [], next => start = next
  | start, map :: older, next =>
    ∃ id, start = some id ∧ registry.declaredMap? id = some map ∧
      registry.Ascends map.extended older next

theorem ascends_append {start next : Option String} {maps others : List ResultMap} :
    registry.Ascends start (maps ++ others) next ↔
      ∃ between, registry.Ascends start maps between ∧ registry.Ascends between others next := by
  induction maps generalizing start with
  | nil => exact ⟨fun ascends => ⟨start, rfl, ascends⟩, fun ⟨_, same, ascends⟩ => same ▸ ascends⟩
  | cons map older inductionHypothesis =>
    constructor
    · rintro ⟨id, isStart, found, ascends⟩
      obtain ⟨between, before, behind⟩ := inductionHypothesis.1 ascends
      exact ⟨between, ⟨id, isStart, found, before⟩, behind⟩
    · rintro ⟨between, ⟨id, isStart, found, before⟩, behind⟩
      exact ⟨id, isStart, found, inductionHypothesis.2 ⟨between, before, behind⟩⟩

/-- The result map of an identifier with the rules of those it extends, reached by extending along
`chain`. -/
def inheritBy (registry : Registry) (chain : List String) (id : String) : Except Error ResultMap :=
  match registry.declaredMap? id with
  | none => .error (.of (.resultMapNotFound id))
  | some map => registry.inheritFrom chain map

theorem inheritBy_nil (registry : Registry) (id : String) :
    registry.inheritBy [] id = registry.resultMap id :=
  rfl

theorem inheritBy_of_unknown {id : String} (unknown : registry.declaredMap? id = none)
    (chain : List String) : registry.inheritBy chain id = .error (.of (.resultMapNotFound id)) := by
  unfold inheritBy
  rw [unknown]

theorem inheritBy_of_declared {id : String} {map : ResultMap}
    (found : registry.declaredMap? id = some map) (chain : List String) :
    registry.inheritBy chain id = registry.inheritFrom chain map := by
  unfold inheritBy
  rw [found]

theorem inheritFrom_of_extended {chain : List String} {map : ResultMap} {parentId : String}
    (isParentId : map.extended = some parentId) (fresh : map.qualifiedId ∉ chain) :
    registry.inheritFrom chain map =
      (registry.inheritBy (chain ++ [map.qualifiedId]) parentId).map map.inherit := by
  rw [inheritFrom]
  split
  · next ends =>
    rw [isParentId] at ends
    cases ends
  · next otherId isOtherId =>
    obtain rfl := Option.some.inj (isParentId.symm.trans isOtherId)
    rw [dif_neg fresh]
    split
    · next unknown =>
      rw [inheritBy_of_unknown unknown]
      rfl
    · next parent found =>
      rw [inheritBy_of_declared found]
      simp only
      cases registry.inheritFrom (chain ++ [map.qualifiedId]) parent <;> rfl

theorem inheritFrom_of_ends {map : ResultMap} (ends : map.extended = none) (chain : List String) :
    registry.inheritFrom chain map = .ok map := by
  rw [inheritFrom]
  split
  · rfl
  · next parentId isParentId =>
    rw [ends] at isParentId
    cases isParentId

theorem inheritFrom_of_visited {chain : List String} {map : ResultMap}
    (goesOn : map.extended.isSome = true) (visited : map.qualifiedId ∈ chain) :
    registry.inheritFrom chain map = .error (.note ("result map inheritance cycle: " ++
      Chain.cycleText chain map.qualifiedId)) := by
  rw [inheritFrom]
  split
  · next ends =>
    rw [ends] at goesOn
    cases goesOn
  · rw [dif_pos visited]

theorem nodup_append_singleton_iff {Item : Type} {items : List Item} {item : Item} :
    (items ++ [item]).Nodup ↔ item ∉ items ∧ items.Nodup := by
  rw [← List.concat_eq_append]
  exact List.nodup_concat items item

theorem exists_of_ascends {start : Option String} {maps : List ResultMap} {next : String}
    (ascends : registry.Ascends start maps (some next)) : ∃ id, start = some id := by
  cases maps with
  | nil => exact ⟨next, ascends⟩
  | cons map older =>
    obtain ⟨id, isStart, -⟩ := ascends
    exact ⟨id, isStart⟩

/-- Result maps that are passed and have identifiers of their own are merged with what comes
next. -/
theorem inheritBy_of_ascends {chain : List String} {maps : List ResultMap} {id next : String}
    (ascends : registry.Ascends (some id) maps (some next))
    (fresh : (chain ++ maps.map ResultMap.qualifiedId).Nodup) :
    registry.inheritBy chain id =
      (registry.inheritBy (chain ++ maps.map ResultMap.qualifiedId) next).map fun last =>
        maps.foldr ResultMap.inherit last := by
  induction maps generalizing chain id with
  | nil =>
    obtain rfl := Option.some.inj ascends
    rw [List.map_nil, List.append_nil]
    cases registry.inheritBy chain id <;> rfl
  | cons map older inductionHypothesis =>
    obtain ⟨_, isId, found, ascends⟩ := ascends
    obtain rfl := Option.some.inj isId
    obtain ⟨parentId, isParentId⟩ := exists_of_ascends ascends
    rw [List.map_cons, List.append_cons] at fresh ⊢
    have notYet := (nodup_append_singleton_iff.1 (List.nodup_append.1 fresh).1).1
    rw [isParentId] at ascends
    rw [inheritBy_of_declared found, inheritFrom_of_extended isParentId notYet,
      inductionHypothesis ascends fresh]
    cases registry.inheritBy _ next <;> rfl

/-- Extending cannot go on at an identifier, or need not: no result map has it, or one that extends
no other, or one whose identifier is on the chain. -/
def Stops (registry : Registry) (chain : List String) (id : String) : Prop :=
  ∀ map, registry.declaredMap? id = some map →
    map.extended = none ∨ map.qualifiedId ∈ chain

/-- Extending comes to a stop, since there are only so many result maps. -/
theorem exists_ascends_stops (registry : Registry) {chain : List String} (fresh : chain.Nodup)
    (id : String) :
    ∃ maps next, registry.Ascends (some id) maps (some next) ∧
      (chain ++ maps.map ResultMap.qualifiedId).Nodup ∧
      registry.Stops (chain ++ maps.map ResultMap.qualifiedId) next := by
  induction left : (Chain.outside chain registry.resultMapIds).length using Nat.strongRecOn
    generalizing chain id with
  | _ left inductionHypothesis =>
    by_cases stops : registry.Stops chain id
    · refine ⟨[], id, rfl, ?_, ?_⟩
      · rwa [List.map_nil, List.append_nil]
      · rwa [List.map_nil, List.append_nil]
    · simp only [Stops, not_forall, not_or] at stops
      obtain ⟨map, found, goesOn, notYet⟩ := stops
      obtain ⟨parentId, isParentId⟩ := Option.ne_none_iff_exists'.1 goesOn
      have fewer := Chain.length_outside_lt (mem_resultMapIds_of_declaredMap? found) notYet
      rw [left] at fewer
      obtain ⟨maps, next, ascends, freshRest, stopsRest⟩ :=
        inductionHypothesis _ fewer (nodup_append_singleton_iff.2 ⟨notYet, fresh⟩) parentId rfl
      refine ⟨map :: maps, next, ⟨id, rfl, found, isParentId ▸ ascends⟩, ?_, ?_⟩
      · rwa [List.map_cons, List.append_cons]
      · rwa [List.map_cons, List.append_cons]

/-! ### Outcomes -/

/-- How resolving the result map of an identifier ends. -/
inductive FlattensTo (registry : Registry) (id : String) : Except Error ResultMap → Prop
  /-- Extending comes to an identifier that no result map has. -/
  | unknown {maps : List ResultMap} {next : String}
      (ascends : registry.Ascends (some id) maps (some next))
      (fresh : (maps.map ResultMap.qualifiedId).Nodup)
      (unknown : registry.declaredMap? next = none) :
      FlattensTo registry id (.error (.of (.resultMapNotFound next)))
  /-- Extending comes to a result map of an identifier that has come up, and would go on. -/
  | circular {maps : List ResultMap} {next : String} {again : ResultMap}
      (ascends : registry.Ascends (some id) maps (some next))
      (fresh : (maps.map ResultMap.qualifiedId).Nodup)
      (found : registry.declaredMap? next = some again)
      (goesOn : again.extended.isSome = true)
      (visited : again.qualifiedId ∈ maps.map ResultMap.qualifiedId) :
      FlattensTo registry id (.error (.note ("result map inheritance cycle: " ++
        Chain.cycleText (maps.map ResultMap.qualifiedId) again.qualifiedId)))
  /-- Extending comes to a result map that extends no other one. -/
  | ends {map : ResultMap} {older : List ResultMap}
      (ascends : registry.Ascends (some id) (map :: older) none)
      (fresh : ((map :: older).dropLast.map ResultMap.qualifiedId).Nodup) :
      FlattensTo registry id (.ok (map.flattened older))

/-- A line of result maps that ends is some that extend the next one, and a root. -/
theorem exists_root_of_ascends {id : String} {map : ResultMap} {older : List ResultMap}
    (ascends : registry.Ascends (some id) (map :: older) none) :
    ∃ root rootId, map :: older = (map :: older).dropLast ++ [root] ∧
      registry.Ascends (some id) (map :: older).dropLast (some rootId) ∧
      registry.declaredMap? rootId = some root ∧ root.extended = none := by
  have line := (List.dropLast_concat_getLast (List.cons_ne_nil map older)).symm
  rw [line] at ascends
  obtain ⟨between, before, rootId, isRootId, found, ends⟩ := ascends_append.1 ascends
  exact ⟨_, rootId, line, isRootId ▸ before, found, ends⟩

theorem resultMap_of_flattensTo {id : String} {outcome : Except Error ResultMap}
    (flattens : registry.FlattensTo id outcome) : registry.resultMap id = outcome := by
  rw [← inheritBy_nil]
  cases flattens with
  | unknown ascends fresh unknown =>
    rw [inheritBy_of_ascends ascends fresh, inheritBy_of_unknown unknown]
    rfl
  | circular ascends fresh found goesOn visited =>
    rw [inheritBy_of_ascends ascends fresh, inheritBy_of_declared found, List.nil_append,
      inheritFrom_of_visited goesOn visited]
    rfl
  | ends ascends fresh =>
    obtain ⟨root, rootId, line, before, found, ends⟩ := exists_root_of_ascends ascends
    rw [inheritBy_of_ascends before fresh, inheritBy_of_declared found, inheritFrom_of_ends ends]
    exact congrArg _ (ResultMap.foldr_inherit_eq_flattened ends line)

/-- Resolving ends in one of the three ways. -/
theorem exists_flattensTo (registry : Registry) (id : String) :
    ∃ outcome, registry.FlattensTo id outcome := by
  obtain ⟨maps, next, ascends, fresh, stops⟩ :=
    registry.exists_ascends_stops List.nodup_nil id
  rw [List.nil_append] at fresh stops
  cases found : registry.declaredMap? next with
  | none => exact ⟨_, .unknown ascends fresh found⟩
  | some last =>
    cases extending : last.extended with
    | some parentId =>
      have goesOn : last.extended.isSome = true := by rw [extending, Option.isSome_some]
      rcases stops last found with ends | visited
      · rw [ends] at goesOn
        cases goesOn
      · exact ⟨_, .circular ascends fresh found goesOn visited⟩
    | none =>
      have ascendsToEnd : registry.Ascends (some id) (maps ++ [last]) none :=
        ascends_append.2 ⟨some next, ascends, next, rfl, found, extending⟩
      cases line : maps ++ [last] with
      | nil => exact absurd line (List.append_ne_nil_of_right_ne_nil maps (List.cons_ne_nil _ _))
      | cons map older =>
        refine ⟨_, .ends (line ▸ ascendsToEnd) ?_⟩
        rwa [← line, List.dropLast_concat]

theorem resultMap_eq_iff (registry : Registry) (id : String) (outcome : Except Error ResultMap) :
    registry.resultMap id = outcome ↔ registry.FlattensTo id outcome := by
  constructor
  · rintro rfl
    obtain ⟨outcome, flattens⟩ := registry.exists_flattensTo id
    rwa [resultMap_of_flattensTo flattens]
  · exact resultMap_of_flattensTo

/-! ### Result maps that come up again -/

/-- Nothing is found by what a line of result maps ends in. -/
def Dead (registry : Registry) (last : Option String) : Prop :=
  ∀ id, last = some id → registry.declaredMap? id = none

theorem dead_none : registry.Dead none :=
  fun _ isSome => nomatch isSome

theorem dead_some {id : String} (unknown : registry.declaredMap? id = none) :
    registry.Dead (some id) := by
  rintro _ ⟨⟩
  exact unknown

/-- A line of result maps that cannot go on continues any other line from its start. -/
theorem exists_append_of_ascends {start next last : Option String} {maps whole : List ResultMap}
    (dead : registry.Dead last) (ascends : registry.Ascends start maps next)
    (ascendsWhole : registry.Ascends start whole last) :
    ∃ rest, whole = maps ++ rest ∧ registry.Ascends next rest last := by
  induction maps generalizing start whole with
  | nil => exact ⟨whole, rfl, ascends ▸ ascendsWhole⟩
  | cons map older inductionHypothesis =>
    obtain ⟨id, rfl, found, ascends⟩ := ascends
    cases whole with
    | nil =>
      have unknown := dead id ascendsWhole.symm
      rw [found] at unknown
      cases unknown
    | cons other others =>
      obtain ⟨_, isId, otherFound, ascendsOthers⟩ := ascendsWhole
      obtain rfl := Option.some.inj isId
      obtain rfl := Option.some.inj (found.symm.trans otherFound)
      obtain ⟨rest, rfl, behind⟩ := inductionHypothesis ascends ascendsOthers
      exact ⟨rest, rfl, behind⟩

/-- A line of result maps that cannot go on has none of them twice: what follows one of them would
follow it again. -/
theorem nodup_of_ascends {start last : Option String} {maps : List ResultMap}
    (dead : registry.Dead last) (ascends : registry.Ascends start maps last) : maps.Nodup := by
  induction maps generalizing start with
  | nil => exact List.nodup_nil
  | cons map older inductionHypothesis =>
    obtain ⟨id, -, -, behind⟩ := ascends
    refine List.nodup_cons.2 ⟨fun again => ?_, inductionHypothesis behind⟩
    obtain ⟨before, others, rfl⟩ := List.append_of_mem again
    obtain ⟨between, -, _, -, -, ascendsOthers⟩ := ascends_append.1 behind
    obtain ⟨rest, same, -⟩ := exists_append_of_ascends dead behind ascendsOthers
    have lengths := congrArg List.length same
    simp only [List.length_append, List.length_cons] at lengths
    omega

/-! ### Labelled registries -/

/-- In a labelled registry a result map that is passed is found by its own identifier. -/
theorem found_of_ascends (labelled : registry.IsLabelled) {start next : Option String}
    {maps : List ResultMap} (ascends : registry.Ascends start maps next) {map : ResultMap}
    (member : map ∈ maps) : registry.declaredMap? map.qualifiedId = some map := by
  induction maps generalizing start with
  | nil => cases member
  | cons first older inductionHypothesis =>
    obtain ⟨id, -, found, behind⟩ := ascends
    rcases List.mem_cons.1 member with rfl | later
    · rwa [labelled.resultMaps id map found]
    · exact inductionHypothesis behind later

/-- So none comes up again unless an identifier does. -/
theorem nodup_ids_iff (labelled : registry.IsLabelled) {start next : Option String}
    {maps : List ResultMap} (ascends : registry.Ascends start maps next) :
    (maps.map ResultMap.qualifiedId).Nodup ↔ maps.Nodup := by
  refine ⟨List.Nodup.of_map _, fun fresh => List.Nodup.map_on ?_ fresh⟩
  intro map member other isOther same
  have found := found_of_ascends labelled ascends member
  rw [same, found_of_ascends labelled ascends isOther] at found
  exact (Option.some.inj found).symm

theorem mem_ids_iff (labelled : registry.IsLabelled) {start : Option String} {next : String}
    {maps : List ResultMap} (ascends : registry.Ascends start maps (some next)) {again : ResultMap}
    (found : registry.declaredMap? next = some again) :
    again.qualifiedId ∈ maps.map ResultMap.qualifiedId ↔ again ∈ maps := by
  refine ⟨fun visited => ?_, List.mem_map_of_mem⟩
  obtain ⟨map, member, same⟩ := List.mem_map.1 visited
  have foundMap := found_of_ascends labelled ascends member
  rw [same, labelled.resultMaps next again found, found] at foundMap
  rwa [Option.some.inj foundMap]

/-- A result map that comes up again comes up for ever. -/
theorem not_ascends_of_mem {id next : String} {maps : List ResultMap} {again : ResultMap}
    (ascends : registry.Ascends (some id) maps (some next))
    (found : registry.declaredMap? next = some again) (visited : again ∈ maps)
    {last : Option String} (dead : registry.Dead last) (whole : List ResultMap) :
    ¬ registry.Ascends (some id) whole last := by
  intro ascendsWhole
  have ascendsAgain : registry.Ascends (some id) (maps ++ [again]) again.extended :=
    ascends_append.2 ⟨some next, ascends, next, rfl, found, rfl⟩
  obtain ⟨rest, rfl, -⟩ := exists_append_of_ascends dead ascendsAgain ascendsWhole
  have fresh := nodup_of_ascends dead ascendsWhole
  exact (nodup_append_singleton_iff.1 (List.nodup_append.1 fresh).1).1 visited

theorem exists_unknown_iff (labelled : registry.IsLabelled) (id : String) :
    (∃ next, registry.resultMap id = .error (.of (.resultMapNotFound next))) ↔
      ∃ maps next, registry.Ascends (some id) maps (some next) ∧ maps.Nodup ∧
        registry.declaredMap? next = none := by
  constructor
  · rintro ⟨next, failed⟩
    generalize isOutcome : Except.error (Error.of (.resultMapNotFound next)) = outcome at failed
    cases (registry.resultMap_eq_iff id outcome).1 failed with
    | unknown ascends fresh unknown =>
      exact ⟨_, _, ascends, (nodup_ids_iff labelled ascends).1 fresh, unknown⟩
    | circular ascends fresh found goesOn visited => cases isOutcome
    | ends ascends fresh => cases isOutcome
  · rintro ⟨maps, next, ascends, fresh, unknown⟩
    exact ⟨next, resultMap_of_flattensTo
      (.unknown ascends ((nodup_ids_iff labelled ascends).2 fresh) unknown)⟩

theorem exists_circular_iff (labelled : registry.IsLabelled) (id : String) :
    (∃ chain again, registry.resultMap id = .error (.note ("result map inheritance cycle: " ++
        Chain.cycleText chain again))) ↔
      ∃ maps next again, registry.Ascends (some id) maps (some next) ∧
        registry.declaredMap? next = some again ∧ again ∈ maps := by
  constructor
  · rintro ⟨chain, again, failed⟩
    generalize isOutcome : Except.error (Error.note _) = outcome at failed
    cases (registry.resultMap_eq_iff id outcome).1 failed with
    | unknown ascends fresh unknown => cases isOutcome
    | circular ascends fresh found goesOn visited =>
      exact ⟨_, _, _, ascends, found, (mem_ids_iff labelled ascends found).1 visited⟩
    | ends ascends fresh => cases isOutcome
  · rintro ⟨maps, next, again, ascends, found, visited⟩
    obtain ⟨outcome, flattens⟩ := registry.exists_flattensTo id
    have done := resultMap_of_flattensTo flattens
    cases flattens with
    | unknown ascendsWhole fresh unknown =>
      exact absurd ascendsWhole (not_ascends_of_mem ascends found visited (dead_some unknown) _)
    | circular => exact ⟨_, _, done⟩
    | ends ascendsWhole fresh =>
      exact absurd ascendsWhole (not_ascends_of_mem ascends found visited dead_none _)

theorem resultMap_eq_ok_iff (labelled : registry.IsLabelled) (id : String) (flat : ResultMap) :
    registry.resultMap id = .ok flat ↔
      ∃ map older, registry.Ascends (some id) (map :: older) none ∧
        flat = map.flattened older := by
  constructor
  · intro done
    generalize isOutcome : Except.ok flat = outcome at done
    cases (registry.resultMap_eq_iff id outcome).1 done with
    | unknown ascends fresh unknown => cases isOutcome
    | circular ascends fresh found goesOn visited => cases isOutcome
    | ends ascends fresh => exact ⟨_, _, ascends, Except.ok.inj isOutcome⟩
  · rintro ⟨map, older, ascends, rfl⟩
    have fresh := (nodup_ids_iff labelled ascends).2 (nodup_of_ascends dead_none ascends)
    exact resultMap_of_flattensTo
      (.ends ascends (fresh.sublist ((List.dropLast_sublist _).map ResultMap.qualifiedId)))

/-! ### Flattening -/

/-- Resolving follows what result maps extend, however many there are, and always ends: with the
error of the first identifier that none has, with the error of a circle, or with the result map that
has the rules of all in the line, which are the same whichever end they are merged from. In a
registry that is labelled, as all that documents are loaded into are, the first happens exactly if
the line runs out before any result map comes up again, and the second exactly if one does. -/
theorem resultMap_flattens (registry : Registry) (id : String) :
    (∀ outcome, registry.resultMap id = outcome ↔ registry.FlattensTo id outcome) ∧
    (∀ map older, registry.Ascends (some id) (map :: older) none →
      older.foldl ResultMap.inherit map = map.flattened older ∧
      ∀ nearer root, map :: older = nearer ++ [root] →
        nearer.foldr ResultMap.inherit root = map.flattened older) ∧
    (registry.IsLabelled →
      ((∃ next, registry.resultMap id = .error (.of (.resultMapNotFound next))) ↔
        ∃ maps next, registry.Ascends (some id) maps (some next) ∧ maps.Nodup ∧
          registry.declaredMap? next = none) ∧
      ((∃ chain again, registry.resultMap id = .error (.note ("result map inheritance cycle: " ++
          Chain.cycleText chain again))) ↔
        ∃ maps next again, registry.Ascends (some id) maps (some next) ∧
          registry.declaredMap? next = some again ∧ again ∈ maps) ∧
      ∀ flat, registry.resultMap id = .ok flat ↔
        ∃ map older, registry.Ascends (some id) (map :: older) none ∧
          flat = map.flattened older) := by
  refine ⟨registry.resultMap_eq_iff id, fun map older ascends => ?_, fun labelled =>
    ⟨exists_unknown_iff labelled id, exists_circular_iff labelled id,
      resultMap_eq_ok_iff labelled id⟩⟩
  obtain ⟨last, -, isLine, -, -, ends⟩ := exists_root_of_ascends ascends
  refine ⟨ResultMap.foldl_inherit_eq_flattened ends isLine, fun nearer root line => ?_⟩
  obtain ⟨-, sameRoot⟩ := List.append_inj' (isLine.symm.trans line) rfl
  obtain rfl := List.singleton_inj.1 sameRoot
  exact ResultMap.foldr_inherit_eq_flattened ends line

/-! ### Three result maps in two namespaces -/

/-- The root of the line. -/
def personMap : ResultMap where
  namespaceName := "shared"
  id := "person"
  typeName := some "person"
  extended := none
  autoMapping := false
  ids := [⟨"id", "id", none, none⟩]
  results := [⟨"name", "name", none, none⟩, ⟨"age", "age", none, none⟩]
  nested := []

/-- A result map that extends the root and takes the name from another column. -/
def workerMap : ResultMap where
  namespaceName := "space"
  id := "worker"
  typeName := none
  extended := some "shared.person"
  autoMapping := false
  ids := []
  results := [⟨"name", "full_name", none, none⟩]
  nested := [⟨.association, "office", .reference "shared.office", some "office_", none⟩]

/-- A result map that extends the one that extends the root. -/
def managerMap : ResultMap where
  namespaceName := "space"
  id := "manager"
  typeName := none
  extended := some "space.worker"
  autoMapping := true
  ids := [⟨"id", "manager_id", none, none⟩]
  results := [⟨"budget", "budget", none, none⟩]
  nested := []

/-- A registry of the three result maps. -/
def company : Registry :=
  ⟨.standard, [⟨"shared", [], [personMap], []⟩, ⟨"space", [], [workerMap, managerMap], []⟩]⟩

theorem company_isLabelled : company.IsLabelled := by
  refine isLabelled_of_mappers fun mapper member => ⟨fun statement isStatement => ?_, ?_⟩
  · rcases List.mem_pair.1 member with rfl | rfl <;> cases isStatement
  · rcases List.mem_pair.1 member with rfl | rfl
    · exact List.forall_mem_singleton.2 ⟨rfl, rfl⟩
    · exact List.forall_mem_cons.2 ⟨⟨rfl, rfl⟩, List.forall_mem_singleton.2 ⟨rfl, rfl⟩⟩

theorem resultMap_flattens_manager :
    company.IsLabelled ∧ company.resultMap "space.manager" = .ok {
      namespaceName := "space"
      id := "manager"
      typeName := some "person"
      extended := none
      autoMapping := true
      ids := [⟨"id", "manager_id", none, none⟩]
      results := [⟨"age", "age", none, none⟩, ⟨"name", "full_name", none, none⟩,
        ⟨"budget", "budget", none, none⟩]
      nested := [⟨.association, "office", .reference "shared.office", some "office_", none⟩] } := by
  obtain ⟨-, -, whenLabelled⟩ := resultMap_flattens company "space.manager"
  refine ⟨company_isLabelled, ((whenLabelled company_isLabelled).2.2 _).2
    ⟨managerMap, [workerMap, personMap], ?_, rfl⟩⟩
  exact ⟨_, rfl, rfl, _, rfl, rfl, _, rfl, rfl, rfl⟩

end DynamicSql.Registry
