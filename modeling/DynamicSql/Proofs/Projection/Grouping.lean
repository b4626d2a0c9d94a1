/-
This file says what the groups of rows at the top are, without keys or positions: the first row
with the rows behind it that have the same identity, then the groups of the others. Groups built row
by row are the same. The rows of one group form one group when they are grouped by themselves.
-/

import DynamicSql.Projection.Group
import Mathlib.Data.List.Nodup

namespace DynamicSql.Projection

/-! ### The rows of groups -/

theorem mem_of_mem_addRow {key other : GroupKey} {row found : Row}
    {groups : List (GroupKey × List Row)} {rows : List Row}
    (member : (other, rows) ∈ addRow key row groups) (inRows : found ∈ rows) :
    found = row ∨ ∃ group ∈ groups, found ∈ group.2 := by
  induction groups with
  | nil =>
    obtain ⟨-, rfl⟩ := Prod.mk.inj (List.mem_singleton.1 member)
    exact Or.inl (List.mem_singleton.1 inRows)
  | cons group rest inductionHypothesis =>
    unfold addRow at member
    split at member
    · rcases List.mem_cons.1 member with same | later
      · obtain ⟨-, rfl⟩ := Prod.mk.inj same
        rcases List.mem_append.1 inRows with old | new
        · exact Or.inr ⟨group, List.mem_cons_self, old⟩
        · exact Or.inl (List.mem_singleton.1 new)
      · exact Or.inr ⟨_, List.mem_cons_of_mem _ later, inRows⟩
    · rcases List.mem_cons.1 member with same | later
      · obtain ⟨-, rfl⟩ := Prod.mk.inj same
        exact Or.inr ⟨group, List.mem_cons_self, inRows⟩
      · rcases inductionHypothesis later with new | ⟨group, isGroup, old⟩
        · exact Or.inl new
        · exact Or.inr ⟨group, List.mem_cons_of_mem _ isGroup, old⟩

theorem mem_of_mem_addRows {top : Bool} {map : ResultMap} {start : String}
    {groups : List (GroupKey × List Row)} {position : Nat} {rows : List Row}
    {group : GroupKey × List Row} {found : Row}
    (member : group ∈ addRows top map start groups position rows) (inGroup : found ∈ group.2) :
    found ∈ rows ∨ ∃ group ∈ groups, found ∈ group.2 := by
  induction rows generalizing groups position with
  | nil => exact Or.inr ⟨group, member, inGroup⟩
  | cons row rest inductionHypothesis =>
    unfold addRows at member
    split at member
    · rcases inductionHypothesis member with later | ⟨other, isOther, old⟩
      · exact Or.inl (List.mem_cons_of_mem _ later)
      · rcases mem_of_mem_addRow isOther old with rfl | earlier
        · exact Or.inl List.mem_cons_self
        · exact Or.inr earlier
    · rcases inductionHypothesis member with later | earlier
      · exact Or.inl (List.mem_cons_of_mem _ later)
      · exact Or.inr earlier

/-- Grouping makes up no rows. -/
theorem mem_of_mem_groupRows {top : Bool} {map : ResultMap} {start : String}
    {rows group : List Row} (member : group ∈ groupRows top map start rows) {found : Row}
    (inGroup : found ∈ group) : found ∈ rows := by
  obtain ⟨keyed, isKeyed, rfl⟩ := List.mem_map.1 member
  rcases mem_of_mem_addRows isKeyed inGroup with inRows | ⟨group, isGroup, -⟩
  · exact inRows
  · cases isGroup

/-! ### Groups at the top -/

/-- What tells the record of a row apart: the values in the columns of identifiers, as a JSON text,
unless there are none or nothing but nulls. -/
def identity? (map : ResultMap) (start : String) (row : Row) : Option String :=
  let values := idValues row map start
  if values.isEmpty || values.all Value.isNull then none
  else some (Json.array (values.map Value.toJson)).render

/-- The groups of rows with the same identity, in the order of their first rows. A row without an
identity is a group of its own. -/
def sameIdentity (identity : Row → Option String) (rows : List Row) : List (List Row) :=
  match rows with
  | [] => []
  | row :: rest =>
    match identity row with
    | none => [row] :: sameIdentity identity rest
    | some text =>
      (row :: rest.filter fun other => identity other == some text) ::
        sameIdentity identity (rest.filter fun other => identity other != some text)
termination_by rows.length
decreasing_by
  · exact Nat.lt_succ_self _
  · simpa [Nat.lt_succ_iff] using List.length_filter_le _ _

theorem groupKey?_top (map : ResultMap) (start : String) (position : Nat) (row : Row) :
    groupKey? true map start position row =
      match identity? map start row with
      | some text => some (.shared text)
      | none => some (.alone position) := by
  unfold groupKey? identity?
  simp only
  by_cases empty : (idValues row map start).isEmpty = true
  · simp [empty]
  · by_cases nulls : (idValues row map start).all Value.isNull = true
    · simp [empty, nulls]
    · simp [empty, nulls]

/-- A row with a new key begins a group. -/
theorem addRow_of_not_mem {key : GroupKey} {row : Row} {groups : List (GroupKey × List Row)}
    (new : key ∉ groups.map Prod.fst) : addRow key row groups = groups ++ [(key, [row])] := by
  induction groups with
  | nil => rfl
  | cons group rest inductionHypothesis =>
    obtain ⟨other, rows⟩ := group
    obtain ⟨different, others⟩ := not_or.1 (List.mem_cons.not.1 new)
    rw [addRow, if_neg (Ne.symm different), inductionHypothesis others]
    rfl

/-- A row with a key that has come before joins the group of the key. -/
theorem addRow_of_mem {key : GroupKey} {row : Row} {groups : List (GroupKey × List Row)}
    (distinct : (groups.map Prod.fst).Nodup) (old : key ∈ groups.map Prod.fst) :
    addRow key row groups =
      groups.map fun group => (group.1, if group.1 = key then group.2 ++ [row] else group.2) := by
  induction groups with
  | nil => cases old
  | cons group rest inductionHypothesis =>
    obtain ⟨other, rows⟩ := group
    obtain ⟨fresh, others⟩ := List.nodup_cons.1 distinct
    by_cases same : other = key
    · have unchanged : ∀ group ∈ rest,
          (group.1, if group.1 = key then group.2 ++ [row] else group.2) = group := by
        intro group member
        have different : group.1 ≠ key := by
          rintro equal
          rw [same, ← equal] at fresh
          exact fresh (List.mem_map.2 ⟨group, member, rfl⟩)
        rw [if_neg different]
      rw [addRow, if_pos same, List.map_cons, List.map_congr_left unchanged, List.map_id']
      simp [same]
    · have later : key ∈ rest.map Prod.fst := by
        rcases List.mem_cons.1 old with equal | later
        · exact absurd equal.symm same
        · exact later
      rw [addRow, if_neg same, List.map_cons, inductionHypothesis others later]
      simp [same]

/-! ### Groups built row by row -/

variable {identity : Row → Option String}

/-- What is added to a group by the rows that follow. -/
def extended (identity : Row → Option String) (rows : List Row) :
    GroupKey × List Row → List Row
  | (.shared text, group) => group ++ rows.filter fun row => identity row == some text
  | (.alone _, group) => group

/-- The rows that join none of the groups. -/
def unclaimed (identity : Row → Option String) (groups : List (GroupKey × List Row))
    (rows : List Row) : List Row :=
  rows.filter fun row =>
    match identity row with
    | some text => !(groups.map Prod.fst).contains (.shared text)
    | none => true

/-- What the keys of groups are like before a position. -/
structure KeysBefore (groups : List (GroupKey × List Row)) (position : Nat) : Prop where
  distinct : (groups.map Prod.fst).Nodup
  before : ∀ earlier, .alone earlier ∈ groups.map Prod.fst → earlier < position

theorem extended_nil : extended identity [] = Prod.snd := by
  funext group
  obtain ⟨key, rows⟩ := group
  cases key with
  | shared text => exact List.append_nil rows
  | alone position => rfl

theorem map_fst_addRow_of_mem {key : GroupKey} {row : Row}
    {groups : List (GroupKey × List Row)} (distinct : (groups.map Prod.fst).Nodup)
    (old : key ∈ groups.map Prod.fst) :
    (addRow key row groups).map Prod.fst = groups.map Prod.fst := by
  rw [addRow_of_mem distinct old, List.map_map]
  rfl

theorem KeysBefore.of_new {groups : List (GroupKey × List Row)} {position : Nat}
    (keys : KeysBefore groups position) {key : GroupKey} (row : Row)
    (new : key ∉ groups.map Prod.fst)
    (before : ∀ earlier, .alone earlier = key → earlier < position + 1) :
    KeysBefore (groups ++ [(key, [row])]) (position + 1) where
  distinct := by
    rw [List.map_append]
    refine List.nodup_append.2 ⟨keys.distinct, List.nodup_singleton _, ?_⟩
    rintro old isOld other isNew rfl
    obtain rfl := List.mem_singleton.1 isNew
    exact new isOld
  before earlier member := by
    rw [List.map_append, List.mem_append] at member
    rcases member with old | isNew
    · exact Nat.lt_succ_of_lt (keys.before earlier old)
    · exact before earlier (List.mem_singleton.1 isNew)

theorem KeysBefore.of_old {groups : List (GroupKey × List Row)} {position : Nat}
    (keys : KeysBefore groups position) {key : GroupKey} {row : Row}
    (old : key ∈ groups.map Prod.fst) : KeysBefore (addRow key row groups) (position + 1) where
  distinct := by
    rw [map_fst_addRow_of_mem keys.distinct old]
    exact keys.distinct
  before earlier member := by
    rw [map_fst_addRow_of_mem keys.distinct old] at member
    exact Nat.lt_succ_of_lt (keys.before earlier member)

theorem extended_cons_of_none {row : Row} (none : identity row = none) (rest : List Row) :
    extended identity (row :: rest) = extended identity rest := by
  funext group
  obtain ⟨key, rows⟩ := group
  cases key with
  | shared text => simp [extended, none]
  | alone position => rfl

theorem extended_cons_of_some {row : Row} {text : String} (known : identity row = some text)
    (rest : List Row) (group : GroupKey × List Row) :
    extended identity (row :: rest) group = extended identity rest
      (group.1, if group.1 = .shared text then group.2 ++ [row] else group.2) := by
  obtain ⟨key, rows⟩ := group
  cases key with
  | alone position => rfl
  | shared other =>
    by_cases same : text = other
    · simp [extended, known, same]
    · simp [extended, known, same, Ne.symm same]

theorem unclaimed_cons_of_none {row : Row} (none : identity row = none)
    (groups : List (GroupKey × List Row)) (rest : List Row) :
    unclaimed identity groups (row :: rest) = row :: unclaimed identity groups rest := by
  unfold unclaimed
  rw [List.filter_cons_of_pos (by simp [none])]

theorem unclaimed_cons_of_mem {row : Row} {text : String} (known : identity row = some text)
    {groups : List (GroupKey × List Row)} (old : .shared text ∈ groups.map Prod.fst)
    (rest : List Row) :
    unclaimed identity groups (row :: rest) = unclaimed identity groups rest := by
  unfold unclaimed
  refine List.filter_cons_of_neg ?_
  rw [known]
  simpa using old

theorem unclaimed_cons_of_not_mem {row : Row} {text : String} (known : identity row = some text)
    {groups : List (GroupKey × List Row)} (new : .shared text ∉ groups.map Prod.fst)
    (rest : List Row) :
    unclaimed identity groups (row :: rest) = row :: unclaimed identity groups rest := by
  unfold unclaimed
  refine List.filter_cons_of_pos ?_
  rw [known]
  simpa using new

theorem unclaimed_append_alone (groups : List (GroupKey × List Row)) (position : Nat)
    (group rest : List Row) :
    unclaimed identity (groups ++ [(.alone position, group)]) rest =
      unclaimed identity groups rest := by
  refine List.filter_congr fun row _ => ?_
  cases identity row with
  | none => rfl
  | some text => simp

theorem unclaimed_append_shared (groups : List (GroupKey × List Row)) (text : String)
    (group rest : List Row) :
    unclaimed identity (groups ++ [(.shared text, group)]) rest =
      (unclaimed identity groups rest).filter fun row => identity row != some text := by
  unfold unclaimed
  rw [List.filter_filter]
  refine List.filter_congr fun row _ => ?_
  cases identity row with
  | none => simp
  | some other =>
    rw [Bool.eq_iff_iff]
    by_cases same : other = text <;> simp [same]

theorem filter_unclaimed {groups : List (GroupKey × List Row)} {text : String}
    (new : .shared text ∉ groups.map Prod.fst) (rest : List Row) :
    ((unclaimed identity groups rest).filter fun row => identity row == some text) =
      rest.filter fun row => identity row == some text := by
  unfold unclaimed
  rw [List.filter_filter]
  refine List.filter_congr fun row _ => ?_
  cases known : identity row with
  | none => simp
  | some other =>
    by_cases same : other = text
    · simpa [same] using new
    · simp [same]

/-- Groups built row by row: the groups that are there take up the rows of their keys, and the
other rows form the groups of their identities. -/
theorem map_snd_addRows (map : ResultMap) (start : String) {groups : List (GroupKey × List Row)}
    {position : Nat} (keys : KeysBefore groups position) (rows : List Row) :
    (addRows true map start groups position rows).map Prod.snd =
      groups.map (extended (identity? map start) rows) ++
        sameIdentity (identity? map start) (unclaimed (identity? map start) groups rows) := by
  induction rows generalizing groups position with
  | nil =>
    rw [addRows, extended_nil, unclaimed, List.filter_nil, sameIdentity, List.append_nil]
  | cons row rest inductionHypothesis =>
    rw [addRows, groupKey?_top]
    cases known : identity? map start row with
    | none =>
      have new : GroupKey.alone position ∉ groups.map Prod.fst := fun member =>
        Nat.lt_irrefl position (keys.before position member)
      have later := keys.of_new row new fun earlier same => by
        obtain rfl := GroupKey.alone.inj same
        exact Nat.lt_succ_self _
      simp only [addRow_of_not_mem new]
      rw [inductionHypothesis later, List.map_append, extended_cons_of_none known,
        unclaimed_cons_of_none known, unclaimed_append_alone, sameIdentity, known,
        List.append_assoc]
      rfl
    | some text =>
      simp only
      by_cases old : GroupKey.shared text ∈ groups.map Prod.fst
      · rw [inductionHypothesis (keys.of_old old), unclaimed_cons_of_mem known old]
        have sameUnclaimed : unclaimed (identity? map start) (addRow (.shared text) row groups)
            rest = unclaimed (identity? map start) groups rest := by
          unfold unclaimed
          rw [map_fst_addRow_of_mem keys.distinct old]
        rw [sameUnclaimed, addRow_of_mem keys.distinct old, List.map_map]
        refine congrArg (· ++ _) (List.map_congr_left fun group _ => ?_)
        exact (extended_cons_of_some known rest group).symm
      · have later := keys.of_new row old fun earlier same => nomatch same
        have unchanged : groups.map (extended (identity? map start) (row :: rest)) =
            groups.map (extended (identity? map start) rest) := by
          refine List.map_congr_left fun group member => ?_
          have different : group.1 ≠ .shared text := by
            rintro same
            exact old (same ▸ List.mem_map_of_mem member)
          rw [extended_cons_of_some known, if_neg different]
        rw [addRow_of_not_mem old, inductionHypothesis later, List.map_append, unchanged,
          unclaimed_cons_of_not_mem known old, unclaimed_append_shared, sameIdentity, known,
          List.append_assoc]
        simp only [filter_unclaimed old]
        rfl

theorem groupRows_top (map : ResultMap) (start : String) (rows : List Row) :
    groupRows true map start rows = sameIdentity (identity? map start) rows := by
  have keys : KeysBefore [] 0 := ⟨List.nodup_nil, fun _ member => nomatch member⟩
  have allRows : unclaimed (identity? map start) [] rows = rows := by
    refine List.filter_eq_self.2 fun row _ => ?_
    cases identity? map start row <;> rfl
  unfold groupRows
  rw [map_snd_addRows map start keys, allRows]
  rfl

/-- The rows of a group form one group. -/
theorem sameIdentity_of_mem {rows group : List Row} (member : group ∈ sameIdentity identity rows) :
    sameIdentity identity group = [group] := by
  fun_induction sameIdentity identity rows with
  | case1 => cases member
  | case2 row rest none inductionHypothesis =>
    rcases List.mem_cons.1 member with rfl | later
    · rw [sameIdentity, none, sameIdentity]
    · exact inductionHypothesis later
  | case3 row rest text known inductionHypothesis =>
    rcases List.mem_cons.1 member with rfl | later
    · rw [sameIdentity, known]
      simp only [List.filter_filter]
      have all : (rest.filter fun other =>
          identity other == some text && identity other == some text) =
            rest.filter fun other => identity other == some text := by simp
      have others : (rest.filter fun other =>
          identity other != some text && identity other == some text) = [] := by
        refine List.filter_eq_nil_iff.2 fun other _ => ?_
        cases identity other <;> simp
      rw [all, others, sameIdentity]
    · exact inductionHypothesis (by simpa using later)

end DynamicSql.Projection
