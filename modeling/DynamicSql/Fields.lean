/-
This file holds named entries kept in the order in which their names were first put in. Putting a
name in again replaces the value and keeps the place.
-/

namespace DynamicSql

/-- Named entries in order. -/
abbrev Fields (Entry : Type) := List (String × Entry)

namespace Fields

variable {Entry : Type}

/-- The entry of a name. -/
def get? (name : String) : Fields Entry → Option Entry
  | [] => none
  | (other, entry) :: rest => if other = name then some entry else get? name rest

/-- The fields with an entry under a name: in the place of the entry it replaces, else at the
end. -/
def put (name : String) (entry : Entry) : Fields Entry → Fields Entry
  | [] => [(name, entry)]
  | (other, old) :: rest =>
    if other = name then (other, entry) :: rest else (other, old) :: put name entry rest

/-- The names in order. -/
def names (fields : Fields Entry) : List String :=
  fields.map Prod.fst

/-- The fields that result from putting pairs in one after the other. -/
def ofPairs (pairs : List (String × Entry)) : Fields Entry :=
  pairs.foldl (fun fields pair => put pair.1 pair.2 fields) []

/-- Some entry has the name. -/
def contains (name : String) (fields : Fields Entry) : Bool :=
  (get? name fields).isSome

@[simp]
theorem get?_put_self (name : String) (entry : Entry) (fields : Fields Entry) :
    get? name (put name entry fields) = some entry := by
  induction fields with
  | nil => simp [put, get?]
  | cons pair rest inductionHypothesis =>
    by_cases same : pair.1 = name <;> simp [put, get?, same, inductionHypothesis]

@[simp]
theorem get?_put_other {name other : String} (different : other ≠ name) (entry : Entry)
    (fields : Fields Entry) : get? name (put other entry fields) = get? name fields := by
  induction fields with
  | nil => simp [put, get?, different]
  | cons pair rest inductionHypothesis =>
    by_cases same : pair.1 = other
    · simp [put, get?, same, different]
    · simp [put, get?, same, inductionHypothesis]

theorem mem_of_get? {name : String} {fields : Fields Entry} {entry : Entry}
    (found : get? name fields = some entry) : (name, entry) ∈ fields := by
  induction fields with
  | nil => simp [get?] at found
  | cons pair rest inductionHypothesis =>
    unfold get? at found
    split at found
    · next same =>
      obtain rfl := Option.some.inj found
      exact same ▸ List.mem_cons_self
    · exact List.mem_cons_of_mem _ (inductionHypothesis found)

theorem mem_names_of_get? {name : String} {fields : Fields Entry} {entry : Entry}
    (found : get? name fields = some entry) : name ∈ names fields :=
  List.mem_map_of_mem (mem_of_get? found)

theorem exists_get?_of_mem_names {name : String} {fields : Fields Entry}
    (member : name ∈ names fields) : ∃ entry, get? name fields = some entry := by
  induction fields with
  | nil => cases member
  | cons pair rest inductionHypothesis =>
    by_cases same : pair.1 = name
    · exact ⟨pair.2, by simp [get?, same]⟩
    · rcases List.mem_cons.1 member with equal | later
      · exact absurd equal.symm same
      · obtain ⟨entry, found⟩ := inductionHypothesis later
        exact ⟨entry, by simp [get?, same, found]⟩

/-- The entry of a field is found by its name, if no other field has that. -/
theorem get?_of_mem {fields : Fields Entry} {field : String × Entry}
    (distinct : (names fields).Nodup) (member : field ∈ fields) :
    get? field.1 fields = some field.2 := by
  induction fields with
  | nil => cases member
  | cons first rest inductionHypothesis =>
    unfold get?
    obtain ⟨absent, later⟩ := List.nodup_cons.1 distinct
    rcases List.mem_cons.1 member with rfl | member
    · exact if_pos rfl
    · rw [if_neg, inductionHypothesis later member]
      rintro same
      exact absent (same ▸ List.mem_map_of_mem member)

theorem get?_eq_none_of_not_mem {name : String} {fields : Fields Entry}
    (absent : name ∉ names fields) : get? name fields = none := by
  cases found : get? name fields with
  | none => rfl
  | some entry => exact absurd (mem_names_of_get? found) absent

/-- Putting a name in adds it at the end unless it is there already. -/
theorem names_put (name : String) (entry : Entry) (fields : Fields Entry) :
    names (put name entry fields) =
      if name ∈ names fields then names fields else names fields ++ [name] := by
  induction fields with
  | nil => simp [put, names]
  | cons pair rest inductionHypothesis =>
    by_cases same : pair.1 = name
    · simp [put, names, same]
    · have different : ¬ name = pair.1 := fun equal => same equal.symm
      unfold names at inductionHypothesis
      simp only [put, names, if_neg same, List.map_cons, inductionHypothesis, List.mem_cons,
        different, false_or]
      split <;> simp_all

/-- Names stay distinct. -/
theorem nodup_names_put {name : String} {entry : Entry} {fields : Fields Entry}
    (distinct : (names fields).Nodup) : (names (put name entry fields)).Nodup := by
  rw [names_put]
  split
  · exact distinct
  · next absent =>
    refine List.nodup_append.2 ⟨distinct, by simp, ?_⟩
    intro member isMember last isLast equal
    have named : last = name := by simpa using isLast
    exact absent (named ▸ equal ▸ isMember)

theorem length_put_of_not_mem {name : String} {fields : Fields Entry}
    (absent : name ∉ names fields) (entry : Entry) :
    (put name entry fields).length = fields.length + 1 := by
  have grown := congrArg List.length (names_put name entry fields)
  rw [if_neg absent] at grown
  simpa [names] using grown

end Fields

end DynamicSql
