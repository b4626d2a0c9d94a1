/-
This file says which nested mapping a property has its value from. It is the last one for the
property that leads to a result map, be there columns for it or not; a mapping that leads to a
statement is passed over. None of them counts as a value of the record that they are in.
-/

import DynamicSql.Proofs.Projection.Comparison

namespace DynamicSql.Projection

variable {registry : Registry} {trail : Trail} {shape : Shaping} {rows : List Row} {start : String}
  {name : String}

/-! ### The last nested mapping -/

/-- A nested mapping for a property with the result map that it leads to. -/
def leading? (registry : Registry) (name : String) (rule : Nested ResultMap) :
    Option (Nested ResultMap × ResultMap) :=
  if rule.property = name then
    match registry.nestedMap? rule.target with
    | .ok (some inner) => some (rule, inner)
    | _ => none
  else none

/-- The last nested mapping for a property that leads to a result map. -/
def lastLeading? (registry : Registry) (name : String) (rules : List (Nested ResultMap)) :
    Option (Nested ResultMap × ResultMap) :=
  rules.reverse.findSome? (leading? registry name)

theorem leading?_eq_some_iff {rule other : Nested ResultMap} {inner : ResultMap} :
    leading? registry name rule = some (other, inner) ↔
      rule = other ∧ rule.property = name ∧
        registry.nestedMap? rule.target = .ok (some inner) := by
  unfold leading?
  constructor
  · intro leads
    split at leads
    · next same =>
      split at leads
      · next found =>
        obtain ⟨rfl, rfl⟩ := Prod.mk.inj (Option.some.inj leads)
        exact ⟨rfl, same, found⟩
      · cases leads
    · cases leads
  · rintro ⟨rfl, same, found⟩
    rw [if_pos same, found]

theorem lastLeading?_cons (rule : Nested ResultMap) (rest : List (Nested ResultMap)) :
    lastLeading? registry name (rule :: rest) =
      (lastLeading? registry name rest).or (leading? registry name rule) := by
  unfold lastLeading?
  rw [List.reverse_cons, List.findSome?_append, List.findSome?_singleton]

/-- Without a nested mapping for a property there is no last one. -/
theorem lastLeading?_eq_none {rules : List (Nested ResultMap)}
    (absent : name ∉ rules.map Nested.property) : lastLeading? registry name rules = none := by
  refine List.findSome?_eq_none_iff.2 fun rule member => if_neg fun same => absent ?_
  exact same ▸ List.mem_map_of_mem (List.mem_reverse.1 member)

/-- Where nested mappings have distinct properties, each that leads to a result map is the last one
for its property. -/
theorem lastLeading?_of_nodup {rules : List (Nested ResultMap)}
    (distinct : (rules.map Nested.property).Nodup) {rule : Nested ResultMap}
    (isRule : rule ∈ rules) {inner : ResultMap}
    (found : registry.nestedMap? rule.target = .ok (some inner)) :
    lastLeading? registry rule.property rules = some (rule, inner) := by
  induction rules with
  | nil => cases isRule
  | cons other rest inductionHypothesis =>
    obtain ⟨fresh, distinctRest⟩ := List.nodup_cons.1 distinct
    rw [lastLeading?_cons]
    rcases List.mem_cons.1 isRule with rfl | later
    · rw [lastLeading?_eq_none fresh, Option.none_or]
      exact leading?_eq_some_iff.2 ⟨rfl, rfl, found⟩
    · rw [inductionHypothesis distinctRest later, Option.some_or]

/-! ### What nested mappings give -/

/-- What a nested mapping gives with the result map that it leads to: nothing where it is left out,
and else what is shaped by the result map. -/
inductive NestedGives (trail : Trail) (shape : Shaping) (rows : List Row) (start : String)
    (rule : Nested ResultMap) (inner : ResultMap) : Value → Prop
  | leftOut (isLeft : isLeftOut trail rows rule inner (start ++ rule.columnPrefix.getD "") = true) :
      NestedGives trail shape rows start rule inner (nothing rule.kind)
  | shaped {used after : List String} {value : Value}
      (notLeft : isLeftOut trail rows rule inner (start ++ rule.columnPrefix.getD "") = false)
      (isShaped : shapeNested shape rule.kind rows inner (start ++ rule.columnPrefix.getD "") used =
        .ok (value, after)) :
      NestedGives trail shape rows start rule inner value

/-- One nested mapping: if it leads to a result map for the property it decides about it, else
nothing changes. -/
theorem gives_of_addNested {record last : OpenRecord} {rule : Nested ResultMap} (name : String)
    (done : addNested registry trail shape rows start record rule = .ok last) :
    (leading? registry name rule = none →
      Fields.get? name last.fields = Fields.get? name record.fields) ∧
    ∀ other inner, leading? registry name rule = some (other, inner) →
      ∃ value, Fields.get? name last.fields = some value ∧
        NestedGives trail shape rows start other inner value := by
  unfold addNested at done
  split at done
  · cases done
  · next leadsNowhere =>
    obtain rfl := Except.ok.inj done
    refine ⟨fun _ => rfl, fun other inner leads => ?_⟩
    obtain ⟨rfl, -, found⟩ := leading?_eq_some_iff.1 leads
    rw [leadsNowhere] at found
    cases found
  · next target found =>
    obtain ⟨value, isPut, gives⟩ : ∃ value,
        last.fields = Fields.put rule.property value record.fields ∧
        NestedGives trail shape rows start rule target value := by
      simp only at done
      split at done
      · next left =>
        obtain rfl := Except.ok.inj done
        exact ⟨_, rfl, .leftOut left⟩
      · next notLeft =>
        split at done
        · cases done
        · next value after isShaped =>
          obtain rfl := Except.ok.inj done
          exact ⟨value, rfl, .shaped (Bool.eq_false_iff.2 notLeft) isShaped⟩
    rw [isPut]
    constructor
    · intro notForIt
      refine Fields.get?_put_other (fun same => ?_) _ _
      rw [leading?_eq_some_iff.2 ⟨rfl, same, found⟩] at notForIt
      cases notForIt
    · intro other inner leads
      obtain ⟨rfl, rfl, again⟩ := leading?_eq_some_iff.1 leads
      obtain rfl := Option.some.inj (Except.ok.inj (found.symm.trans again))
      exact ⟨value, Fields.get?_put_self _ _ _, gives⟩

theorem gives_of_addEachNested {record last : OpenRecord} {rules : List (Nested ResultMap)}
    (name : String) (done : addEachNested registry trail shape rows start record rules = .ok last) :
    (lastLeading? registry name rules = none →
      Fields.get? name last.fields = Fields.get? name record.fields) ∧
    ∀ rule inner, lastLeading? registry name rules = some (rule, inner) →
      ∃ value, Fields.get? name last.fields = some value ∧
        NestedGives trail shape rows start rule inner value := by
  induction rules generalizing record with
  | nil =>
    obtain rfl := Except.ok.inj done
    exact ⟨fun _ => rfl, nofun⟩
  | cons rule rest inductionHypothesis =>
    unfold addEachNested at done
    split at done
    · cases done
    · next between first =>
      obtain ⟨unchangedRest, givesRest⟩ := inductionHypothesis done
      obtain ⟨unchangedFirst, givesFirst⟩ := gives_of_addNested name first
      rw [lastLeading?_cons]
      cases later : lastLeading? registry name rest with
      | some decided =>
        refine ⟨nofun, fun other inner leads => ?_⟩
        exact givesRest other inner (later.trans leads)
      | none =>
        rw [Option.none_or, unchangedRest later]
        exact ⟨unchangedFirst, givesFirst⟩

/-- A nested mapping does not count as a value of the record. -/
theorem present_of_addNested {record last : OpenRecord} {rule : Nested ResultMap}
    (done : addNested registry trail shape rows start record rule = .ok last) :
    last.present = record.present := by
  unfold addNested at done
  split at done
  · cases done
  · obtain rfl := Except.ok.inj done
    rfl
  · simp only at done
    split at done
    · obtain rfl := Except.ok.inj done
      rfl
    · split at done
      · cases done
      · obtain rfl := Except.ok.inj done
        rfl

theorem present_of_addEachNested {record last : OpenRecord} {rules : List (Nested ResultMap)}
    (done : addEachNested registry trail shape rows start record rules = .ok last) :
    last.present = record.present := by
  induction rules generalizing record with
  | nil =>
    obtain rfl := Except.ok.inj done
    rfl
  | cons rule rest inductionHypothesis =>
    unfold addEachNested at done
    split at done
    · cases done
    · next between first =>
      exact (inductionHypothesis done).trans (present_of_addNested first)

end DynamicSql.Projection
