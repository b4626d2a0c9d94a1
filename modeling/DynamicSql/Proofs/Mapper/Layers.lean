/-
This file says what result maps have that take over the rules of others. Of a list a rule is taken
over unless the result map has one for its property in the same list. Taking over is associative,
so however long the line is in which result maps extend each other, it does not matter from which
end they are merged: of each list a rule is left out if a nearer result map has one for its
property.
-/

import DynamicSql.Mapper.ResultMap
import Mathlib.Data.List.Fold

namespace DynamicSql.ResultMap

/-! ### Merged rules -/

section

variable {Rule : Type} (property : Rule → String)

/-- None of the rules is for a property. -/
def lacks (name : String) (rules : List Rule) : Bool :=
  rules.all fun rule => property rule != name

@[simp]
theorem lacks_append (name : String) (rules others : List Rule) :
    lacks property name (rules ++ others) =
      (lacks property name rules && lacks property name others) :=
  List.all_append

@[simp]
theorem lacks_nil (name : String) : lacks property name [] = true :=
  rfl

@[simp]
theorem filter_lacks_nil (rules : List Rule) :
    (rules.filter fun rule => lacks property (property rule) []) = rules :=
  List.filter_eq_self.2 fun _ _ => rfl

theorem merge_eq (parent child : List Rule) :
    merge property parent child =
      (parent.filter fun rule => lacks property (property rule) child) ++ child :=
  rfl

/-! ### Rules for a property -/

/-- The rules for a property. -/
def rulesFor (name : String) (rules : List Rule) : List Rule :=
  rules.filter fun rule => property rule == name

theorem rulesFor_eq_nil_iff {name : String} {rules : List Rule} :
    rulesFor property name rules = [] ↔ lacks property name rules = true := by
  unfold rulesFor lacks
  rw [List.filter_eq_nil_iff, List.all_eq_true]
  exact forall₂_congr fun rule _ => by rw [bne, Bool.not_eq_true', Bool.not_eq_true]

@[simp]
theorem rulesFor_append (name : String) (rules others : List Rule) :
    rulesFor property name (rules ++ others) =
      rulesFor property name rules ++ rulesFor property name others :=
  List.filter_append ..

/-- For a property the rules of the parent are taken over if the child has none. -/
theorem rulesFor_merge (name : String) (parent child : List Rule) :
    rulesFor property name (merge property parent child) =
      rulesFor property name (if lacks property name child then parent else child) := by
  have taken : rulesFor property name (parent.filter fun rule =>
        lacks property (property rule) child) =
      (rulesFor property name parent).filter fun _ => lacks property name child := by
    unfold rulesFor
    rw [List.filter_filter, List.filter_filter]
    refine List.filter_congr fun rule _ => ?_
    by_cases same : property rule = name
    · rw [same, Bool.and_comm]
    · rw [beq_eq_false_iff_ne.2 same, Bool.false_and, Bool.and_false]
  rw [merge_eq, rulesFor_append, taken]
  cases without : lacks property name child with
  | true =>
    rw [(rulesFor_eq_nil_iff property).2 without, List.append_nil, if_pos rfl]
    exact List.filter_eq_self.2 fun _ _ => rfl
  | false => rw [List.filter_eq_nil_iff.2 fun _ _ => Bool.false_ne_true, List.nil_append,
      if_neg Bool.false_ne_true]

/-- Nothing of the parent is taken over for a property exactly if the child has a rule for it in the
list or the parent has none. -/
theorem rulesFor_merge_eq_iff (name : String) (parent child : List Rule) :
    rulesFor property name (merge property parent child) = rulesFor property name child ↔
      (lacks property name child = true → lacks property name parent = true) := by
  rw [rulesFor_merge]
  cases without : lacks property name child with
  | true =>
    rw [if_pos rfl, (rulesFor_eq_nil_iff property).2 without, rulesFor_eq_nil_iff]
    exact ⟨fun lacking _ => lacking, fun lacking => lacking rfl⟩
  | false => exact iff_of_true rfl fun impossible => absurd impossible Bool.false_ne_true

/-- What is merged has a rule for a property if either part has one. -/
@[simp]
theorem lacks_merge (name : String) (parent child : List Rule) :
    lacks property name (merge property parent child) =
      (lacks property name parent && lacks property name child) := by
  rw [Bool.eq_iff_iff, ← rulesFor_eq_nil_iff, rulesFor_merge, rulesFor_eq_nil_iff]
  cases without : lacks property name child with
  | true => rw [if_pos rfl, Bool.and_true]
  | false => rw [if_neg Bool.false_ne_true, without, Bool.and_false]

/-- The last rule that gives something is the last of those for a property, if no others give
anything. -/
theorem findSome?_rulesFor {Result : Type} {name : String} {gives : Rule → Option Result}
    (own : ∀ rule, property rule ≠ name → gives rule = none) (rules : List Rule) :
    (rulesFor property name rules).reverse.findSome? gives = rules.reverse.findSome? gives := by
  induction rules with
  | nil => rfl
  | cons rule rest inductionHypothesis =>
    unfold rulesFor at inductionHypothesis ⊢
    rw [List.reverse_cons, List.findSome?_append, List.filter_cons]
    split
    · rw [List.reverse_cons, List.findSome?_append, inductionHypothesis]
    · next other =>
      rw [List.findSome?_singleton, own rule fun same => other (beq_iff_eq.2 same), Option.or_none,
        inductionHypothesis]

/-! ### Layers -/

theorem merge_assoc (first second third : List Rule) :
    merge property (merge property first second) third =
      merge property first (merge property second third) := by
  simp only [merge_eq property first (merge property second third), lacks_merge]
  simp only [merge_eq, List.filter_append, List.filter_filter, List.append_assoc, Bool.and_comm]

/-- The rules of lists, those of the last one first. Of each list the rules are left out for whose
properties there is a nearer rule, in a list before it or among `nearer`. -/
def layered (nearer : List Rule) : List (List Rule) → List Rule
  | [] => []
  | rules :: older => layered (nearer ++ rules) older ++
      rules.filter fun rule => lacks property (property rule) nearer

/-- Nearer rules leave out what there would be without them. -/
theorem layered_eq_filter (nearer : List Rule) (lists : List (List Rule)) :
    layered property nearer lists =
      (layered property [] lists).filter fun rule => lacks property (property rule) nearer := by
  induction lists generalizing nearer with
  | nil => rfl
  | cons rules older inductionHypothesis =>
    rw [layered, layered, inductionHypothesis (nearer ++ rules),
      inductionHypothesis ([] ++ rules), List.filter_append, List.filter_filter,
      List.filter_filter]
    simp only [lacks_append, List.nil_append, lacks_nil, Bool.and_true]

/-- Merging layers with nearer rules is one more layer. -/
theorem merge_layered (own : List Rule) (lists : List (List Rule)) :
    merge property (layered property [] lists) own = layered property [] (own :: lists) := by
  rw [merge_eq, ← layered_eq_filter, layered, List.nil_append, filter_lacks_nil]

end

/-! ### Result maps in a line -/

theorem inherit_assoc (first second third : ResultMap) :
    (first.inherit second).inherit third = first.inherit (second.inherit third) := by
  unfold inherit
  simp only [merge_assoc, Option.or_assoc]

instance : Std.Associative ResultMap.inherit := ⟨inherit_assoc⟩

/-- A result map with the rules of those that it extends, the nearest first: everything but its type
and its rules is its own, and it extends no other one any more. -/
def flattened (map : ResultMap) (older : List ResultMap) : ResultMap where
  namespaceName := map.namespaceName
  id := map.id
  typeName := (map :: older).findSome? ResultMap.typeName
  extended := none
  autoMapping := map.autoMapping
  ids := layered Mapping.property [] ((map :: older).map ResultMap.ids)
  results := layered Mapping.property [] ((map :: older).map ResultMap.results)
  nested := layered Nested.property [] ((map :: older).map ResultMap.nested)

@[simp]
theorem layered_singleton {Rule : Type} (property : Rule → String) (rules : List Rule) :
    layered property [] [rules] = rules := by
  rw [layered, layered, List.nil_append, filter_lacks_nil]

theorem flattened_nil {map : ResultMap} (ends : map.extended = none) : map.flattened [] = map := by
  obtain ⟨namespaceName, id, typeName, extended, autoMapping, ids, results, nested⟩ := map
  obtain rfl : extended = none := ends
  unfold flattened
  simp only [List.map_cons, List.map_nil, layered_singleton, List.findSome?_singleton]

theorem inherit_flattened (map parent : ResultMap) (older : List ResultMap) :
    map.inherit (parent.flattened older) = map.flattened (parent :: older) := by
  have typeNames : (map :: parent :: older).findSome? ResultMap.typeName =
      map.typeName.or ((parent :: older).findSome? ResultMap.typeName) := by
    rw [List.findSome?_cons]
    cases map.typeName <;> rfl
  unfold inherit flattened
  simp only [merge_layered, List.map_cons, typeNames]

/-- Merging from the root on: each result map takes over what the one before it has taken over. -/
theorem foldr_inherit_eq_flattened {nearer : List ResultMap} {root : ResultMap}
    (ends : root.extended = none) {map : ResultMap} {older : List ResultMap}
    (line : map :: older = nearer ++ [root]) :
    nearer.foldr inherit root = map.flattened older := by
  induction nearer generalizing map older with
  | nil =>
    obtain ⟨rfl, rfl⟩ := List.cons.inj line
    exact (flattened_nil ends).symm
  | cons first rest inductionHypothesis =>
    rw [List.cons_append] at line
    obtain ⟨rfl, rfl⟩ := List.cons.inj line
    cases isRest : rest ++ [root] with
    | nil => exact absurd isRest (List.append_ne_nil_of_right_ne_nil rest (List.cons_ne_nil _ _))
    | cons next later =>
      rw [List.foldr_cons, inductionHypothesis isRest.symm, inherit_flattened]

/-- Merging from the result map on: it takes over the rules of one after the other. -/
theorem foldl_inherit_eq_flattened {nearer : List ResultMap} {root : ResultMap}
    (ends : root.extended = none) {map : ResultMap} {older : List ResultMap}
    (line : map :: older = nearer ++ [root]) : older.foldl inherit map = map.flattened older := by
  rw [← foldr_inherit_eq_flattened ends line]
  cases nearer with
  | nil =>
    obtain ⟨rfl, rfl⟩ := List.cons.inj line
    rfl
  | cons first rest =>
    rw [List.cons_append] at line
    obtain ⟨rfl, rfl⟩ := List.cons.inj line
    rw [List.foldl_append, List.foldr_cons]
    exact List.foldl1_eq_foldr1

end DynamicSql.ResultMap
