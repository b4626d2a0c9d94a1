/-
This file says what strict equality is for collections, without sorting anything: lists are equal
item by item, and maps and records if they have equally many entries and each entry of one is found
under its name in the other, with an equal value. Names stand at most once in a map. Equality does
not depend on which of two values is named first.
-/

import DynamicSql.Value.Comparison
import Mathlib.Data.List.Forall2
import Mathlib.Data.List.Perm.Subperm

namespace DynamicSql

/-! ### Floating-point numbers -/

namespace Number.Binary64

/-- The order of two numbers, the second named first. -/
theorem compare?_swap (left right : Binary64) :
    left.compare? right = (right.compare? left).map Ordering.swap := by
  cases left with
  | nan => cases right <;> rfl
  | infinite negative =>
    cases right with
    | nan => rfl
    | infinite other => exact congrArg some Std.OrientedOrd.eq_swap
    | finite other => cases negative <;> rfl
  | finite number =>
    cases right with
    | nan => rfl
    | infinite other => cases other <;> rfl
    | finite other => exact congrArg some Std.OrientedOrd.eq_swap

theorem equals_comm (left right : Binary64) : left.equals right = right.equals left := by
  rw [equals, equals, compare?_swap]
  cases right.compare? left with
  | none => rfl
  | some order => cases order <;> rfl

end Number.Binary64

namespace Value

/-! ### Which value is named first -/

mutual

theorem agrees_comm (left right : Value) : agrees left right = agrees right left := by
  cases left with
  | null => cases right <;> rfl
  | bool value =>
    cases right with
    | bool other => exact Bool.beq_comm
    | _ => rfl
  | int32 value =>
    cases right with
    | int32 other => exact Bool.beq_comm
    | _ => rfl
  | int64 value =>
    cases right with
    | int64 other => exact Bool.beq_comm
    | _ => rfl
  | float value =>
    cases right with
    | float other => exact value.equals_comm other
    | _ => rfl
  | string text =>
    cases right with
    | string other => exact Bool.beq_comm
    | _ => rfl
  | date day =>
    cases right with
    | date other => exact Bool.beq_comm
    | _ => rfl
  | dateTime moment =>
    cases right with
    | dateTime other => exact Bool.beq_comm
    | _ => rfl
  | list items =>
    cases right with
    | list others => exact itemsAgree_comm items others
    | _ => rfl
  | map entries =>
    cases right with
    | map others => exact entriesAgree_comm entries others
    | _ => rfl
  | record typeName fields =>
    cases right with
    | record otherName others =>
      exact congrArg₂ (· && ·) Bool.beq_comm (entriesAgree_comm fields others)
    | _ => rfl

theorem itemsAgree_comm (left right : List Value) :
    itemsAgree left right = itemsAgree right left := by
  cases left with
  | nil => cases right <;> rfl
  | cons item rest =>
    cases right with
    | nil => rfl
    | cons other others =>
      rw [itemsAgree, itemsAgree, agrees_comm item other, itemsAgree_comm rest others]

theorem entriesAgree_comm (left right : List (String × Value)) :
    entriesAgree left right = entriesAgree right left := by
  cases left with
  | nil => cases right <;> rfl
  | cons entry rest =>
    cases right with
    | nil => rfl
    | cons other others =>
      rw [entriesAgree, entriesAgree, Bool.beq_comm, agrees_comm entry.2 other.2,
        entriesAgree_comm rest others]

end

theorem equals_comm (left right : Value) : equals left right = equals right left :=
  agrees_comm (sorted left) (sorted right)

/-! ### Entries and their names -/

section Entries

variable {Entry : Type} {left right : Fields Entry}

@[simp]
theorem names_cons (entry : String × Entry) (rest : Fields Entry) :
    Fields.names (entry :: rest) = entry.1 :: Fields.names rest :=
  rfl

/-- Entries that are related one by one have the same names in the same order, and each is related
to the entry of its name. -/
theorem forall₂_entries_iff (related : Entry → Entry → Prop)
    (distinct : (Fields.names right).Nodup) :
    List.Forall₂ (fun entry other => entry.1 = other.1 ∧ related entry.2 other.2) left right ↔
      Fields.names left = Fields.names right ∧
        ∀ entry ∈ left, ∃ other,
          Fields.get? entry.1 right = some other ∧ related entry.2 other := by
  induction left generalizing right with
  | nil => cases right <;> simp [Fields.names]
  | cons entry rest inductionHypothesis =>
    obtain _ | ⟨other, others⟩ := right
    · simp [Fields.names]
    obtain ⟨absent, distinct⟩ := List.nodup_cons.1 distinct
    -- The first name comes once only, so behind it nothing is found at the front.
    have behind (same : Fields.names rest = Fields.names others) :
        ∀ later ∈ rest, Fields.get? later.1 (other :: others) = Fields.get? later.1 others := by
      intro later member
      refine if_neg fun equal => absent ?_
      rw [equal, ← Fields.names, ← same]
      exact List.mem_map_of_mem member
    rw [List.forall₂_cons, inductionHypothesis distinct, List.forall_mem_cons, names_cons,
      names_cons, List.cons.injEq]
    constructor
    · rintro ⟨⟨sameName, isRelated⟩, same, found⟩
      refine ⟨⟨sameName, same⟩, ⟨other.2, if_pos sameName.symm, isRelated⟩, ?_⟩
      intro later member
      rw [behind same later member]
      exact found later member
    · rintro ⟨⟨sameName, same⟩, ⟨first, isFirst, isRelated⟩, found⟩
      obtain rfl : other.2 = first := by
        rw [Fields.get?, if_pos sameName.symm] at isFirst
        exact Option.some.inj isFirst
      refine ⟨⟨sameName, isRelated⟩, same, fun later member => ?_⟩
      rw [← behind same later member]
      exact found later member

/-- What is found under a name does not depend on the order of the entries. -/
theorem get?_of_perm (perm : left.Perm right) (distinct : (Fields.names right).Nodup)
    (name : String) : Fields.get? name left = Fields.get? name right := by
  have distinctLeft : (Fields.names left).Nodup := (perm.map Prod.fst).nodup_iff.2 distinct
  refine Option.ext fun entry => ⟨fun found => ?_, fun found => ?_⟩
  · exact Fields.get?_of_mem distinct (perm.mem_iff.1 (Fields.mem_of_get? found))
  · exact Fields.get?_of_mem distinctLeft (perm.mem_iff.2 (Fields.mem_of_get? found))

/-- As many distinct names, all of them found among others, are the others in some order. -/
theorem names_perm_iff (distinct : (Fields.names left).Nodup)
    (found : ∀ entry ∈ left, ∃ other, Fields.get? entry.1 right = some other) :
    (Fields.names left).Perm (Fields.names right) ↔ left.length = right.length := by
  constructor
  · intro perm
    simpa [Fields.names] using perm.length_eq
  · intro sameLength
    have among : Fields.names left ⊆ Fields.names right := by
      intro name member
      obtain ⟨entry, isEntry, rfl⟩ := List.mem_map.1 member
      obtain ⟨other, isOther⟩ := found entry isEntry
      exact Fields.mem_names_of_get? isOther
    refine (List.subperm_of_subset distinct among).perm_of_length_le ?_
    simp [Fields.names, sameLength]

end Entries

/-! ### Equality of collections -/

theorem sortEntries_perm (entries : List (String × Value)) : (sortEntries entries).Perm entries :=
  List.mergeSort_perm entries _

theorem pairwise_names_sortEntries (entries : List (String × Value)) :
    (Fields.names (sortEntries entries)).Pairwise (· ≤ ·) := by
  refine List.pairwise_map.2 (List.Pairwise.imp of_decide_eq_true ?_)
  refine List.pairwise_mergeSort (fun first second third below above => ?_)
    (fun first second => ?_) entries
  · exact decide_eq_true (String.le_trans (of_decide_eq_true below) (of_decide_eq_true above))
  · rw [Bool.or_eq_true, decide_eq_true_iff, decide_eq_true_iff]
    exact String.le_total first.1 second.1

/-- In order, the names are the same if they are the same in any order. -/
theorem names_sortEntries_eq_iff {left right : List (String × Value)} :
    Fields.names (sortEntries left) = Fields.names (sortEntries right) ↔
      (Fields.names left).Perm (Fields.names right) := by
  have leftPerm := (sortEntries_perm left).map Prod.fst
  have rightPerm := (sortEntries_perm right).map Prod.fst
  constructor
  · intro same
    exact leftPerm.symm.trans ((List.Perm.of_eq same).trans rightPerm)
  · intro perm
    refine List.Perm.eq_of_pairwise (fun first second _ _ => String.le_antisymm)
      (pairwise_names_sortEntries left) (pairwise_names_sortEntries right) ?_
    exact leftPerm.trans (perm.trans rightPerm.symm)

theorem sortedItems_eq_map (items : List Value) : sortedItems items = items.map sorted := by
  induction items with
  | nil => rfl
  | cons item rest inductionHypothesis => rw [sortedItems, inductionHypothesis, List.map_cons]

theorem sortedEntries_eq_map (entries : List (String × Value)) :
    sortedEntries entries = entries.map fun entry => (entry.1, sorted entry.2) := by
  induction entries with
  | nil => rfl
  | cons entry rest inductionHypothesis => rw [sortedEntries, inductionHypothesis, List.map_cons]

@[simp]
theorem names_sortedEntries (entries : List (String × Value)) :
    Fields.names (sortedEntries entries) = Fields.names entries := by
  rw [sortedEntries_eq_map, Fields.names, Fields.names, List.map_map]
  rfl

@[simp]
theorem get?_sortedEntries (name : String) (entries : List (String × Value)) :
    Fields.get? name (sortedEntries entries) = (Fields.get? name entries).map sorted := by
  induction entries with
  | nil => rfl
  | cons entry rest inductionHypothesis =>
    rw [sortedEntries, Fields.get?, Fields.get?, inductionHypothesis, apply_ite (Option.map sorted)]
    rfl

theorem entriesAgree_iff_forall₂ {left right : List (String × Value)} :
    entriesAgree left right = true ↔
      List.Forall₂ (fun entry other => entry.1 = other.1 ∧ agrees entry.2 other.2 = true)
        left right := by
  induction left generalizing right with
  | nil => cases right <;> simp [entriesAgree]
  | cons entry rest inductionHypothesis =>
    cases right with
    | nil => simp [entriesAgree]
    | cons other others => simp [entriesAgree, inductionHypothesis]

theorem itemsAgree_iff_forall₂ {left right : List Value} :
    itemsAgree left right = true ↔
      List.Forall₂ (fun item other => agrees item other = true) left right := by
  induction left generalizing right with
  | nil => cases right <;> simp [itemsAgree]
  | cons item rest inductionHypothesis =>
    cases right with
    | nil => simp [itemsAgree]
    | cons other others => simp [itemsAgree, inductionHypothesis]

/-- Equally many entries, each of which is found under its name among the others, with an equal
value. -/
def SameEntries (left right : Fields Value) : Prop :=
  left.length = right.length ∧
    ∀ entry ∈ left, ∃ other, Fields.get? entry.1 right = some other ∧ equals entry.2 other = true

/-- Entries put in order agree one by one if they are the same in any order. -/
theorem entriesAgree_sorted_iff {left right : Fields Value}
    (distinctLeft : (Fields.names left).Nodup) (distinctRight : (Fields.names right).Nodup) :
    entriesAgree (sortEntries (sortedEntries left)) (sortEntries (sortedEntries right)) = true ↔
      SameEntries left right := by
  have distinctSorted : (Fields.names (sortedEntries right)).Nodup := by
    rwa [names_sortedEntries]
  have distinctInOrder : (Fields.names (sortEntries (sortedEntries right))).Nodup :=
    ((sortEntries_perm _).map Prod.fst).nodup_iff.2 distinctSorted
  have matched (entry : String × Value) :
      (∃ other, Fields.get? entry.1 (sortEntries (sortedEntries right)) = some other ∧
          agrees (sorted entry.2) other = true) ↔
        ∃ other, Fields.get? entry.1 right = some other ∧ equals entry.2 other = true := by
    rw [get?_of_perm (sortEntries_perm _) distinctSorted, get?_sortedEntries]
    cases Fields.get? entry.1 right <;> simp [equals]
  rw [entriesAgree_iff_forall₂,
    forall₂_entries_iff (fun value other => agrees value other = true) distinctInOrder,
    names_sortEntries_eq_iff, names_sortedEntries, names_sortedEntries, SameEntries]
  simp only [(sortEntries_perm (sortedEntries left)).mem_iff]
  simp only [sortedEntries_eq_map left, List.forall_mem_map, matched]
  refine and_congr_left fun found => names_perm_iff distinctLeft fun entry member => ?_
  obtain ⟨other, isOther, -⟩ := found entry member
  exact ⟨other, isOther⟩

theorem equals_map_iff {left right : Fields Value} (distinctLeft : (Fields.names left).Nodup)
    (distinctRight : (Fields.names right).Nodup) :
    equals (.map left) (.map right) = true ↔ SameEntries left right :=
  entriesAgree_sorted_iff distinctLeft distinctRight

theorem equals_record_iff {left right : Fields Value} (distinctLeft : (Fields.names left).Nodup)
    (distinctRight : (Fields.names right).Nodup) (typeName otherName : Option String) :
    equals (.record typeName left) (.record otherName right) = true ↔
      typeName = otherName ∧ SameEntries left right := by
  rw [← entriesAgree_sorted_iff distinctLeft distinctRight, ← beq_iff_eq (a := typeName),
    ← Bool.and_eq_true_iff]
  rfl

theorem equals_list_iff {left right : List Value} :
    equals (.list left) (.list right) = true ↔
      List.Forall₂ (fun item other => equals item other = true) left right := by
  rw [equals, sorted, sorted, agrees, itemsAgree_iff_forall₂, sortedItems_eq_map,
    sortedItems_eq_map, List.forall₂_map_left_iff, List.forall₂_map_right_iff]
  rfl

end Value

end DynamicSql
