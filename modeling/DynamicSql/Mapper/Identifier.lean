/-
This file joins and splits the identifiers of statements, result maps and fragments. A qualified
identifier is a namespace and a local identifier with a point between; namespaces may hold points
themselves, so the last point is the one that counts.
-/

import DynamicSql.Text.Split

namespace DynamicSql.Identifier

/-- A namespace and a local identifier joined. -/
def qualify (namespaceName id : String) : String :=
  namespaceName ++ "." ++ id

/-- The namespace and the local identifier of a qualified identifier, neither of them empty. -/
def split? (id : String) : Option (String × String) :=
  match Text.cutLast? '.' id.toList with
  | some (namespaceName, localId) =>
    if namespaceName.isEmpty || localId.isEmpty then none
    else some (String.ofList namespaceName, String.ofList localId)
  | none => none

/-- The qualified identifier that a reference made within a namespace means. -/
def resolve (namespaceName reference : String) : String :=
  match split? reference with
  | some _ => reference
  | none => qualify namespaceName reference

/-- The parts of an identifier joined again are the identifier. -/
theorem qualify_of_split? {id namespaceName localId : String}
    (split : split? id = some (namespaceName, localId)) : qualify namespaceName localId = id := by
  unfold split? at split
  split at split
  · next namespaceText localText cut =>
    split at split
    · simp at split
    · obtain ⟨rfl, rfl⟩ : String.ofList namespaceText = namespaceName ∧
        String.ofList localText = localId := by simpa using split
      apply String.toList_inj.1
      rw [Text.cutLast?_eq cut]
      simp [qualify]
  · simp at split

@[simp]
theorem toList_qualify (namespaceName localId : String) :
    (qualify namespaceName localId).toList = namespaceName.toList ++ '.' :: localId.toList := by
  simp [qualify]

/-- No point stands in the local part of an identifier, and neither part is empty. -/
theorem parts_of_split? {id namespaceName localId : String}
    (split : split? id = some (namespaceName, localId)) :
    namespaceName ≠ "" ∧ localId ≠ "" ∧ '.' ∉ localId.toList := by
  unfold split? at split
  split at split
  · next namespaceText localText cut =>
    split at split
    · cases split
    · next filled =>
      obtain ⟨rfl, rfl⟩ := Prod.mk.inj (Option.some.inj split)
      simp only [Bool.or_eq_true, List.isEmpty_iff, not_or] at filled
      refine ⟨?_, ?_, ?_⟩
      · simpa using filled.1
      · simpa using filled.2
      · simpa using Text.not_mem_of_cutLast? cut
  · cases split

/-- A namespace and a local identifier that are joined are parted again if neither is empty and no
point stands in the local one. -/
theorem split?_qualify {namespaceName localId : String} (named : namespaceName ≠ "")
    (filled : localId ≠ "") (plain : '.' ∉ localId.toList) :
    split? (qualify namespaceName localId) = some (namespaceName, localId) := by
  unfold split?
  rw [toList_qualify, Text.cutLast?_append plain]
  simp [named, filled]

end DynamicSql.Identifier
