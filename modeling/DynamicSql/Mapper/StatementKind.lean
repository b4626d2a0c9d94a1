/-
This file holds the four kinds of mapped statements, each named like the element that declares it.
-/

namespace DynamicSql

/-- The kind of a mapped statement. -/
inductive StatementKind where
  | select
  | insert
  | update
  | delete
  deriving DecidableEq

namespace StatementKind

/-- The name of the element that declares statements of a kind. -/
def name : StatementKind → String
  | .select => "select"
  | .insert => "insert"
  | .update => "update"
  | .delete => "delete"

/-- The kind that an element declares. -/
def ofName? (name : String) : Option StatementKind :=
  if name = "select" then some .select
  else if name = "insert" then some .insert
  else if name = "update" then some .update
  else if name = "delete" then some .delete
  else none

/-- Selects read; the other kinds write. -/
def isSelect : StatementKind → Bool
  | .select => true
  | _ => false

@[simp]
theorem ofName?_name (kind : StatementKind) : ofName? kind.name = some kind := by
  cases kind <;> decide

theorem name_of_ofName? {name : String} {kind : StatementKind} (named : ofName? name = some kind) :
    kind.name = name := by
  unfold ofName? at named
  repeat' split at named
  all_goals simp_all [StatementKind.name, eq_comm]

theorem ofName?_eq_some_iff {name : String} {kind : StatementKind} :
    ofName? name = some kind ↔ name = kind.name :=
  ⟨fun named => (name_of_ofName? named).symm, fun same => same ▸ ofName?_name kind⟩

end StatementKind

end DynamicSql
