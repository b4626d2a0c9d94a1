/-
This file holds chains of identifiers: fragments that include each other, result maps that extend
each other. A chain never holds an identifier twice, so it can only grow while some identifier is
outside of it; `length_outside_lt` is what the recursions along chains end by.
-/

namespace DynamicSql.Chain

/-- The identifiers of a list that are not on a chain. -/
def outside (chain ids : List String) : List String :=
  ids.filter fun id => !chain.contains id

theorem length_outside_le (chain ids : List String) (id : String) :
    (outside (chain ++ [id]) ids).length ≤ (outside chain ids).length := by
  induction ids with
  | nil => exact Nat.le_refl _
  | cons first rest inductionHypothesis =>
    by_cases known : first ∈ chain
    · simpa [outside, known] using inductionHypothesis
    · by_cases same : first = id
      · subst same
        have step : (outside (chain ++ [first]) rest).length ≤
            (outside chain rest).length + 1 :=
          Nat.le_succ_of_le inductionHypothesis
        simpa [outside, known] using step
      · simpa [outside, known, same] using inductionHypothesis

/-- A chain that grows by one of the identifiers leaves fewer outside. -/
theorem length_outside_lt {chain ids : List String} {id : String} (member : id ∈ ids)
    (fresh : id ∉ chain) :
    (outside (chain ++ [id]) ids).length < (outside chain ids).length := by
  induction ids with
  | nil => simp at member
  | cons first rest inductionHypothesis =>
    by_cases same : first = id
    · subst same
      have step := Nat.lt_succ_of_le (length_outside_le chain rest first)
      simpa [outside, fresh] using step
    · have later : id ∈ rest := by
        rcases List.mem_cons.1 member with equal | later
        · exact absurd equal.symm same
        · exact later
      by_cases known : first ∈ chain
      · simpa [outside, known] using inductionHypothesis later
      · simpa [outside, known, same] using inductionHypothesis later

/-- A cycle as messages show it: the chain and the identifier that closes it. -/
def cycleText (chain : List String) (id : String) : String :=
  " -> ".intercalate (chain ++ [id])

end DynamicSql.Chain
