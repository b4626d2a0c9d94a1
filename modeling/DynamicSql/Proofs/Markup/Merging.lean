/-
This file says what it means that contents differ only in how their texts are cut up. Merging joins
texts that stand side by side, and leaves out empty ones, at every depth; contents that merge to the
same differ in nothing else. What contents merge to with others behind them depends only on what
each of both merge to.
-/

import DynamicSql.Markup.Element

namespace DynamicSql.Markup

/-! ### Merging -/

/-- Contents with a text in front, joined to a text that they begin with. An empty text is left
out. -/
def joinText (text : String) : List Content → List Content
  | .text next :: rest => .text (text ++ next) :: rest
  | contents => if text = "" then contents else .text text :: contents

mutual

/-- Contents with adjacent texts joined and empty ones left out, at every depth. -/
def merged : List Content → List Content
  | [] => []
  | content :: rest => content.mergedBefore (merged rest)

/-- Merged contents with one more content in front. -/
def Content.mergedBefore : Content → List Content → List Content
  | .text text, later => joinText text later
  | .element tag children, later => .element tag (merged children) :: later

end

example : merged [.text "a", .text "", .element ⟨"b", []⟩ [.text ""], .text "", .text "c",
    .text "d"] = [.text "a", .element ⟨"b", []⟩ [], .text "cd"] := by rfl

/-! ### Texts in front -/

@[simp]
theorem joinText_empty (contents : List Content) : joinText "" contents = contents := by
  unfold joinText
  split
  · rw [String.empty_append]
  · rfl

theorem joinText_nil {text : String} (filled : text ≠ "") : joinText text [] = [.text text] := by
  simp only [joinText, if_neg filled]

theorem joinText_element (text : String) (tag : Tag) (children rest : List Content) :
    joinText text (.element tag children :: rest) =
      joinText text [] ++ .element tag children :: rest := by
  by_cases empty : text = ""
  · simp only [joinText, if_pos empty, List.nil_append]
  · simp only [joinText, if_neg empty, List.singleton_append]

/-- Joining one text and then another in front joins both in front. -/
@[simp]
theorem joinText_joinText (first second : String) (contents : List Content) :
    joinText first (joinText second contents) = joinText (first ++ second) contents := by
  by_cases empty : second = ""
  · rw [empty, joinText_empty, String.append_empty]
  · have filled : ¬ first ++ second = "" := fun both => empty (String.append_eq_empty_iff.1 both).2
    match contents with
    | [] => simp only [joinText, if_neg empty, if_neg filled]
    | .element tag children :: rest => simp only [joinText, if_neg empty, if_neg filled]
    | .text next :: rest => simp only [joinText, String.append_assoc]

/-! ### Merging side by side -/

theorem merged_append (contents others : List Content) :
    merged (contents ++ others) = contents.foldr Content.mergedBefore (merged others) := by
  induction contents with
  | nil => rfl
  | cons content rest inductionHypothesis =>
    rw [List.cons_append, merged, inductionHypothesis, List.foldr_cons]

/-- Merging what stands in front makes no difference to what it is merged with. -/
@[simp]
theorem foldr_joinText (text : String) (contents later : List Content) :
    (joinText text contents).foldr Content.mergedBefore later =
      joinText text (contents.foldr Content.mergedBefore later) := by
  by_cases empty : text = ""
  · rw [empty, joinText_empty, joinText_empty]
  · have front : ∀ contents, (Content.text text :: contents).foldr Content.mergedBefore later =
        joinText text (contents.foldr Content.mergedBefore later) := fun _ => rfl
    match contents with
    | [] => rw [← front, joinText_nil empty]
    | .element tag children :: rest => rw [← front, joinText_element, joinText_nil empty]; rfl
    | .text next :: rest => exact (joinText_joinText text next _).symm

theorem merged_eq_foldr (contents : List Content) :
    merged contents = contents.foldr Content.mergedBefore [] := by
  rw [← List.append_nil contents, merged_append, List.append_nil]
  rfl

/-- In front of others, merged contents come to the same as they come to before merging. -/
@[simp]
theorem foldr_merged (contents later : List Content) :
    (merged contents).foldr Content.mergedBefore later =
      contents.foldr Content.mergedBefore later := by
  match contents with
  | [] => rfl
  | .text text :: rest =>
    rw [merged, Content.mergedBefore, foldr_joinText, foldr_merged rest]
    rfl
  | .element tag children :: rest =>
    have inside : merged (merged children) = merged children := by
      rw [merged_eq_foldr (merged children), foldr_merged children, ← merged_eq_foldr]
    rw [merged, Content.mergedBefore, List.foldr_cons, List.foldr_cons, foldr_merged rest,
      Content.mergedBefore, Content.mergedBefore, inside]

/-- What is merged is left alone by merging. -/
@[simp]
theorem merged_merged (contents : List Content) : merged (merged contents) = merged contents := by
  rw [merged_eq_foldr (merged contents), foldr_merged, ← merged_eq_foldr]

end DynamicSql.Markup
