/-
This file says that a fragment from outside, which is kept as markup, contributes to a template what
its contents would contribute if they stood in the place of the include. What is read from the
markup are the contents merged. Compiling joins the texts between elements anyway, and passes over
texts between branches, so it comes to the same.
-/

import DynamicSql.Proofs.Document.Inlining
import DynamicSql.Proofs.Markup.RoundTrip

namespace DynamicSql.Document

open Markup (AreWellNamed Content Element Tag joinText merged)
open Template (Node)

/-! ### Compiling merged contents -/

@[simp]
theorem compileEach_joinText (pending text : String) (contents : List Content) :
    compileEach pending (joinText text contents) = compileEach (pending ++ text) contents := by
  by_cases empty : text = ""
  · rw [empty, Markup.joinText_empty, String.append_empty]
  · have front : ∀ rest, compileEach pending (.text text :: rest) =
        compileEach (pending ++ text) rest := fun rest => by rw [compileEach]
    match contents with
    | [] => rw [Markup.joinText_nil empty, front]
    | .element tag children :: rest =>
      rw [Markup.joinText_element, Markup.joinText_nil empty, List.singleton_append, front]
    | .text next :: rest => rw [joinText, compileEach, compileEach, String.append_assoc]

@[simp]
theorem compileBranches_joinText (otherwise : Option Node) (text : String)
    (contents : List Content) :
    compileBranches otherwise (joinText text contents) = compileBranches otherwise contents := by
  by_cases empty : text = ""
  · rw [empty, Markup.joinText_empty]
  · have front : ∀ rest, compileBranches otherwise (.text text :: rest) =
        compileBranches otherwise rest := fun rest => by rw [compileBranches]
    match contents with
    | [] => rw [Markup.joinText_nil empty, front]
    | .element tag children :: rest =>
      rw [Markup.joinText_element, Markup.joinText_nil empty, List.singleton_append, front]
    | .text next :: rest => rw [joinText, compileBranches, compileBranches]

/-- A text stands among contents that is not blank. -/
def hasInk (contents : List Content) : Bool :=
  (Markup.strayTextOf? contents).isSome

@[simp]
theorem hasInk_text (text : String) (rest : List Content) :
    hasInk (.text text :: rest) = (!Text.isAllBlank text.toList || hasInk rest) := by
  cases blank : Text.isAllBlank text.toList with
  | true => simp [hasInk, Markup.strayTextOf?, blank]
  | false => simp [hasInk, Markup.strayTextOf?, blank]

@[simp]
theorem hasInk_element (tag : Tag) (children rest : List Content) :
    hasInk (.element tag children :: rest) = hasInk rest := rfl

@[simp]
theorem hasInk_joinText (text : String) (contents : List Content) :
    hasInk (joinText text contents) = (!Text.isAllBlank text.toList || hasInk contents) := by
  by_cases empty : text = ""
  · rw [empty, Markup.joinText_empty]
    rfl
  · match contents with
    | [] => rw [Markup.joinText_nil empty, hasInk_text]
    | .element tag children :: rest =>
      rw [Markup.joinText_element, Markup.joinText_nil empty, List.singleton_append, hasInk_text]
    | .text next :: rest =>
      rw [joinText, hasInk_text, hasInk_text, String.toList_append, Text.isAllBlank,
        List.all_append, Bool.not_and, Bool.or_assoc]
      rfl

@[simp]
theorem hasInk_merged (contents : List Content) : hasInk (merged contents) = hasInk contents := by
  induction contents with
  | nil => rfl
  | cons content rest inductionHypothesis =>
    cases content with
    | text text => simp [merged, Content.mergedBefore, inductionHypothesis]
    | element tag children => simp [merged, Content.mergedBefore, inductionHypothesis]

/-- What fails on a text that is not blank fails on it after merging. -/
theorem sameResult_unlessInk (contents : List Content) (fault : String → BodyFault)
    {first second : Except BodyFault Node} (same : SameResult first second) :
    SameResult
      (match Markup.strayTextOf? (merged contents) with
        | some text => .error (fault text)
        | none => first)
      (match Markup.strayTextOf? contents with
        | some text => .error (fault text)
        | none => second) := by
  have sameInk := hasInk_merged contents
  unfold hasInk at sameInk
  cases isMerged : Markup.strayTextOf? (merged contents) with
  | none =>
    cases isText : Markup.strayTextOf? contents with
    | none => exact same
    | some text =>
      rw [isMerged, isText] at sameInk
      cases sameInk
  | some mergedText =>
    cases isText : Markup.strayTextOf? contents with
    | none =>
      rw [isMerged, isText] at sameInk
      cases sameInk
    | some text => exact sameResult_error _ _

mutual

theorem sameResult_compileEach (pending : String) (contents : List Content) :
    SameResult (compileEach pending (merged contents)) (compileEach pending contents) := by
  match contents with
  | [] => exact .refl _
  | .text text :: rest =>
    rw [merged, Content.mergedBefore, compileEach_joinText, compileEach]
    exact sameResult_compileEach (pending ++ text) rest
  | .element tag children :: rest =>
    rw [merged, Content.mergedBefore, compileEach, compileEach]
    refine (SameResult.refl _).bind fun before => ?_
    refine (sameResult_compileContent tag children).bind fun node => ?_
    exact (sameResult_compileEach "" rest).bind fun after => .refl _

theorem sameResult_compileContent (tag : Tag) (children : List Content) :
    SameResult (compileContent (.element tag (merged children)))
      (compileContent (.element tag children)) := by
  have sameEach := sameResult_compileEach "" children
  have sameBranches := sameResult_compileBranches none children
  unfold compileContent
  split
  · exact (SameResult.refl _).bind fun test => sameEach.bind fun nodes => .refl _
  · exact sameEach.map _
  · exact sameEach.map _
  · exact sameEach.map _
  · exact (SameResult.refl _).bind fun collection => sameEach.bind fun nodes => .refl _
  · refine sameResult_unlessInk children _ (sameBranches.bind fun choice => ?_)
    exact .refl _
  · exact sameResult_unlessInk children _ (.refl _)
  · exact .refl _
  · exact .refl _
  · exact .refl _

theorem sameResult_compileBranches (otherwise : Option Node) (contents : List Content) :
    SameResult (compileBranches otherwise (merged contents))
      (compileBranches otherwise contents) := by
  match contents with
  | [] => exact .refl _
  | .text text :: rest =>
    rw [merged, Content.mergedBefore, compileBranches_joinText, compileBranches]
    exact sameResult_compileBranches otherwise rest
  | .element tag children :: rest =>
    have sameEach := sameResult_compileEach "" children
    rw [merged, Content.mergedBefore]
    unfold compileBranches
    split
    · refine (SameResult.refl _).bind fun test => sameEach.bind fun nodes => ?_
      exact (sameResult_compileBranches none rest).bind fun choice => .refl _
    · exact sameEach.bind fun nodes => sameResult_compileBranches _ rest
    · exact .refl _
    · exact .refl _
    · exact .refl _

end

/-- Merged contents have the same template, if they have one. -/
theorem sameResult_compile (contents : List Content) :
    SameResult (compile (merged contents)) (compile contents) :=
  (sameResult_compileEach "" contents).map gather

/-! ### Expanding side by side -/

section

variable {replace : Tag → List Content → Except IncludeFault (List Content)}
  {properties : Properties}

theorem expandEach_append (contents others : List Content) :
    expandEach replace properties (contents ++ others) =
      expandEach replace properties contents >>= fun first =>
        expandEach replace properties others >>= fun later => .ok (first ++ later) := by
  induction contents with
  | nil =>
    rw [List.nil_append, expandEach]
    cases expandEach replace properties others with
    | error fault => rfl
    | ok later => rfl
  | cons content rest inductionHypothesis =>
    rw [List.cons_append, expandEach, expandEach, inductionHypothesis]
    cases expandContent replace properties content with
    | error fault => rfl
    | ok first =>
      cases expandEach replace properties rest with
      | error fault => rfl
      | ok second =>
        cases expandEach replace properties others with
        | error fault => rfl
        | ok later => exact congrArg Except.ok (List.append_assoc first second later).symm

/-- What contents come to merged, with others behind them, depends only on what each of both come
to merged. -/
theorem map_merged_expandEach_append (contents others : List Content) :
    (expandEach replace properties (contents ++ others)).map merged =
      (expandEach replace properties contents).map merged >>= fun first =>
        (expandEach replace properties others).map merged >>= fun later =>
          .ok (first.foldr Content.mergedBefore later) := by
  rw [expandEach_append]
  cases expandEach replace properties contents with
  | error fault => rfl
  | ok first =>
    cases expandEach replace properties others with
    | error fault => rfl
    | ok later =>
      refine congrArg Except.ok ?_
      rw [Markup.foldr_merged, Markup.merged_append]

theorem sameResult_expandEach_append {contents others first second : List Content}
    (same : SameResult ((expandEach replace properties contents).map merged)
      ((expandEach replace properties others).map merged))
    (alike : SameResult ((expandEach replace properties first).map merged)
      ((expandEach replace properties second).map merged)) :
    SameResult ((expandEach replace properties (contents ++ first)).map merged)
      ((expandEach replace properties (others ++ second)).map merged) := by
  rw [map_merged_expandEach_append, map_merged_expandEach_append]
  exact same.bind fun _ => alike.bind fun _ => .refl _

theorem sameResult_expandEach_cons (content : Content) {first second : List Content}
    (alike : SameResult ((expandEach replace properties first).map merged)
      ((expandEach replace properties second).map merged)) :
    SameResult ((expandEach replace properties ([content] ++ first)).map merged)
      ((expandEach replace properties ([content] ++ second)).map merged) :=
  sameResult_expandEach_append (.refl _) alike

theorem sameResult_expandEach_element {tag : Tag} {children others : List Content}
    (same : SameResult ((expandEach replace properties children).map merged)
      ((expandEach replace properties others).map merged)) (other : tag.name ≠ "include") :
    SameResult ((expandEach replace properties [.element tag children]).map merged)
      ((expandEach replace properties [.element tag others]).map merged) := by
  have alone : ∀ contents, (expandEach replace properties [.element tag contents]).map merged =
      (expandEach replace properties contents).map merged >>= fun inner =>
        .ok [.element (substituteTag properties tag) inner] := by
    intro contents
    rw [expandEach, expandContent, if_neg other]
    cases expandEach replace properties contents with
    | error fault => rfl
    | ok inner => rfl
  rw [alone, alone]
  exact same.bind fun _ => .refl _

end

/-! ### Contents without includes -/

@[simp]
theorem substituteTag_nil (tag : Tag) : substituteTag [] tag = tag := by
  simp only [substituteTag, substitute_nil]
  exact congrArg (Tag.mk tag.name) (List.map_id' tag.attributes)

/-- Where there are no includes and no properties, contents expand to themselves. -/
theorem expandEach_includeless (replace : Tag → List Content → Except IncludeFault (List Content))
    (contents : List Content) (includeless : includesAmong contents = []) :
    expandEach replace [] contents = .ok contents := by
  match contents with
  | [] => rfl
  | .text text :: rest =>
    have first : expandContent replace [] (.text text) = .ok [.text text] := by
      rw [expandContent, substitute_nil]
    exact expandEach_cons first (expandEach_includeless replace rest includeless)
  | .element tag children :: rest =>
    rw [includesAmong, includesOf] at includeless
    obtain ⟨none, noneBehind⟩ := List.append_eq_nil_iff.1 includeless
    by_cases named : tag.name = "include"
    · rw [if_pos named] at none
      cases none
    · rw [if_neg named] at none
      have first := expandContent_element named (expandEach_includeless replace children none)
      rw [substituteTag_nil] at first
      exact expandEach_cons first (expandEach_includeless replace rest noneBehind)

@[simp]
theorem includesAmong_joinText (text : String) (contents : List Content) :
    includesAmong (joinText text contents) = includesAmong contents := by
  by_cases empty : text = ""
  · rw [empty, Markup.joinText_empty]
  · match contents with
    | [] =>
      rw [Markup.joinText_nil empty]
      rfl
    | .element tag children :: rest =>
      rw [Markup.joinText_element, Markup.joinText_nil empty]
      rfl
    | .text next :: rest => rfl

theorem includesAmong_merged (contents : List Content) (includeless : includesAmong contents = []) :
    includesAmong (merged contents) = [] := by
  match contents with
  | [] => rfl
  | .text text :: rest =>
    rw [merged, Content.mergedBefore, includesAmong_joinText]
    exact includesAmong_merged rest includeless
  | .element tag children :: rest =>
    rw [includesAmong, includesOf] at includeless
    obtain ⟨none, noneBehind⟩ := List.append_eq_nil_iff.1 includeless
    rw [merged, Content.mergedBefore, includesAmong, includesOf]
    by_cases named : tag.name = "include"
    · rw [if_pos named] at none
      cases none
    · rw [if_neg named] at none ⊢
      rw [includesAmong_merged children none, includesAmong_merged rest noneBehind]
      rfl

/-! ### Fragments from outside -/

variable {library : Library} {id : String} {contents : List Content}

/-- An identifier leads to a fragment outside of the document that is kept as the markup of
contents; these have been expanded already. -/
structure IsKept (library : Library) (id : String) (contents : List Content) : Prop where
  notOwn : library.own? id = none
  found : library.outside.find? id = some (Markup.toMarkup contents)
  wellNamed : AreWellNamed contents
  includeless : includesAmong contents = []

/-- An include of a fragment from outside is replaced by the contents of the fragment, merged. -/
theorem expandInclude_of_isKept (kept : IsKept library id contents) {chain : List String}
    (fresh : id ∉ chain) {tag : Tag} {children : List Content}
    (refers : includedId library [] tag = .ok id) (childless : Markup.elementsOf children = []) :
    expandInclude library chain [] tag children = .ok (merged contents) := by
  have found : library.find? id = some (.ok (merged contents)) := by
    rw [Library.find?, kept.notOwn, kept.found]
    simp only [Option.map_some, Markup.read_toMarkup kept.wellNamed]
    rfl
  refine expandInclude_eq_ok_iff.2 ⟨id, [], merged contents, refers, fresh, ?_, found, ?_⟩
  · rw [childless]
    rfl
  · rw [expandFrom_eq]
    exact expandEach_includeless _ _ (includesAmong_merged contents kept.includeless)

/-- Contents with some includes of a fragment replaced by other contents, at any depth. -/
inductive Splices (library : Library) (id : String) (contents : List Content) :
    List Content → List Content → Prop
  | nil : Splices library id contents [] []
  | text {rest spliced : List Content} (text : String)
      (later : Splices library id contents rest spliced) :
      Splices library id contents (.text text :: rest) (.text text :: spliced)
  | element {tag : Tag} {children inner rest spliced : List Content}
      (other : tag.name ≠ "include") (inside : Splices library id contents children inner)
      (later : Splices library id contents rest spliced) :
      Splices library id contents (.element tag children :: rest) (.element tag inner :: spliced)
  | kept {tag : Tag} {children rest spliced : List Content} (named : tag.name = "include")
      (later : Splices library id contents rest spliced) :
      Splices library id contents (.element tag children :: rest)
        (.element tag children :: spliced)
  | replaced {tag : Tag} {children rest spliced : List Content} (named : tag.name = "include")
      (childless : Markup.elementsOf children = []) (refers : includedId library [] tag = .ok id)
      (later : Splices library id contents rest spliced) :
      Splices library id contents (.element tag children :: rest) (contents ++ spliced)

/-- Contents in the place of the includes of a fragment that holds them come to the same. -/
theorem sameResult_of_splices (kept : IsKept library id contents) {body spliced : List Content}
    (splices : Splices library id contents body spliced) :
    SameResult ((expand library body).map merged) ((expand library spliced).map merged) := by
  unfold expand
  rw [expandFrom_eq, expandFrom_eq]
  induction splices with
  | nil => exact .refl _
  | text text later inLater =>
    exact sameResult_expandEach_cons (.text text) inLater
  | element other inside later inInside inLater =>
    exact sameResult_expandEach_append (sameResult_expandEach_element inInside other) inLater
  | kept named later inLater => exact sameResult_expandEach_cons (.element _ _) inLater
  | @replaced tag children rest spliced named childless refers later inLater =>
    refine @sameResult_expandEach_append _ _ [.element tag children] contents _ _ ?_ inLater
    have replaced : expandEach (expandInclude library [] []) [] [.element tag children] =
        .ok (merged contents ++ []) := by
      refine expandEach_cons ?_ rfl
      rw [expandContent_include _ _ named]
      exact expandInclude_of_isKept kept List.not_mem_nil refers childless
    rw [replaced, expandEach_includeless _ contents kept.includeless, List.append_nil]
    have same : (Except.ok (merged contents) : Except IncludeFault (List Content)).map merged =
        (Except.ok contents).map merged := congrArg Except.ok (Markup.merged_merged contents)
    rw [same]
    exact .refl _

theorem hasTemplate_iff_merged {body : List Content} {root : Node} :
    HasTemplate library body root ↔
      ∃ expanded, (expand library body).map merged = .ok expanded ∧
        compile expanded = .ok root := by
  constructor
  · rintro ⟨expanded, isExpanded, isRoot⟩
    refine ⟨merged expanded, ?_, (sameResult_compile expanded root).2 isRoot⟩
    rw [isExpanded]
    rfl
  · rintro ⟨expanded, isMerged, isRoot⟩
    obtain ⟨whole, isWhole, rfl⟩ := exists_of_map_eq_ok isMerged
    exact ⟨whole, isWhole, (sameResult_compile whole root).1 isRoot⟩

/-- A body has the same template with contents in the place of the includes of a fragment that holds
them. -/
theorem hasTemplate_splices_iff (kept : IsKept library id contents) {body spliced : List Content}
    (splices : Splices library id contents body spliced) (root : Node) :
    HasTemplate library body root ↔ HasTemplate library spliced root := by
  rw [hasTemplate_iff_merged, hasTemplate_iff_merged]
  have same := sameResult_of_splices kept splices
  constructor
  · rintro ⟨expanded, isExpanded, isRoot⟩
    exact ⟨expanded, (same expanded).1 isExpanded, isRoot⟩
  · rintro ⟨expanded, isExpanded, isRoot⟩
    exact ⟨expanded, (same expanded).2 isExpanded, isRoot⟩

end DynamicSql.Document
