/-
This file says what the templates of a mapper document are made of. Compiling builds every text,
trimming, loop and expression of a template in one way each, so whatever holds of everything that
can be built so holds of the templates of all statements that a document declares. In particular
every text of a template has been read from a source.
-/

import DynamicSql.Proofs.Document.Declaration
import DynamicSql.Proofs.Template.Requirement

namespace DynamicSql

namespace Document

open Markup (Content Element Tag)
open Template (Node Requirement StaticText)

/-! ### Bodies -/

/-- The requirement is met by all that compiling builds. -/
structure Compiles (asked : Requirement) : Prop where
  text : ∀ content, StaticText.IsRead content → asked.text content
  trimming : ∀ tag, asked.trimming (trimmingOf tag)
  header : ∀ tag collection, asked.header (loopOf tag collection)
  expr : ∀ source, asked.expr (Expr.read source)

theorem compiles_textsRead : Compiles Template.textsRead where
  text _ isRead := isRead
  trimming _ := trivial
  header _ _ := trivial
  expr _ := trivial

variable {asked : Requirement}

theorem eachMeets_append {nodes others : List Node} (first : Node.EachMeets asked nodes)
    (second : Node.EachMeets asked others) : Node.EachMeets asked (nodes ++ others) := by
  induction nodes with
  | nil => exact second
  | cons node rest inductionHypothesis => exact ⟨first.1, inductionHypothesis first.2⟩

theorem meets_gather {nodes : List Node} (meets : Node.EachMeets asked nodes) :
    (gather nodes).Meets asked := by
  unfold gather
  split
  · exact meets.1
  · exact meets

theorem meets_textNode (compiles : Compiles asked) {text : String} {node : Node}
    (done : textNode text = .ok node) : node.Meets asked := by
  unfold textNode at done
  split at done
  · next content read =>
    obtain rfl := Except.ok.inj done
    exact compiles.text content ⟨text.toList, read⟩
  · cases done

theorem meets_textNodes (compiles : Compiles asked) {text : String} {nodes : List Node}
    (done : textNodes text = .ok nodes) : Node.EachMeets asked nodes := by
  unfold textNodes at done
  split at done
  · obtain rfl := Except.ok.inj done
    trivial
  · obtain ⟨node, isNode, rfl⟩ := exists_of_map_eq_ok done
    exact ⟨meets_textNode compiles isNode, trivial⟩

theorem meets_bindNode (compiles : Compiles asked) {tag : Tag} {children : List Content}
    {node : Node} (done : bindNode tag children = .ok node) : node.Meets asked := by
  unfold bindNode at done
  split at done
  · cases done
  · obtain ⟨name, -, done⟩ := exists_of_bind_eq_ok done
    obtain ⟨value, -, done⟩ := exists_of_bind_eq_ok done
    obtain rfl := Except.ok.inj done
    exact compiles.expr value

mutual

theorem meets_compileEach (compiles : Compiles asked) (pending : String)
    (contents : List Content) {nodes : List Node}
    (done : compileEach pending contents = .ok nodes) : Node.EachMeets asked nodes := by
  match contents with
  | [] => exact meets_textNodes compiles (by unfold compileEach at done; exact done)
  | .text text :: rest =>
    unfold compileEach at done
    exact meets_compileEach compiles (pending ++ text) rest done
  | .element tag children :: rest =>
    unfold compileEach at done
    obtain ⟨before, isBefore, done⟩ := exists_of_bind_eq_ok done
    obtain ⟨node, isNode, done⟩ := exists_of_bind_eq_ok done
    obtain ⟨after, isAfter, done⟩ := exists_of_bind_eq_ok done
    obtain rfl := Except.ok.inj done
    exact eachMeets_append (meets_textNodes compiles isBefore)
      ⟨meets_compileContent compiles (.element tag children) isNode,
        meets_compileEach compiles "" rest isAfter⟩

theorem meets_compileContent (compiles : Compiles asked) (content : Content) {node : Node}
    (done : compileContent content = .ok node) : node.Meets asked := by
  match content with
  | .text text => exact meets_textNode compiles (by unfold compileContent at done; exact done)
  | .element tag children =>
    unfold compileContent at done
    split at done
    · obtain ⟨test, -, done⟩ := exists_of_bind_eq_ok done
      obtain ⟨nodes, isBody, done⟩ := exists_of_bind_eq_ok done
      obtain rfl := Except.ok.inj done
      exact ⟨compiles.expr test, meets_gather (meets_compileEach compiles "" children isBody)⟩
    · obtain ⟨nodes, isBody, rfl⟩ := exists_of_map_eq_ok done
      exact meets_gather (meets_compileEach compiles "" children isBody)
    · obtain ⟨nodes, isBody, rfl⟩ := exists_of_map_eq_ok done
      exact meets_gather (meets_compileEach compiles "" children isBody)
    · obtain ⟨nodes, isBody, rfl⟩ := exists_of_map_eq_ok done
      exact ⟨compiles.trimming tag, meets_gather (meets_compileEach compiles "" children isBody)⟩
    · obtain ⟨collection, -, done⟩ := exists_of_bind_eq_ok done
      obtain ⟨nodes, isBody, done⟩ := exists_of_bind_eq_ok done
      obtain rfl := Except.ok.inj done
      exact ⟨compiles.header tag collection, compiles.expr collection,
        meets_gather (meets_compileEach compiles "" children isBody)⟩
    · split at done
      · cases done
      · obtain ⟨⟨branches, otherwise⟩, isChoice, done⟩ := exists_of_bind_eq_ok done
        have meets := meets_compileBranches compiles none trivial children isChoice
        simp only at done
        split at done
        · cases done
        · obtain rfl := Except.ok.inj done
          exact meets
    · exact meets_bindNode compiles done
    · cases done
    · cases done
    · cases done

theorem meets_compileBranches (compiles : Compiles asked) (otherwise : Option Node)
    (meets : Node.OptionMeets asked otherwise) (contents : List Content)
    {branches : List (Expr × String × Node)} {last : Option Node}
    (done : compileBranches otherwise contents = .ok (branches, last)) :
    Node.BranchesMeet asked branches ∧ Node.OptionMeets asked last := by
  match contents with
  | [] =>
    unfold compileBranches at done
    obtain ⟨rfl, rfl⟩ := Prod.mk.inj (Except.ok.inj done)
    exact ⟨trivial, meets⟩
  | .text _ :: rest =>
    unfold compileBranches at done
    exact meets_compileBranches compiles otherwise meets rest done
  | .element tag children :: rest =>
    unfold compileBranches at done
    split at done
    · obtain ⟨test, -, done⟩ := exists_of_bind_eq_ok done
      obtain ⟨nodes, isBody, done⟩ := exists_of_bind_eq_ok done
      obtain ⟨⟨others, lastOther⟩, isRest, done⟩ := exists_of_bind_eq_ok done
      obtain ⟨rfl, rfl⟩ := Prod.mk.inj (Except.ok.inj done)
      obtain ⟨meetsOthers, meetsLast⟩ := meets_compileBranches compiles none trivial rest isRest
      exact ⟨⟨compiles.expr test, meets_gather (meets_compileEach compiles "" children isBody),
        meetsOthers⟩, meetsLast⟩
    · obtain ⟨nodes, isBody, done⟩ := exists_of_bind_eq_ok done
      exact meets_compileBranches compiles (some (gather nodes))
        (meets_gather (meets_compileEach compiles "" children isBody)) rest done
    · cases done
    · cases done
    · cases done

end

theorem meets_compile (compiles : Compiles asked) {contents : List Content} {root : Node}
    (done : compile contents = .ok root) : root.Meets asked := by
  obtain ⟨nodes, isBody, rfl⟩ := exists_of_map_eq_ok done
  exact meets_gather (meets_compileEach compiles "" contents isBody)

/-! ### Documents -/

/-- All statements of a mapper are as required. -/
def EachStatementMeets (asked : Requirement) (mapper : Mapper) : Prop :=
  ∀ statement ∈ mapper.statements, statement.root.Meets asked

/-- What holds of all that compiling builds holds of every statement of a document. -/
theorem meets_read (compiles : Compiles asked) {source : String} {file : Option String}
    {outside : FragmentSource} {mapper : Mapper}
    (done : read source file outside = .ok mapper) : EachStatementMeets asked mapper := by
  obtain ⟨root, namespaceName, own, fragments, -, -, isMapper⟩ := read_eq_ok_iff.1 done
  refine declareEach_induction ?_ (fun _ _ _ meets _ _ => meets) ?_ isMapper
  · intro before statement kind element meets isStatement _ other member
    rcases List.mem_append.1 member with old | new
    · exact meets other old
    · obtain rfl := List.mem_singleton.1 new
      obtain ⟨expanded, -, isRoot⟩ := (isStatementOf_of_readStatement isStatement).template
      exact meets_compile compiles isRoot
  · exact fun statement member => absurd member List.not_mem_nil

theorem isRead_of_read {source : String} {file : Option String} {outside : FragmentSource}
    {mapper : Mapper} (done : read source file outside = .ok mapper) {statement : Statement}
    (member : statement ∈ mapper.statements) : statement.root.IsRead :=
  meets_read compiles_textsRead done statement member

end Document

end DynamicSql
