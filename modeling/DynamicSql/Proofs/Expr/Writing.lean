/-
This file writes expression trees as text and proves that the text is read back as the same tree.
Every tree has the level of the grammar that derives it without parentheses. An operand is put in
parentheses where its own level binds more loosely than the one it stands on, so the grammar derives
the tokens that are written; by the uniqueness of derivations nothing else can be read from them.
That the tokens are cut out of the text again is the matter of the tokens alone: operands and
operators take turns in everything the grammar derives.
-/

import DynamicSql.Proofs.Expr.Grammar
import DynamicSql.Proofs.Expr.Lexing

namespace DynamicSql.Expr

open Token (Follows)

/-! ### Writing a tree -/

/-- The token of a literal. -/
def literalToken : Value → Token
  | .bool literal => .bool literal
  | .int64 literal => .integer literal
  | .float literal => .float literal
  | .string literal => .string literal
  | _ => .null

/-- The level that derives a tree without parentheses around it. -/
def level : Expr → Level
  | .or _ => .or
  | .and _ => .and
  | .not _ => .not
  | .compare _ _ _ => .compare
  | .concat _ => .sum
  | _ => .operand

/-- The tokens of an operand where a level is expected: in parentheses if the operand binds more
loosely than that. -/
def fitted (expected own : Level) (tokens : List Token) : List Token :=
  if own.rank ≤ expected.rank then tokens else .open :: tokens ++ [.close]

mutual

/-- The tokens of a tree. -/
def tokens : Expr → List Token
  | .value literal => [literalToken literal]
  | .path target => [.path target]
  | .size operand => operand.tokens ++ [.call "size"]
  | .concat operands => (furtherTokens .sum operands).tail
  | .not operand => .not :: fitted .not operand.level operand.tokens
  | .and operands => (furtherTokens .and operands).tail
  | .or operands => (furtherTokens .or operands).tail
  | .compare comparison left right =>
    fitted .sum left.level left.tokens ++
      .compare comparison :: fitted .sum right.level right.tokens

/-- The tokens of joined operands, each behind a separator. -/
def furtherTokens (joint : Joint) : List Expr → List Token
  | [] => []
  | operand :: rest =>
    joint.separator :: (fitted joint.below operand.level operand.tokens ++ furtherTokens joint rest)

end

/-- The text of a tree. -/
def text (expression : Expr) : List Char :=
  Token.write expression.tokens

/-- The text of a tree as a string. -/
def render (expression : Expr) : String :=
  String.ofList expression.text

/-- A tree that can be written: no literal in it is the least integer or a value that has no
literal, paths are words, sizes are those of paths, and operators join two operands or more. -/
inductive IsWritable : Expr → Prop
  | null : IsWritable (.value .null)
  | bool (literal : Bool) : IsWritable (.value (.bool literal))
  | string (literal : String) : IsWritable (.value (.string literal))
  | integer {literal : Int64} (notLeast : literal ≠ Int64.minValue) :
      IsWritable (.value (.int64 literal))
  | path {target : Path} (isWord : target.IsWord) : IsWritable (.path target)
  | size {target : Path} (isWord : target.IsWord) : IsWritable (.size (.path target))
  | not {operand : Expr} (writable : IsWritable operand) : IsWritable (.not operand)
  | compare (comparison : Comparison) {left right : Expr} (writableLeft : IsWritable left)
      (writableRight : IsWritable right) : IsWritable (.compare comparison left right)
  | joined (joint : Joint) {operands : List Expr} (several : 2 ≤ operands.length)
      (each : ∀ operand ∈ operands, IsWritable operand) : IsWritable (joint.join operands)

/-! ### Parentheses -/

/-- What a level derives, the next looser one derives too. -/
theorem exists_looser (level : Level) (tight : level.rank < Level.or.rank) :
    ∃ looser : Level, looser.rank = level.rank + 1 ∧
      ∀ {tokens expression}, Derives level tokens expression →
        Derives looser tokens expression := by
  cases level with
  | operand => exact ⟨.sum, rfl, .alone .sum⟩
  | sum => exact ⟨.compare, rfl, .single⟩
  | compare => exact ⟨.not, rfl, .plain⟩
  | not => exact ⟨.and, rfl, .alone .and⟩
  | and => exact ⟨.or, rfl, .alone .or⟩
  | or => exact absurd tight (Nat.lt_irrefl _)

theorem Level.rank_le (level : Level) : level.rank ≤ Level.or.rank := by
  cases level <;> decide

theorem Level.eq_of_rank {level other : Level} (same : level.rank = other.rank) :
    level = other := by
  cases level <;> cases other <;> first | rfl | cases same

variable {tokens : List Token} {expression : Expr} {own expected : Level}

/-- What a level derives, every looser one derives too. -/
theorem Derives.loosen (derives : Derives own tokens expression)
    (tight : own.rank ≤ expected.rank) : Derives expected tokens expression := by
  induction distance : expected.rank - own.rank generalizing own with
  | zero => exact Level.eq_of_rank (show own.rank = expected.rank by omega) ▸ derives
  | succ distance inductionHypothesis =>
    have bound := expected.rank_le
    obtain ⟨looser, rank, derivesLooser⟩ := exists_looser own (by omega)
    exact inductionHypothesis (derivesLooser derives) (by omega) (by omega)

theorem derives_fitted (derives : Derives own tokens expression) :
    Derives expected (fitted expected own tokens) expression := by
  unfold fitted
  split
  · next tight => exact derives.loosen tight
  · exact (Derives.enclosed (derives.loosen own.rank_le)).loosen (Nat.zero_le _)

/-! ### The tokens of a tree are derived as that tree -/

/-- An operand of a joint as part of a derivation. -/
def fittedPart (joint : Joint) (operand : Expr) : Part :=
  (fitted joint.below operand.level operand.tokens, operand)

theorem furtherTokens_eq (joint : Joint) (operands : List Expr) :
    furtherTokens joint operands = joint.further (operands.map (fittedPart joint)) := by
  induction operands with
  | nil => rfl
  | cons operand rest inductionHypothesis =>
    rw [furtherTokens, inductionHypothesis]
    rfl

theorem tokens_join (joint : Joint) (operands : List Expr) :
    (joint.join operands).tokens = (furtherTokens joint operands).tail := by
  cases joint <;> rw [Joint.join, Expr.tokens]

@[simp]
theorem level_join (joint : Joint) (operands : List Expr) :
    (joint.join operands).level = joint.level := by
  cases joint <;> rfl

/-- The tokens of a joint are those of its first operand and, each behind a separator, those of the
others. -/
theorem tokens_join_cons (joint : Joint) (first : Expr) (others : List Expr) :
    (joint.join (first :: others)).tokens =
      (fittedPart joint first).1 ++ joint.further (others.map (fittedPart joint)) := by
  rw [tokens_join, furtherTokens, List.tail_cons, furtherTokens_eq]
  rfl

/-- The grammar derives the tokens of a tree on the level of the tree. -/
theorem derives_tokens (writable : expression.IsWritable) :
    Derives expression.level expression.tokens expression := by
  induction writable with
  | null => exact .literal rfl
  | bool literal => exact .literal rfl
  | string literal => exact .literal rfl
  | integer notLeast => exact .literal rfl
  | path isWord => exact .path _
  | size isWord => exact .size _ (.inl rfl)
  | not writable inductionHypothesis => exact .negated (derives_fitted inductionHypothesis)
  | compare comparison _ _ derivesLeft derivesRight =>
    exact .compared comparison (derives_fitted derivesLeft) (derives_fitted derivesRight)
  | @joined joint operands several each inductionHypothesis =>
    rcases operands with _ | ⟨first, _ | ⟨second, others⟩⟩
    · simp at several
    · simp at several
    have derivesEach : ∀ part ∈ (first :: second :: others).map (fittedPart joint),
        Derives joint.below part.1 part.2 := by
      intro part member
      obtain ⟨operand, isOperand, rfl⟩ := List.mem_map.1 member
      exact derives_fitted (inductionHypothesis operand isOperand)
    have derives := Derives.joined joint _ _ _ derivesEach
    have operands : (others.map (fittedPart joint)).map Prod.snd = others := by
      rw [List.map_map]
      exact List.map_id _
    rw [operands] at derives
    rw [level_join, tokens_join_cons]
    exact derives

/-! ### Operands and operators take turns -/

/-- Tokens that can stand between parentheses. -/
def TakeTurns (tokens : List Token) : Prop :=
  (Token.open :: (tokens ++ [.close])).IsChain Follows

theorem takeTurns_iff :
    TakeTurns tokens ↔ (Token.open :: tokens).IsChain Follows ∧
      ∀ before ∈ (Token.open :: tokens).getLast?, Follows before .close := by
  rw [TakeTurns, ← List.cons_append, List.isChain_append]
  simp

/-- A token with operands on both of its sides: it follows what a closing parenthesis follows, and
is followed by what follows an opening one. -/
def Separates (token : Token) : Prop :=
  (∀ before, Follows before .close → Follows before token) ∧
    ∀ after, Follows .open after → Follows token after

theorem follows_of_follows_open {before after : Token} (noOperand : before.endsOperand = false)
    (follows : Follows .open after) : Follows before after := by
  cases after with
  | call method => exact nomatch follows
  | _ => exact follows.trans (congrArg (!·) noOperand.symm)

theorem separates_compare (comparison : Comparison) : Separates (.compare comparison) :=
  ⟨fun _ => id, fun _ => follows_of_follows_open rfl⟩

theorem separates_separator (joint : Joint) : Separates joint.separator := by
  cases joint <;> exact ⟨fun _ => id, fun _ => follows_of_follows_open rfl⟩

theorem isChain_of_open {before : Token}
    (follows : ∀ after, Follows .open after → Follows before after)
    (chain : (Token.open :: tokens).IsChain Follows) : (before :: tokens).IsChain Follows := by
  rw [List.isChain_cons] at chain ⊢
  exact ⟨fun after isHead => follows after (chain.1 after isHead), chain.2⟩

theorem TakeTurns.separated {left right : List Token} {separator : Token}
    (turnsLeft : TakeTurns left) (separates : Separates separator) (turnsRight : TakeTurns right) :
    TakeTurns (left ++ separator :: right) := by
  obtain ⟨chain, closed⟩ := takeTurns_iff.1 turnsLeft
  have front : (Token.open :: left ++ [separator]).IsChain Follows := by
    refine List.isChain_append.2 ⟨chain, List.isChain_singleton _, ?_⟩
    rintro before isLast after ⟨⟩
    exact separates.1 before (closed before isLast)
  have back : (separator :: (right ++ [.close])).IsChain Follows :=
    isChain_of_open separates.2 turnsRight
  have whole := List.isChain_split.2 ⟨front, back⟩
  simpa [TakeTurns] using whole

theorem TakeTurns.further (joint : Joint) {first : Part} {others : List Part}
    (each : ∀ part ∈ first :: others, TakeTurns part.1) :
    TakeTurns (first.1 ++ joint.further others) := by
  induction others generalizing first with
  | nil =>
    rw [Joint.further, List.flatMap_nil, List.append_nil]
    exact each first List.mem_cons_self
  | cons second others inductionHypothesis =>
    obtain ⟨turnsFirst, turnsOthers⟩ := List.forall_mem_cons.1 each
    exact turnsFirst.separated (separates_separator joint) (inductionHypothesis turnsOthers)

theorem TakeTurns.negated (turns : TakeTurns tokens) : TakeTurns (.not :: tokens) := by
  refine List.isChain_cons_cons.2 ⟨rfl, ?_⟩
  exact isChain_of_open (fun _ => follows_of_follows_open rfl) turns

theorem TakeTurns.enclosed (turns : TakeTurns tokens) :
    TakeTurns (.open :: tokens ++ [.close]) := by
  refine takeTurns_iff.2 ⟨List.isChain_cons_cons.2 ⟨rfl, turns⟩, ?_⟩
  intro before isLast
  rw [← List.cons_append, List.getLast?_concat] at isLast
  obtain rfl := Option.some.inj isLast
  rfl

/-- In what the grammar derives, operands and operators take turns. -/
theorem Derives.takeTurns (derives : Derives own tokens expression) : TakeTurns tokens := by
  induction derives with
  | alone joint derives inductionHypothesis => exact inductionHypothesis
  | joined joint first second others each inductionHypothesis =>
    exact TakeTurns.further joint inductionHypothesis
  | negated derives inductionHypothesis => exact inductionHypothesis.negated
  | plain derives inductionHypothesis => exact inductionHypothesis
  | compared comparison _ _ turnsLeft turnsRight =>
    exact turnsLeft.separated (separates_compare comparison) turnsRight
  | single derives inductionHypothesis => exact inductionHypothesis
  | @literal token value isLiteral =>
    have ends : Follows .open token ∧ Follows token .close := by
      cases token <;> first | exact ⟨rfl, rfl⟩ | cases isLiteral
    simpa [TakeTurns] using ends
  | path target => exact .cons_cons rfl (.cons_cons rfl (.singleton _))
  | size target named =>
    exact .cons_cons rfl (.cons_cons ⟨target, rfl⟩ (.cons_cons rfl (.singleton _)))
  | isEmpty target =>
    exact .cons_cons rfl (.cons_cons ⟨target, rfl⟩ (.cons_cons rfl (.singleton _)))
  | enclosed derives inductionHypothesis => exact inductionHypothesis.enclosed

/-! ### Every token of a tree can be written -/

theorem forall_mem_fitted (each : ∀ token ∈ tokens, token.IsWritable) :
    ∀ token ∈ fitted expected own tokens, token.IsWritable := by
  unfold fitted
  split
  · exact each
  · intro token member
    rw [List.mem_append, List.mem_cons, List.mem_singleton] at member
    rcases member with (rfl | inside) | rfl
    · trivial
    · exact each token inside
    · trivial

theorem forall_mem_furtherTokens (joint : Joint) {operands : List Expr}
    (each : ∀ operand ∈ operands, ∀ token ∈ operand.tokens, token.IsWritable) :
    ∀ token ∈ furtherTokens joint operands, token.IsWritable := by
  induction operands with
  | nil => exact fun _ member => absurd member List.not_mem_nil
  | cons operand rest inductionHypothesis =>
    obtain ⟨eachOperand, eachRest⟩ := List.forall_mem_cons.1 each
    rw [furtherTokens]
    refine List.forall_mem_cons.2 ⟨by cases joint <;> trivial, ?_⟩
    exact List.forall_mem_append.2 ⟨forall_mem_fitted eachOperand, inductionHypothesis eachRest⟩

theorem forall_mem_tokens (writable : expression.IsWritable) :
    ∀ token ∈ expression.tokens, token.IsWritable := by
  have isName : Path.IsName "size" := Path.isName_of_all (by decide) (by decide)
  induction writable with
  | null => exact List.forall_mem_singleton.2 trivial
  | bool literal => exact List.forall_mem_singleton.2 trivial
  | string literal => exact List.forall_mem_singleton.2 trivial
  | integer notLeast => exact List.forall_mem_singleton.2 notLeast
  | path isWord => exact List.forall_mem_singleton.2 isWord
  | size isWord =>
    exact List.forall_mem_cons.2 ⟨isWord, List.forall_mem_singleton.2 isName⟩
  | not writable inductionHypothesis =>
    exact List.forall_mem_cons.2 ⟨trivial, forall_mem_fitted inductionHypothesis⟩
  | compare comparison _ _ eachLeft eachRight =>
    refine List.forall_mem_append.2 ⟨forall_mem_fitted eachLeft, ?_⟩
    exact List.forall_mem_cons.2 ⟨trivial, forall_mem_fitted eachRight⟩
  | @joined joint operands several each inductionHypothesis =>
    rw [tokens_join]
    intro token member
    exact forall_mem_furtherTokens joint inductionHypothesis token (List.mem_of_mem_tail member)

/-! ### Reading a tree back -/

@[simp]
theorem read?_text (writable : expression.IsWritable) :
    read? expression.text = some expression := by
  have derives : Derives .or expression.tokens expression :=
    (derives_tokens writable).loosen (Level.rank_le _)
  have chain : (Token.open :: expression.tokens).IsChain Follows :=
    (takeTurns_iff.1 derives.takeTurns).1
  rw [read?, text, Token.list?_write (forall_mem_tokens writable) chain, Option.bind_some]
  exact ofTokens?_eq_some_iff.2 derives

@[simp]
theorem read_ofList_text (writable : expression.IsWritable) :
    read (String.ofList expression.text) = expression := by
  rw [read, String.toList_ofList, read?_text writable]
  rfl

/-- A tree that can be written is read back from its text, as the expression that the text writes
and not as the path it begins with. -/
theorem read_render (writable : expression.IsWritable) :
    read? expression.text = some expression ∧ read expression.render = expression :=
  ⟨read?_text writable, read_ofList_text writable⟩

/-- Reading back at a conjunction of a comparison and a negation with a disjunction below it. -/
theorem read_render_nested :
    let items := Path.ofName "items"
    let nested : Expr := .and [
      .compare .greater (.size (.path items)) (.value (.int64 (-1))),
      .not (.or [.path items, .compare .equal (.concat [.value (.string "it's"), .value .null])
        (.value (.bool true))])]
    nested.IsWritable ∧ read? nested.text = some nested ∧ read nested.render = nested := by
  intro items nested
  have isWord : items.IsWord :=
    Path.isWord_ofName (Path.isName_of_all (by decide) (by decide)) (by decide) (by decide)
  have isSum : IsWritable (.concat [.value (.string "it's"), .value .null]) :=
    .joined .sum (by decide) (by simpa using ⟨.string _, .null⟩)
  have isChoice : IsWritable (.or [.path items,
      .compare .equal (.concat [.value (.string "it's"), .value .null]) (.value (.bool true))]) :=
    .joined .or (by decide) (by simpa using ⟨.path isWord, .compare _ isSum (.bool true)⟩)
  have writable : nested.IsWritable :=
    .joined .and (by decide) (by
      simpa using ⟨.compare _ (.size isWord) (.integer (by decide)), .not isChoice⟩)
  exact ⟨writable, read_render writable⟩

example :
    render (.and [.compare .greater (.size (.path (.ofName "items"))) (.value (.bool true)),
      .not (.or [.path (.ofName "items"), .value (.string "it's")])]) =
      "items.size() > true && ! ( items || 'it\\'s' )" := by
  decide

end DynamicSql.Expr
