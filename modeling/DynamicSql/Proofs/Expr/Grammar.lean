/-
This file states the grammar of expressions as derivations and proves that tokens are read exactly
as it derives them. Three levels join operands of the level below them with a separator; they are
one rule of the grammar, over a `Joint`, and one case of every proof.

Reading takes tokens from the front and leaves the others. That it takes what the grammar derives
is shown by induction on the fuel. That it takes all of what the grammar derives is shown by
induction on the derivation, with any tokens behind it that cannot go on with the level; the fuel
which that needs is counted by the tokens that are taken. So no two trees are derived for the same
tokens, and a comparison of a comparison is not derived.
-/

import DynamicSql.Expr.Reader

namespace DynamicSql.Expr

/-! ### The grammar -/

/-- The levels of the grammar. -/
inductive Level where
  | or
  | and
  | not
  | compare
  | sum
  | operand

/-- The levels that join operands with a separator. -/
inductive Joint where
  | or
  | and
  | sum

/-- The tokens of an operand with its tree. -/
abbrev Part := List Token × Expr

namespace Joint

/-- The level itself. -/
def level : Joint → Level
  | .or => .or
  | .and => .and
  | .sum => .sum

/-- The level of the operands. -/
def below : Joint → Level
  | .or => .and
  | .and => .not
  | .sum => .operand

/-- The token between two operands. -/
def separator : Joint → Token
  | .or => .or
  | .and => .and
  | .sum => .plus

/-- The tree of two or more operands. -/
def join : Joint → List Expr → Expr
  | .or => .or
  | .and => .and
  | .sum => .concat

/-- The tokens of the operands behind the first, each behind a separator. -/
def further (joint : Joint) (others : List Part) : List Token :=
  others.flatMap fun part => joint.separator :: part.1

theorem further_cons (joint : Joint) (part : Part) (others : List Part) (rest : List Token) :
    joint.further (part :: others) ++ rest =
      joint.separator :: (part.1 ++ (joint.further others ++ rest)) := by
  unfold further
  rw [List.flatMap_cons, List.cons_append, List.cons_append, List.append_assoc]

theorem length_further_cons (joint : Joint) (part : Part) (others : List Part) :
    (joint.further (part :: others)).length =
      part.1.length + (joint.further others).length + 1 := by
  unfold further
  rw [List.flatMap_cons, List.cons_append, List.length_cons, List.length_append]

end Joint

/-- The value of a token that is a literal. -/
def literal? : Token → Option Value
  | .null => some .null
  | .bool literal => some (.bool literal)
  | .integer literal => some (.int64 literal)
  | .float literal => some (.float literal)
  | .string literal => some (.string literal)
  | _ => none

/-- Tokens that a level derives, with the tree of the derivation. A level with a single operand and
parentheses leave no trace in it. -/
inductive Derives : Level → List Token → Expr → Prop
  | alone (joint : Joint) {tokens : List Token} {operand : Expr}
      (derives : Derives joint.below tokens operand) : Derives joint.level tokens operand
  | joined (joint : Joint) (first second : Part) (others : List Part)
      (each : ∀ part ∈ first :: second :: others, Derives joint.below part.1 part.2) :
      Derives joint.level (first.1 ++ joint.further (second :: others))
        (joint.join (first.2 :: second.2 :: others.map Prod.snd))
  | negated {tokens : List Token} {operand : Expr} (derives : Derives .not tokens operand) :
      Derives .not (.not :: tokens) (.not operand)
  | plain {tokens : List Token} {operand : Expr} (derives : Derives .compare tokens operand) :
      Derives .not tokens operand
  | compared {left right : List Token} {first second : Expr} (comparison : Comparison)
      (derivesLeft : Derives .sum left first) (derivesRight : Derives .sum right second) :
      Derives .compare (left ++ .compare comparison :: right) (.compare comparison first second)
  | single {tokens : List Token} {operand : Expr} (derives : Derives .sum tokens operand) :
      Derives .compare tokens operand
  | literal {token : Token} {value : Value} (isLiteral : literal? token = some value) :
      Derives .operand [token] (.value value)
  | path (target : Path) : Derives .operand [.path target] (.path target)
  | size (target : Path) {method : String} (named : method = "size" ∨ method = "length") :
      Derives .operand [.path target, .call method] (.size (.path target))
  | isEmpty (target : Path) :
      Derives .operand [.path target, .call "isEmpty"] (.not (.path target))
  | enclosed {tokens : List Token} {operand : Expr} (derives : Derives .or tokens operand) :
      Derives .operand (.open :: tokens ++ [.close]) operand

/-! ### Reading a level -/

/-- Reads what a level derives. -/
def Level.read? : Level → Nat → List Token → Option (Expr × List Token)
  | .or => orLevel?
  | .and => andLevel?
  | .not => notLevel?
  | .compare => compareLevel?
  | .sum => sumLevel?
  | .operand => operand?

/-- Reads the further operands of a level that joins them. -/
def Joint.rest? : Joint → Nat → List Token → Option (List Expr × List Token)
  | .or => orRest?
  | .and => andRest?
  | .sum => sumRest?

theorem Joint.read?_succ (joint : Joint) (fuel : Nat) (tokens : List Token) :
    joint.level.read? (fuel + 1) tokens =
      (joint.below.read? fuel tokens).bind fun first =>
        (joint.rest? fuel first.2).bind fun others =>
          some (Expr.joined joint.join (first.1 :: others.1), others.2) := by
  cases joint <;> rfl

theorem Joint.rest?_separator (joint : Joint) (fuel : Nat) (tokens : List Token) :
    joint.rest? (fuel + 1) (joint.separator :: tokens) =
      (joint.below.read? fuel tokens).bind fun operand =>
        (joint.rest? fuel operand.2).bind fun others =>
          some (operand.1 :: others.1, others.2) := by
  cases joint <;> rfl

theorem Joint.rest?_other (joint : Joint) (fuel : Nat) {tokens : List Token}
    (other : tokens.head? ≠ some joint.separator) :
    joint.rest? (fuel + 1) tokens = some ([], tokens) := by
  cases joint <;> cases tokens with
  | nil => rfl
  | cons token tokens => cases token <;> first | rfl | exact absurd rfl other

/-! ### What is read is derived -/

/-- A level derives the expression from what stands before the rest of the tokens. -/
def Level.Takes (level : Level) (tokens : List Token) (expression : Expr)
    (rest : List Token) : Prop :=
  ∃ taken, tokens = taken ++ rest ∧ Derives level taken expression

/-- What stands before the rest of the tokens are further operands of a level. -/
def Joint.Takes (joint : Joint) (tokens : List Token) (operands : List Expr)
    (rest : List Token) : Prop :=
  ∃ others : List Part, tokens = joint.further others ++ rest ∧
    operands = others.map Prod.snd ∧ ∀ part ∈ others, Derives joint.below part.1 part.2

/-- With some fuel every reading takes what the grammar derives. -/
structure Sound (fuel : Nat) : Prop where
  level (level : Level) {tokens rest : List Token} {expression : Expr}
    (done : level.read? fuel tokens = some (expression, rest)) :
    level.Takes tokens expression rest
  rest (joint : Joint) {tokens rest : List Token} {operands : List Expr}
    (done : joint.rest? fuel tokens = some (operands, rest)) :
    joint.Takes tokens operands rest

theorem Sound.joined {fuel : Nat} (sound : Sound fuel) (joint : Joint) {tokens rest : List Token}
    {expression : Expr} (done : joint.level.read? (fuel + 1) tokens = some (expression, rest)) :
    joint.level.Takes tokens expression rest := by
  rw [joint.read?_succ] at done
  obtain ⟨⟨first, afterFirst⟩, isFirst, done⟩ := Option.bind_eq_some_iff.1 done
  obtain ⟨⟨operands, afterAll⟩, areOthers, same⟩ := Option.bind_eq_some_iff.1 done
  obtain ⟨rfl, rfl⟩ := Prod.mk.inj (Option.some.inj same)
  obtain ⟨taken, rfl, derives⟩ := sound.level joint.below isFirst
  obtain ⟨others, rfl, rfl, derivesOthers⟩ := sound.rest joint areOthers
  cases others with
  | nil => exact ⟨taken, rfl, .alone joint derives⟩
  | cons second others =>
    refine ⟨_, ?_, .joined joint (taken, first) second others
      (List.forall_mem_cons.2 ⟨derives, derivesOthers⟩)⟩
    rw [List.append_assoc]

theorem Sound.rest_succ {fuel : Nat} (sound : Sound fuel) (joint : Joint)
    {tokens rest : List Token} {operands : List Expr}
    (done : joint.rest? (fuel + 1) tokens = some (operands, rest)) :
    joint.Takes tokens operands rest := by
  by_cases goesOn : tokens.head? = some joint.separator
  · obtain ⟨later, rfl⟩ := List.head?_eq_some_iff.1 goesOn
    rw [joint.rest?_separator] at done
    obtain ⟨⟨operand, afterOperand⟩, isOperand, done⟩ := Option.bind_eq_some_iff.1 done
    obtain ⟨⟨later, afterAll⟩, areLater, same⟩ := Option.bind_eq_some_iff.1 done
    obtain ⟨rfl, rfl⟩ := Prod.mk.inj (Option.some.inj same)
    obtain ⟨taken, rfl, derives⟩ := sound.level joint.below isOperand
    obtain ⟨others, rfl, rfl, derivesOthers⟩ := sound.rest joint areLater
    refine ⟨(taken, operand) :: others, ?_, rfl, List.forall_mem_cons.2 ⟨derives, derivesOthers⟩⟩
    rw [joint.further_cons]
  · rw [joint.rest?_other fuel goesOn] at done
    obtain ⟨rfl, rfl⟩ := Prod.mk.inj (Option.some.inj done)
    exact ⟨[], rfl, rfl, fun _ member => absurd member List.not_mem_nil⟩

theorem Sound.negation {fuel : Nat} (sound : Sound fuel) {tokens rest : List Token}
    {expression : Expr} (done : notLevel? (fuel + 1) tokens = some (expression, rest)) :
    Level.not.Takes tokens expression rest := by
  unfold notLevel? at done
  split at done
  · obtain ⟨⟨operand, afterOperand⟩, isOperand, same⟩ := Option.bind_eq_some_iff.1 done
    obtain ⟨rfl, rfl⟩ := Prod.mk.inj (Option.some.inj same)
    obtain ⟨taken, rfl, derives⟩ := sound.level .not isOperand
    exact ⟨.not :: taken, rfl, .negated derives⟩
  · obtain ⟨taken, rfl, derives⟩ := sound.level .compare done
    exact ⟨taken, rfl, .plain derives⟩

theorem Sound.comparison {fuel : Nat} (sound : Sound fuel) {tokens rest : List Token}
    {expression : Expr} (done : compareLevel? (fuel + 1) tokens = some (expression, rest)) :
    Level.compare.Takes tokens expression rest := by
  unfold compareLevel? at done
  obtain ⟨⟨left, afterLeft⟩, isLeft, isRest⟩ := Option.bind_eq_some_iff.1 done
  obtain ⟨taken, rfl, derives⟩ := sound.level .sum isLeft
  simp only at isRest
  split at isRest
  · next comparison tokens =>
    obtain ⟨⟨right, afterRight⟩, isRight, same⟩ := Option.bind_eq_some_iff.1 isRest
    obtain ⟨rfl, rfl⟩ := Prod.mk.inj (Option.some.inj same)
    obtain ⟨takenRight, rfl, derivesRight⟩ := sound.level .sum isRight
    refine ⟨_, ?_, .compared comparison derives derivesRight⟩
    rw [List.append_assoc, List.cons_append]
  · obtain ⟨rfl, rfl⟩ := Prod.mk.inj (Option.some.inj isRest)
    exact ⟨taken, rfl, .single derives⟩

/-- The calls of the grammar are those that are read. -/
theorem derives_of_ofCall? {target : Path} {method : String} {expression : Expr}
    (isCall : ofCall? target method = some expression) :
    Derives .operand [.path target, .call method] expression := by
  unfold ofCall? at isCall
  split at isCall
  · next named =>
    obtain rfl := Option.some.inj isCall
    exact .size target (by simpa using named)
  · split at isCall
    · next named =>
      obtain rfl := Option.some.inj isCall
      rw [named]
      exact .isEmpty target
    · cases isCall

theorem Sound.operand {fuel : Nat} (sound : Sound fuel) {tokens rest : List Token}
    {expression : Expr} (done : operand? (fuel + 1) tokens = some (expression, rest)) :
    Level.operand.Takes tokens expression rest := by
  have literal {token : Token} {value : Value} {tokens : List Token}
      (isLiteral : literal? token = some value)
      (same : some (Expr.value value, tokens) = some (expression, rest)) :
      Level.operand.Takes (token :: tokens) expression rest := by
    obtain ⟨rfl, rfl⟩ := Prod.mk.inj (Option.some.inj same)
    exact ⟨[token], rfl, .literal isLiteral⟩
  unfold operand? at done
  split at done
  · exact literal rfl done
  · exact literal rfl done
  · exact literal rfl done
  · exact literal rfl done
  · exact literal rfl done
  · next target method tokens =>
    obtain ⟨operand, isCall, same⟩ := Option.map_eq_some_iff.1 done
    obtain ⟨rfl, rfl⟩ := Prod.mk.inj same
    exact ⟨[.path target, .call method], rfl, derives_of_ofCall? isCall⟩
  · next target tokens _ =>
    obtain ⟨rfl, rfl⟩ := Prod.mk.inj (Option.some.inj done)
    exact ⟨[.path target], rfl, .path target⟩
  · obtain ⟨⟨operand, afterOperand⟩, isOperand, isRest⟩ := Option.bind_eq_some_iff.1 done
    obtain ⟨taken, rfl, derives⟩ := sound.level .or isOperand
    simp only at isRest
    split at isRest
    · obtain ⟨rfl, rfl⟩ := Prod.mk.inj (Option.some.inj isRest)
      refine ⟨_, ?_, .enclosed derives⟩
      simp
    · cases isRest
  · cases done

theorem sound (fuel : Nat) : Sound fuel := by
  induction fuel with
  | zero =>
    constructor
    · intro level tokens rest expression done
      cases level <;> cases done
    · intro joint tokens rest operands done
      cases joint <;> cases done
  | succ fuel inductionHypothesis =>
    refine ⟨fun level _ _ _ done => ?_, inductionHypothesis.rest_succ⟩
    cases level with
    | or => exact inductionHypothesis.joined .or done
    | and => exact inductionHypothesis.joined .and done
    | not => exact inductionHypothesis.negation done
    | compare => exact inductionHypothesis.comparison done
    | sum => exact inductionHypothesis.joined .sum done
    | operand => exact inductionHypothesis.operand done

/-! ### What is derived is read -/

/-- How loosely a level binds. -/
def Level.rank : Level → Nat
  | .operand => 0
  | .sum => 1
  | .compare => 2
  | .not => 3
  | .and => 4
  | .or => 5

/-- A token that would go on with what a level derives. -/
def Level.goesOn (level : Level) : Token → Bool
  | .call _ => true
  | .plus => 1 ≤ level.rank
  | .compare _ => 2 ≤ level.rank
  | .and => 4 ≤ level.rank
  | .or => 5 ≤ level.rank
  | _ => false

/-- What a level derives ends before these tokens. -/
def Level.EndsBefore (level : Level) (rest : List Token) : Prop :=
  ∀ token ∈ rest.head?, level.goesOn token = false

theorem Level.endsBefore_cons {level : Level} {token : Token} (stops : level.goesOn token = false)
    (rest : List Token) : level.EndsBefore (token :: rest) := by
  intro head isHead
  obtain rfl := Option.some.inj isHead
  exact stops

theorem Level.EndsBefore.mono {level other : Level} {rest : List Token}
    (ends : level.EndsBefore rest) (tighter : other.rank ≤ level.rank) :
    other.EndsBefore rest := by
  intro token isHead
  have still := ends token isHead
  cases token <;> simp_all [Level.goesOn] <;> omega

theorem Joint.rank_below (joint : Joint) : joint.level.rank = joint.below.rank + 1 := by
  cases joint <;> rfl

theorem Joint.goesOn_separator (joint : Joint) :
    joint.level.goesOn joint.separator = true ∧ joint.below.goesOn joint.separator = false := by
  cases joint <;> exact ⟨rfl, rfl⟩

/-- What is derived is not empty, and only a level of negations begins with one. -/
theorem Derives.exists_head {level : Level} {tokens : List Token} {expression : Expr}
    (derives : Derives level tokens expression) :
    ∃ token rest, tokens = token :: rest ∧ (token = .not → Level.not.rank ≤ level.rank) := by
  induction derives with
  | alone joint derives inductionHypothesis =>
    obtain ⟨token, rest, isHead, negated⟩ := inductionHypothesis
    refine ⟨token, rest, isHead, fun isNot => ?_⟩
    rw [joint.rank_below]
    exact Nat.le_succ_of_le (negated isNot)
  | joined joint first second others each inductionHypothesis =>
    obtain ⟨token, rest, isFirst, negated⟩ := inductionHypothesis first List.mem_cons_self
    refine ⟨token, _, by rw [isFirst, List.cons_append], fun isNot => ?_⟩
    rw [joint.rank_below]
    exact Nat.le_succ_of_le (negated isNot)
  | negated derives _ => exact ⟨.not, _, rfl, fun _ => Nat.le_refl _⟩
  | plain derives inductionHypothesis =>
    obtain ⟨token, rest, isHead, negated⟩ := inductionHypothesis
    exact ⟨token, rest, isHead, fun isNot => absurd (negated isNot) (by decide)⟩
  | compared comparison derives derivesRight inductionHypothesis _ =>
    obtain ⟨token, rest, rfl, negated⟩ := inductionHypothesis
    exact ⟨token, _, rfl, fun isNot => absurd (negated isNot) (by decide)⟩
  | single derives inductionHypothesis =>
    obtain ⟨token, rest, isHead, negated⟩ := inductionHypothesis
    exact ⟨token, rest, isHead, fun isNot => absurd (negated isNot) (by decide)⟩
  | literal isLiteral => exact ⟨_, [], rfl, by rintro rfl; cases isLiteral⟩
  | path target => exact ⟨_, [], rfl, nofun⟩
  | size target named => exact ⟨_, _, rfl, nofun⟩
  | isEmpty target => exact ⟨_, _, rfl, nofun⟩
  | enclosed derives _ => exact ⟨.open, _, rfl, nofun⟩

theorem Derives.ne_nil {level : Level} {tokens : List Token} {expression : Expr}
    (derives : Derives level tokens expression) : tokens ≠ [] := by
  obtain ⟨token, rest, rfl, -⟩ := derives.exists_head
  exact List.cons_ne_nil token rest

/-- A level reads all of what it derives, and with as much fuel as the tokens need. -/
def Level.Reads (level : Level) (taken : List Token) (expression : Expr) : Prop :=
  ∀ fuel rest, level.EndsBefore rest → 9 * taken.length + level.rank ≤ fuel + 8 →
    level.read? fuel (taken ++ rest) = some (expression, rest)

/-- Any reading takes a token at least, so it is enough to look at fuel from which one can be
spent. -/
theorem Level.reads_of_succ {level : Level} {taken : List Token} {expression : Expr}
    (filled : taken ≠ [])
    (succ : ∀ fuel rest, level.EndsBefore rest → 9 * taken.length + level.rank ≤ fuel + 9 →
      level.read? (fuel + 1) (taken ++ rest) = some (expression, rest)) :
    level.Reads taken expression := by
  intro fuel rest ends enough
  have tokens : 0 < taken.length := List.length_pos_iff.2 filled
  obtain ⟨fuel, rfl⟩ : ∃ less, fuel = less + 1 := ⟨fuel - 1, by omega⟩
  exact succ fuel rest ends enough

/-- An operand ends before the further operands, and before what ends its level. -/
theorem Joint.endsBefore_others (joint : Joint) (others : List Part)
    {rest : List Token} (ends : joint.level.EndsBefore rest) :
    joint.below.EndsBefore (joint.further others ++ rest) := by
  cases others with
  | nil => exact ends.mono (by rw [joint.rank_below]; exact Nat.le_succ _)
  | cons part others => exact Level.endsBefore_cons joint.goesOn_separator.2 _

/-- The further operands are read if each of them is. -/
theorem Joint.rest?_of_reads (joint : Joint) {others : List Part}
    (each : ∀ part ∈ others, joint.below.Reads part.1 part.2) (fuel : Nat) {rest : List Token}
    (ends : joint.level.EndsBefore rest) (enough : 9 * (joint.further others).length < fuel) :
    joint.rest? fuel (joint.further others ++ rest) = some (others.map Prod.snd, rest) := by
  induction others generalizing fuel with
  | nil =>
    obtain ⟨fuel, rfl⟩ := Nat.exists_eq_succ_of_ne_zero (Nat.ne_of_gt (Nat.zero_lt_of_lt enough))
    refine joint.rest?_other fuel fun isHead => ?_
    have stops := ends joint.separator isHead
    rw [joint.goesOn_separator.1] at stops
    cases stops
  | cons part others inductionHypothesis =>
    obtain ⟨fuel, rfl⟩ := Nat.exists_eq_succ_of_ne_zero (Nat.ne_of_gt (Nat.zero_lt_of_lt enough))
    obtain ⟨readsPart, readsOthers⟩ := List.forall_mem_cons.1 each
    rw [joint.length_further_cons] at enough
    have isPart := readsPart fuel _ (joint.endsBefore_others others ends) (by
      have tight : joint.below.rank ≤ 8 := by cases joint <;> decide
      omega)
    have areOthers := inductionHypothesis readsOthers fuel (by omega)
    rw [joint.further_cons, joint.rest?_separator, isPart, Option.bind_some, areOthers,
      Option.bind_some]
    rfl

theorem Joint.reads (joint : Joint) {first : Part} (others : List Part) (filled : first.1 ≠ [])
    (each : ∀ part ∈ first :: others, joint.below.Reads part.1 part.2) :
    joint.level.Reads (first.1 ++ joint.further others)
      (Expr.joined joint.join (first.2 :: others.map Prod.snd)) := by
  obtain ⟨readsFirst, readsOthers⟩ := List.forall_mem_cons.1 each
  refine Level.reads_of_succ (List.append_ne_nil_of_left_ne_nil filled _)
    fun fuel rest ends enough => ?_
  have taken : 0 < first.1.length := List.length_pos_iff.2 filled
  have looser := joint.rank_below
  rw [List.length_append] at enough
  have isFirst := readsFirst fuel _ (joint.endsBefore_others others ends) (by omega)
  have areOthers := joint.rest?_of_reads readsOthers fuel ends (by omega)
  rw [List.append_assoc, joint.read?_succ, isFirst, Option.bind_some, areOthers, Option.bind_some]

theorem reads_negated {tokens : List Token} {operand : Expr}
    (reads : Level.not.Reads tokens operand) : Level.not.Reads (.not :: tokens) (.not operand) := by
  refine Level.reads_of_succ (List.cons_ne_nil _ _) fun fuel rest ends enough => ?_
  rw [List.length_cons] at enough
  have isOperand : notLevel? fuel (tokens ++ rest) = some (operand, rest) :=
    reads fuel rest ends (by omega)
  show notLevel? (fuel + 1) (.not :: (tokens ++ rest)) = _
  rw [notLevel?, isOperand]
  rfl

/-- What is no negation is read on the level of comparisons. -/
theorem notLevel?_plain (fuel : Nat) {tokens : List Token} (plain : tokens.head? ≠ some .not) :
    notLevel? (fuel + 1) tokens = compareLevel? fuel tokens := by
  rw [notLevel?]
  rintro later rfl
  exact plain rfl

theorem reads_plain {tokens : List Token} {operand : Expr}
    (derives : Derives .compare tokens operand) (reads : Level.compare.Reads tokens operand) :
    Level.not.Reads tokens operand := by
  obtain ⟨token, later, rfl, negated⟩ := derives.exists_head
  refine Level.reads_of_succ (List.cons_ne_nil _ _) fun fuel rest ends enough => ?_
  have isOperand : compareLevel? fuel (token :: later ++ rest) = some (operand, rest) :=
    reads fuel rest (ends.mono (by decide)) (by simp only [Level.rank] at enough ⊢; omega)
  rw [← isOperand]
  refine notLevel?_plain fuel fun isHead => ?_
  obtain rfl := Option.some.inj isHead
  exact absurd (negated rfl) (by decide)

/-- A comparison is read up to anything that does not go on with its second sum. -/
theorem compareLevel?_compared {left right rest : List Token} {first second : Expr}
    (comparison : Comparison) (readsLeft : Level.sum.Reads left first)
    (readsRight : Level.sum.Reads right second) (ends : Level.sum.EndsBefore rest) {fuel : Nat}
    (enough : 9 * (left.length + right.length) ≤ fuel) :
    compareLevel? (fuel + 1) (left ++ .compare comparison :: (right ++ rest)) =
      some (.compare comparison first second, rest) := by
  have isLeft : sumLevel? fuel (left ++ .compare comparison :: (right ++ rest)) =
      some (first, .compare comparison :: (right ++ rest)) :=
    readsLeft fuel _ (Level.endsBefore_cons rfl _) (by simp only [Level.rank]; omega)
  have isRight : sumLevel? fuel (right ++ rest) = some (second, rest) :=
    readsRight fuel rest ends (by simp only [Level.rank]; omega)
  rw [compareLevel?, isLeft]
  show (sumLevel? fuel (right ++ rest)).bind _ = _
  rw [isRight]
  rfl

theorem reads_compared {left right : List Token} {first second : Expr} (comparison : Comparison)
    (readsLeft : Level.sum.Reads left first) (readsRight : Level.sum.Reads right second) :
    Level.compare.Reads (left ++ .compare comparison :: right)
      (.compare comparison first second) := by
  refine Level.reads_of_succ (List.append_ne_nil_of_right_ne_nil _ (List.cons_ne_nil _ _))
    fun fuel rest ends enough => ?_
  simp only [List.length_append, List.length_cons, Level.rank] at enough
  rw [List.append_assoc, List.cons_append]
  exact compareLevel?_compared comparison readsLeft readsRight (ends.mono (by decide)) (by omega)

theorem reads_single {tokens : List Token} {operand : Expr}
    (reads : Level.sum.Reads tokens operand) (filled : tokens ≠ []) :
    Level.compare.Reads tokens operand := by
  refine Level.reads_of_succ filled fun fuel rest ends enough => ?_
  have isOperand : sumLevel? fuel (tokens ++ rest) = some (operand, rest) :=
    reads fuel rest (ends.mono (by decide)) (by simp only [Level.rank] at enough ⊢; omega)
  show compareLevel? (fuel + 1) _ = _
  rw [compareLevel?, isOperand]
  cases rest with
  | nil => rfl
  | cons token later =>
    have stops := ends token rfl
    cases token <;> first | rfl | cases stops

theorem reads_literal {token : Token} {value : Value} (isLiteral : literal? token = some value) :
    Level.operand.Reads [token] (.value value) := by
  refine Level.reads_of_succ (List.cons_ne_nil _ _) fun fuel rest _ _ => ?_
  cases token <;> cases isLiteral <;> rfl

theorem reads_path (target : Path) : Level.operand.Reads [.path target] (.path target) := by
  refine Level.reads_of_succ (List.cons_ne_nil _ _) fun fuel rest ends _ => ?_
  cases rest with
  | nil => rfl
  | cons token later =>
    have stops := ends token rfl
    cases token <;> first | rfl | cases stops

theorem reads_call {target : Path} {method : String} {expression : Expr}
    (isCall : ofCall? target method = some expression) :
    Level.operand.Reads [.path target, .call method] expression := by
  refine Level.reads_of_succ (List.cons_ne_nil _ _) fun fuel rest _ _ => ?_
  show (ofCall? target method).map _ = _
  rw [isCall]
  rfl

theorem reads_enclosed {tokens : List Token} {operand : Expr}
    (reads : Level.or.Reads tokens operand) :
    Level.operand.Reads (.open :: tokens ++ [.close]) operand := by
  refine Level.reads_of_succ (List.cons_ne_nil _ _) fun fuel rest _ enough => ?_
  simp only [List.cons_append, List.length_cons, List.length_append, Level.rank] at enough
  have isOperand : orLevel? fuel (tokens ++ .close :: rest) = some (operand, .close :: rest) :=
    reads fuel _ (Level.endsBefore_cons rfl _) (by simp only [Level.rank]; omega)
  rw [List.append_assoc]
  show operand? (fuel + 1) (.open :: (tokens ++ .close :: rest)) = _
  rw [operand?, isOperand]
  rfl

theorem Derives.reads {level : Level} {tokens : List Token} {expression : Expr}
    (derives : Derives level tokens expression) : level.Reads tokens expression := by
  induction derives with
  | @alone joint tokens operand derives inductionHypothesis =>
    have each : ∀ part ∈ [(tokens, operand)], joint.below.Reads part.1 part.2 :=
      List.forall_mem_singleton.2 inductionHypothesis
    have reads := joint.reads [] derives.ne_nil each
    rwa [Joint.further, List.flatMap_nil, List.append_nil] at reads
  | joined joint first second others each inductionHypothesis =>
    exact joint.reads (second :: others) (each first List.mem_cons_self).ne_nil inductionHypothesis
  | negated _ inductionHypothesis => exact reads_negated inductionHypothesis
  | plain derives inductionHypothesis => exact reads_plain derives inductionHypothesis
  | compared comparison _ _ readsLeft readsRight =>
    exact reads_compared comparison readsLeft readsRight
  | single derives inductionHypothesis => exact reads_single inductionHypothesis derives.ne_nil
  | literal isLiteral => exact reads_literal isLiteral
  | path target => exact reads_path target
  | size target named =>
    refine reads_call ?_
    rcases named with rfl | rfl <;> rfl
  | isEmpty target => exact reads_call rfl
  | enclosed _ inductionHypothesis => exact reads_enclosed inductionHypothesis

/-! ### The expression of tokens -/

/-- Tokens write the expression that the loosest level derives from them. -/
theorem ofTokens?_eq_some_iff {tokens : List Token} {expression : Expr} :
    ofTokens? tokens = some expression ↔ Derives .or tokens expression := by
  have isRead : ofTokens? tokens = some expression ↔
      orLevel? (9 * tokens.length + 9) tokens = some (expression, []) := by
    unfold ofTokens?
    split
    · next found isAll => simp [isAll]
    · next other => exact ⟨nofun, fun isAll => absurd isAll (other expression)⟩
  rw [isRead]
  constructor
  · intro isAll
    have fromLevel : Level.or.read? (9 * tokens.length + 9) tokens = some (expression, []) := isAll
    obtain ⟨taken, isTaken, derives⟩ := (sound _).level .or fromLevel
    rwa [isTaken, List.append_nil]
  · intro derives
    have isAll := derives.reads (9 * tokens.length + 9) [] (fun _ isHead => nomatch isHead)
      (by simp only [Level.rank]; omega)
    rwa [List.append_nil] at isAll

/-- A joined level reads a single operand before anything that is not its separator. -/
theorem Joint.read?_single (joint : Joint) {fuel : Nat} {tokens rest : List Token}
    {operand : Expr} (isOperand : joint.below.read? (fuel + 1) tokens = some (operand, rest))
    (other : rest.head? ≠ some joint.separator) :
    joint.level.read? (fuel + 2) tokens = some (operand, rest) := by
  rw [joint.read?_succ, isOperand, Option.bind_some, joint.rest?_other fuel other,
    Option.bind_some]
  rfl

/-- Of two comparisons in a row the second is left. -/
theorem orLevel?_chain {left middle : List Token} {first second : Expr}
    (comparison other : Comparison) (derivesLeft : Derives .sum left first)
    (derivesMiddle : Derives .sum middle second) (right : List Token) {fuel : Nat}
    (enough : 9 * (left.length + middle.length) ≤ fuel) :
    orLevel? (fuel + 4) (left ++ .compare comparison :: (middle ++ .compare other :: right)) =
      some (.compare comparison first second, .compare other :: right) := by
  have plain : (left ++ .compare comparison :: (middle ++ .compare other :: right)).head? ≠
      some .not := by
    obtain ⟨token, later, rfl, negated⟩ := derivesLeft.exists_head
    intro isHead
    obtain rfl := Option.some.inj isHead
    exact absurd (negated rfl) (by decide)
  have ends : Level.sum.EndsBefore (.compare other :: right) := Level.endsBefore_cons rfl right
  have isCompared := compareLevel?_compared comparison derivesLeft.reads derivesMiddle.reads ends
    enough
  have isNot := (notLevel?_plain (fuel + 1) plain).trans isCompared
  have isAnd := Joint.and.read?_single isNot nofun
  exact Joint.or.read?_single isAnd nofun

theorem ofTokens?_chain {left middle : List Token} {first second : Expr}
    (comparison other : Comparison) (derivesLeft : Derives .sum left first)
    (derivesMiddle : Derives .sum middle second) (right : List Token) :
    ofTokens? (left ++ .compare comparison :: (middle ++ .compare other :: right)) = none := by
  unfold ofTokens?
  generalize isFuel :
    9 * (left ++ .compare comparison :: (middle ++ .compare other :: right)).length + 9 = fuel
  rw [List.length_append, List.length_cons, List.length_append, List.length_cons] at isFuel
  obtain ⟨fuel, rfl⟩ : ∃ less, fuel = less + 4 := ⟨fuel - 4, by omega⟩
  rw [orLevel?_chain comparison other derivesLeft derivesMiddle right (by omega)]

/-- Reading tokens gives an expression exactly if the grammar derives all of them with it as the
tree. So a list of tokens has at most one tree, and a comparison that is compared again has none. -/
theorem derives_iff_ofTokens? (tokens : List Token) :
    (∀ expression, ofTokens? tokens = some expression ↔ Derives .or tokens expression) ∧
    (∀ expression other, Derives .or tokens expression → Derives .or tokens other →
      expression = other) ∧
    (∀ left middle right first second third comparison other, Derives .sum left first →
      Derives .sum middle second → Derives .sum right third →
      tokens = left ++ .compare comparison :: (middle ++ .compare other :: right) →
      ∀ expression, ¬ Derives .or tokens expression) := by
  refine ⟨fun expression => ofTokens?_eq_some_iff, fun expression other derives again => ?_, ?_⟩
  · exact Option.some.inj
      ((ofTokens?_eq_some_iff.2 derives).symm.trans (ofTokens?_eq_some_iff.2 again))
  · rintro left middle right first second third comparison other derivesLeft derivesMiddle -
      isChain expression derives
    have read := ofTokens?_eq_some_iff.2 derives
    rw [isChain, ofTokens?_chain comparison other derivesLeft derivesMiddle right] at read
    cases read

end DynamicSql.Expr
