/-
This file reads expressions. The levels of the grammar, from the loosest, are `or`, `and`, `not`,
one comparison, sums, and operands. A level with a single operand leaves no trace in the tree, and
neither do parentheses. A text that is no expression stands for the path it begins with.
-/

import DynamicSql.Expr.Token

namespace DynamicSql

namespace Expr

/-! ### The levels of the grammar -/

/-- The expression of the operands of one level. -/
def joined (join : List Expr → Expr) : List Expr → Expr
  | [operand] => operand
  | operands => join operands

/-- The expression that a call on a path is. -/
def ofCall? (target : Path) (method : String) : Option Expr :=
  if method = "size" || method = "length" then some (.size (.path target))
  else if method = "isEmpty" then some (.not (.path target))
  else none

mutual

/-- Operands joined by `or`, and the tokens behind them. Every step down the levels and every
further operand spends one of `fuel`. -/
def orLevel? (fuel : Nat) (tokens : List Token) : Option (Expr × List Token) :=
  match fuel with
  | 0 => none
  | fuel + 1 => do
    let (first, tokens) ← andLevel? fuel tokens
    let (others, tokens) ← orRest? fuel tokens
    return (joined .or (first :: others), tokens)

/-- The further operands of `or`. -/
def orRest? (fuel : Nat) (tokens : List Token) : Option (List Expr × List Token) :=
  match fuel with
  | 0 => none
  | fuel + 1 =>
    match tokens with
    | .or :: tokens => do
      let (operand, tokens) ← andLevel? fuel tokens
      let (others, tokens) ← orRest? fuel tokens
      return (operand :: others, tokens)
    | tokens => some ([], tokens)

/-- Operands joined by `and`. -/
def andLevel? (fuel : Nat) (tokens : List Token) : Option (Expr × List Token) :=
  match fuel with
  | 0 => none
  | fuel + 1 => do
    let (first, tokens) ← notLevel? fuel tokens
    let (others, tokens) ← andRest? fuel tokens
    return (joined .and (first :: others), tokens)

/-- The further operands of `and`. -/
def andRest? (fuel : Nat) (tokens : List Token) : Option (List Expr × List Token) :=
  match fuel with
  | 0 => none
  | fuel + 1 =>
    match tokens with
    | .and :: tokens => do
      let (operand, tokens) ← notLevel? fuel tokens
      let (others, tokens) ← andRest? fuel tokens
      return (operand :: others, tokens)
    | tokens => some ([], tokens)

/-- An operand behind any number of negations. -/
def notLevel? (fuel : Nat) (tokens : List Token) : Option (Expr × List Token) :=
  match fuel with
  | 0 => none
  | fuel + 1 =>
    match tokens with
    | .not :: tokens => do
      let (operand, tokens) ← notLevel? fuel tokens
      return (.not operand, tokens)
    | tokens => compareLevel? fuel tokens

/-- A sum, or two that are compared. -/
def compareLevel? (fuel : Nat) (tokens : List Token) : Option (Expr × List Token) :=
  match fuel with
  | 0 => none
  | fuel + 1 => do
    let (left, tokens) ← sumLevel? fuel tokens
    match tokens with
    | .compare comparison :: tokens =>
      let (right, tokens) ← sumLevel? fuel tokens
      return (.compare comparison left right, tokens)
    | tokens => return (left, tokens)

/-- Operands joined by plus signs. -/
def sumLevel? (fuel : Nat) (tokens : List Token) : Option (Expr × List Token) :=
  match fuel with
  | 0 => none
  | fuel + 1 => do
    let (first, tokens) ← operand? fuel tokens
    let (others, tokens) ← sumRest? fuel tokens
    return (joined .concat (first :: others), tokens)

/-- The further operands of a sum. -/
def sumRest? (fuel : Nat) (tokens : List Token) : Option (List Expr × List Token) :=
  match fuel with
  | 0 => none
  | fuel + 1 =>
    match tokens with
    | .plus :: tokens => do
      let (operand, tokens) ← operand? fuel tokens
      let (others, tokens) ← sumRest? fuel tokens
      return (operand :: others, tokens)
    | tokens => some ([], tokens)

/-- A literal, a path with or without a call, or an expression in parentheses. -/
def operand? (fuel : Nat) (tokens : List Token) : Option (Expr × List Token) :=
  match fuel with
  | 0 => none
  | fuel + 1 =>
    match tokens with
    | .null :: tokens => some (.value .null, tokens)
    | .bool literal :: tokens => some (.value (.bool literal), tokens)
    | .integer literal :: tokens => some (.value (.int64 literal), tokens)
    | .float literal :: tokens => some (.value (.float literal), tokens)
    | .string literal :: tokens => some (.value (.string literal), tokens)
    | .path target :: .call method :: tokens =>
      (ofCall? target method).map fun operand => (operand, tokens)
    | .path target :: tokens => some (.path target, tokens)
    | .open :: tokens => do
      let (operand, tokens) ← orLevel? fuel tokens
      match tokens with
      | .close :: tokens => return (operand, tokens)
      | _ => none
    | _ => none

end

/-- The expression that tokens write, if it takes all of them. A token lies at most nine steps
below the one before it. -/
def ofTokens? (tokens : List Token) : Option Expr :=
  match orLevel? (9 * tokens.length + 9) tokens with
  | some (expression, []) => some expression
  | _ => none

/-! ### Texts that are no expressions -/

/-- The text without points at its end. -/
def withoutFinalPoints (text : List Char) : List Char :=
  (text.reverse.dropWhile (· == '.')).reverse

/-- The path that a text begins with, a call behind it left out; null if there is none. -/
def leadingPath (text : List Char) : Expr :=
  let text := Text.trim text
  let candidate := withoutFinalPoints (text.takeWhile Token.isWordPart)
  let candidate :=
    if (Text.trimStart (text.dropWhile Token.isWordPart)).head? = some '(' then
      ((Text.cutLast? '.' candidate).map Prod.fst).getD []
    else candidate
  match Path.read? candidate with
  | some target => .path target
  | none => .value .null

/-- The expression that a text writes, if all of it is one. -/
def read? (text : List Char) : Option Expr :=
  (Token.list? text).bind ofTokens?

/-- The expression of any text: the one it writes, or else the path that it begins with. -/
def read (text : String) : Expr :=
  (read? text.toList).getD (leadingPath text.toList)

end Expr

end DynamicSql
