/-
This file settles which integers of 64 bits can be written as literals. A minus is cut off in front
of the digits, which are read as a number of their own and negated afterwards. The magnitude of the
least integer is one beyond the greatest, so that its literal is no token, and a text with it in it
is no expression: it stands for the path that it begins with. Every other integer is read.
-/

import DynamicSql.Proofs.Expr.Writing

namespace DynamicSql

open Text (isBlank)

/-! ### Texts that are not made of tokens -/

namespace Token

variable {rest : List Char} {afterOperand : Bool}

theorem listFrom?_blank (fuel : Nat) (afterOperand : Bool) (text : List Char) :
    listFrom? fuel afterOperand (' ' :: text) = listFrom? fuel afterOperand text := by
  cases fuel with
  | zero => rfl
  | succ fuel => rw [listFrom?, listFrom?, Text.trimStart_cons_of_blank (by decide)]

theorem listFrom?_of_next?_eq_none {first : Char} (ink : isBlank first = false)
    (cut : next? afterOperand (first :: rest) = none) (fuel : Nat) :
    listFrom? fuel afterOperand (first :: rest) = none := by
  cases fuel with
  | zero => rfl
  | succ fuel =>
    rw [listFrom?, Text.trimStart_cons_of_not_blank ink]
    simp only [cut]
    rfl

/-- A token in front of a text that is not made of tokens does not help it. -/
theorem listFrom?_spaced_eq_none {token : Token} (writable : token.IsWritable)
    (cut : next? afterOperand (token.text ++ rest) = some ([token], rest))
    (noTokens : ∀ fuel, listFrom? fuel token.endsOperand rest = none) (fuel : Nat) :
    listFrom? fuel afterOperand (spaced token ++ rest) = none := by
  cases fuel with
  | zero => rfl
  | succ fuel =>
    rw [listFrom?_of_next? fuel writable cut]
    show (listFrom? fuel token.endsOperand rest).map _ = none
    rw [noTokens, Option.map_none]

/-! ### The least integer -/

/-- The literal of the least integer. -/
def leastLiteral : List Char :=
  Number.signedDecimal Int64.minValue.toInt

theorem leastLiteral_eq : leastLiteral = "-9223372036854775808".toList := by
  decide +kernel

theorem listFrom?_leastLiteral (fuel : Nat) : listFrom? fuel false leastLiteral = none := by
  have gap : IsGap [] := fun _ isHead => nomatch isHead
  have cut : next? false leastLiteral = none := by
    have cut := next?_integer Int64.minValue gap
    rwa [if_pos rfl, List.append_nil] at cut
  rw [leastLiteral_eq] at cut ⊢
  exact listFrom?_of_next?_eq_none (by decide) cut fuel

theorem head?_sign_ne (comparison : Comparison) (rest : List Char) :
    (Text.trimStart (' ' :: (comparison.sign.toList ++ rest))).head? ≠ some '(' := by
  rw [Text.trimStart_cons_of_blank (by decide)]
  cases comparison <;> exact nofun

/-- A comparison with the literal of the least integer is not made of tokens. -/
theorem list?_compare_leastLiteral {path : Path} (isWord : path.IsWord) (comparison : Comparison) :
    list? (path.text ++ ' ' :: (comparison.sign.toList ++ ' ' :: leastLiteral)) = none := by
  have behindSign (fuel : Nat) : listFrom? fuel false (' ' :: leastLiteral) = none := by
    rw [listFrom?_blank, listFrom?_leastLiteral]
  have isSign : next? true (text (.compare comparison) ++ ' ' :: leastLiteral) =
      some ([.compare comparison], ' ' :: leastLiteral) :=
    next?_of_sign? true (sign?_compare comparison (isGap_cons _))
  have signWritable : IsWritable (.compare comparison) := trivial
  have behindPath := listFrom?_spaced_eq_none signWritable isSign behindSign
  have isPath : next? false (text (.path path) ++ (spaced (.compare comparison) ++
      ' ' :: leastLiteral)) = some ([.path path], _) :=
    next?_path false isWord (isGap_cons _) (head?_sign_ne comparison _)
  have pathWritable : IsWritable (.path path) := isWord
  rw [list?, ← listFrom?_blank]
  exact listFrom?_spaced_eq_none pathWritable isPath behindPath _

end Token

namespace Expr

variable {path : Path}

/-- A text that is not made of tokens stands for the path it begins with. -/
theorem read_of_list?_eq_none {text : List Char} (noTokens : Token.list? text = none) :
    read (String.ofList text) = leadingPath text := by
  rw [read, String.toList_ofList, read?, noTokens]
  rfl

/-- A text that begins with a path and goes on with no call stands for the path if it is no
expression. -/
theorem leadingPath_text (isWord : path.IsWord) {rest : List Char}
    (ended : ∀ character ∈ rest.head?, Token.isWordPart character = false)
    (noCall : (Text.trimStart rest).head? ≠ some '(')
    (closed : ∀ character ∈ (path.text ++ rest).getLast?, isBlank character = false) :
    leadingPath (path.text ++ rest) = .path path := by
  have readable := isWord.isReadable
  have opened : ∀ character ∈ (path.text ++ rest).head?, isBlank character = false := by
    obtain ⟨first, more, written, named, -⟩ := Path.exists_head_of_isWord isWord
    rw [written]
    rintro character ⟨⟩
    exact Text.isBlank_of_isNameCharacter named
  have whole := Text.trim_of_ends opened closed
  obtain ⟨taken, dropped⟩ := Text.span_of_ended (Path.isWordPart_of_mem_text readable) ended
  have noPoint : withoutFinalPoints path.text = path.text :=
    Text.reverse_dropWhile_reverse (Path.hasNoFinalPoint_text readable)
  simp only [leadingPath, whole, taken, dropped, noPoint, if_neg noCall, Path.read?_text readable]

theorem read_leastLiteral : read (String.ofList Token.leastLiteral) = .value .null := by
  rw [read_of_list?_eq_none (Token.listFrom?_leastLiteral _), Token.leastLiteral_eq]
  rfl

/-- A comparison with the least integer stands for its path. -/
theorem read_compare_leastLiteral (isWord : path.IsWord) (comparison : Comparison) :
    read (String.ofList (path.text ++ ' ' :: (comparison.sign.toList ++
      ' ' :: Token.leastLiteral))) = .path path := by
  rw [read_of_list?_eq_none (Token.list?_compare_leastLiteral isWord comparison)]
  refine leadingPath_text isWord (Token.not_isWordPart_of_isGap (Token.isGap_cons _))
    (Token.head?_sign_ne comparison _) fun character isLast => ?_
  have last : (' ' :: Token.leastLiteral).getLast? = some '8' := by
    rw [Token.leastLiteral_eq]
    decide
  rw [List.append_cons, ← List.append_assoc, List.getLast?_append, last] at isLast
  obtain rfl := Option.some.inj isLast
  decide

/-! ### All integers -/

theorem text_integer (value : Int64) :
    (Expr.value (.int64 value)).text = Number.signedDecimal value.toInt := by
  simp [text, tokens, literalToken, Token.write, Token.spaced, Token.text]

theorem text_compare_integer (path : Path) (comparison : Comparison) (value : Int64) :
    (Expr.compare comparison (.path path) (.value (.int64 value))).text =
      path.text ++ ' ' :: (comparison.sign.toList ++ ' ' :: Number.signedDecimal value.toInt) := by
  simp [text, tokens, literalToken, fitted, level, Level.rank, Token.write, Token.spaced,
    Token.text]

/-- Every integer but the least is read from its decimal text, also as the right side of a
comparison with a path. The text of the least integer is null by itself, and in a comparison
nothing but the path is left. -/
theorem read_integer (isWord : path.IsWord) (comparison : Comparison) (value : Int64) :
    read (String.ofList (Number.signedDecimal value.toInt)) =
        (if value = Int64.minValue then .value .null else .value (.int64 value)) ∧
      read (String.ofList (path.text ++ ' ' :: (comparison.sign.toList ++
          ' ' :: Number.signedDecimal value.toInt))) =
        if value = Int64.minValue then .path path
        else .compare comparison (.path path) (.value (.int64 value)) := by
  by_cases least : value = Int64.minValue
  · subst least
    rw [if_pos rfl, if_pos rfl]
    exact ⟨read_leastLiteral, read_compare_leastLiteral isWord comparison⟩
  · have literal : IsWritable (.value (.int64 value)) := .integer least
    have compared : IsWritable (.compare comparison (.path path) (.value (.int64 value))) :=
      .compare comparison (.path isWord) literal
    rw [if_neg least, if_neg least, ← text_compare_integer, ← text_integer]
    exact ⟨read_ofList_text literal, read_ofList_text compared⟩

theorem isWord_x : (Path.ofName "x").IsWord :=
  Path.isWord_ofName (Path.isName_of_all (by decide) (by decide)) (by decide) (by decide)

/-- Reading the integer just above the least one. -/
theorem read_integer_almostLeast :
    (Path.ofName "x").IsWord ∧
      read "-9223372036854775807" = .value (.int64 (Int64.minValue + 1)) ∧
      read "x > -9223372036854775807" =
        .compare .greater (.path (.ofName "x")) (.value (.int64 (Int64.minValue + 1))) := by
  have integers := read_integer isWord_x .greater (Int64.minValue + 1)
  have literal : String.ofList (Number.signedDecimal (Int64.minValue + 1).toInt) =
      "-9223372036854775807" := by decide +kernel
  have compared : String.ofList ((Path.ofName "x").text ++ ' ' :: (Comparison.greater.sign.toList ++
      ' ' :: Number.signedDecimal (Int64.minValue + 1).toInt)) =
        "x > -9223372036854775807" := by decide +kernel
  rw [if_neg (by decide), if_neg (by decide), literal, compared] at integers
  exact ⟨isWord_x, integers⟩

/-- The least integer is not read from its decimal text. It is null by itself, and of a comparison
with it only the path is left, whose truth does not depend on the integer. -/
theorem not_read_integer_least :
    read "-9223372036854775808" ≠ .value (.int64 Int64.minValue) ∧
      read "x > -9223372036854775808" ≠
        .compare .greater (.path (.ofName "x")) (.value (.int64 Int64.minValue)) ∧
      read "x > -9223372036854775808" = .path (.ofName "x") := by
  have alone := read_leastLiteral
  have compared := read_compare_leastLiteral isWord_x .greater
  rw [Token.leastLiteral_eq] at alone compared
  exact ⟨alone.trans_ne nofun, compared.trans_ne nofun, compared⟩

end Expr

end DynamicSql
