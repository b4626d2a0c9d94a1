/-
This file compares the sum of any number of operands with the same operands added two at a time from
the left. Two operands are joined as texts if either is a string; else they are added, as integers
where the sum fits into a word and otherwise as floating-point numbers. A longer sum decides between
these once, for all of its operands.

Both ways of adding are followed along the operands. From the left, the sum is exact over the
integers at the start while it fits, then a floating-point number, and a text from the first string
on. So the two ways differ in what stands before the first string, and without a string in where
the rounding begins.
-/

import DynamicSql.Expr.Evaluation
import DynamicSql.Proofs.Number.Rounding

namespace DynamicSql

open Number (Binary64)

namespace Value

/-! ### The sum of two operands -/

/-- An integer that fits into a signed word. -/
def fits (sum : Int) : Bool :=
  leastInt64 ≤ sum && sum ≤ greatestInt64

/-- The integer that a value is. -/
def integer? : Value → Option Int
  | .int32 value => some value.toInt
  | .int64 value => some value.toInt
  | _ => none

/-- What an operand adds to a text. -/
def part (value : Value) : List Char :=
  if value.isNull then [] else value.text

/-- The value of a floating-point sum; null if an operand was no number. -/
def ofFloat? : Option Binary64 → Value
  | some sum => .float sum
  | none => .null

/-- The sum of two integers, if both operands are integers and it fits. -/
def exactSum? (left right : Value) : Option Int :=
  match left.integer?, right.integer? with
  | some first, some second => if fits (first + second) then some (first + second) else none
  | _, _ => none

/-- Two operands added: joined as texts if either is a string, null as the empty text, and added as
numbers otherwise. -/
def plus (left right : Value) : Value :=
  if left.isString || right.isString then .string (String.ofList (left.part ++ right.part))
  else
    match exactSum? left right with
    | some sum => .int64 (Int64.ofInt sum)
    | none => ofFloat? (left.toFloat?.bind fun sum => right.toFloat?.map sum.add)

/-- Operands added two at a time from the left. -/
def leftSum : List Value → Value
  | [] => .null
  | first :: others => others.foldl plus first

theorem plus_of_noString {left right : Value} (noLeft : left.isString = false)
    (noRight : right.isString = false) :
    left.plus right =
      match exactSum? left right with
      | some sum => .int64 (Int64.ofInt sum)
      | none => ofFloat? (left.toFloat?.bind fun sum => right.toFloat?.map sum.add) := by
  rw [plus, noLeft, noRight]
  rfl

theorem string_plus (text : String) (right : Value) :
    (Value.string text).plus right = .string (String.ofList (text.toList ++ right.part)) :=
  rfl

theorem plus_string {right : Value} (isText : right.isString = true) (left : Value) :
    left.plus right = .string (String.ofList (left.part ++ right.part)) := by
  rw [plus, isText, Bool.or_true, if_pos rfl]

/-! ### Integers among the operands -/

variable {value : Value} {number : Int}

theorem isInteger_eq (value : Value) : value.isInteger = value.integer?.isSome := by
  cases value <;> rfl

theorem isString_of_integer? (isInteger : value.integer? = some number) :
    value.isString = false := by
  cases value <;> first | rfl | cases isInteger

theorem toFloat?_of_integer? (isInteger : value.integer? = some number) :
    value.toFloat? = some (.ofInt number) := by
  cases value <;> cases isInteger <;> rfl

/-- An integer is a word of 64 bits. -/
theorem exists_word_of_integer? (isInteger : value.integer? = some number) :
    ∃ word : Int64, value.toInt64? = some word ∧ word.toInt = number ∧
      value.part = Number.signedDecimal number := by
  cases value with
  | int32 value =>
    obtain rfl := Option.some.inj isInteger
    exact ⟨value.toInt64, rfl, Int32.toInt_toInt64 value, rfl⟩
  | int64 value =>
    obtain rfl := Option.some.inj isInteger
    exact ⟨value, rfl, rfl, rfl⟩
  | _ => cases isInteger

theorem fits_of_integer? (isInteger : value.integer? = some number) : fits number = true := by
  obtain ⟨word, -, rfl, -⟩ := exists_word_of_integer? isInteger
  have least : leastInt64 ≤ word.toInt := Int64.minValue_le_toInt word
  have greatest : word.toInt ≤ greatestInt64 := Int64.toInt_le word
  simp [fits, least, greatest]

theorem integer?_ofInt (inRange : fits number = true) :
    (Value.int64 (Int64.ofInt number)).integer? = some number := by
  obtain ⟨least, greatest⟩ := Bool.and_eq_true_iff.1 inRange
  have below : number < 2 ^ 63 := by
    have most : greatestInt64 = 2 ^ 63 - 1 := by decide
    have atMost := of_decide_eq_true greatest
    omega
  exact congrArg some (Int64.toInt_ofInt_of_le (of_decide_eq_true least) below)

/-- What is added to an integer depends on the integer alone, not on how wide its word is. -/
theorem plus_of_integer? {left : Value} (isInteger : left.integer? = some number) (right : Value) :
    left.plus right = (Value.int64 (Int64.ofInt number)).plus right := by
  have wide := integer?_ofInt (fits_of_integer? isInteger)
  obtain ⟨-, -, -, partLeft⟩ := exists_word_of_integer? isInteger
  obtain ⟨-, -, -, partWide⟩ := exists_word_of_integer? wide
  simp only [plus, exactSum?, isInteger, wide, isString_of_integer? isInteger,
    isString_of_integer? wide, partLeft, partWide, toFloat?_of_integer? isInteger,
    toFloat?_of_integer? wide]

/-! ### The integers at the start -/

/-- The exact sum of the integers at the start of operands as long as it fits, on from the sum of
those before, and the operands behind them. -/
def leadingIntegers (sum : Option Int) : List Value → Option Int × List Value
  | [] => (sum, [])
  | operand :: rest =>
    match operand.integer? with
    | some value =>
      if fits (sum.getD 0 + value) then leadingIntegers (some (sum.getD 0 + value)) rest
      else (sum, operand :: rest)
    | none => (sum, operand :: rest)

/-- The floating-point number that the sum goes on with behind the integers. -/
def floatOfSum : Option Int → Binary64
  | some sum => .ofInt sum
  | none => .zero true

/-- The sum of operands whose leading integers have been added exactly. -/
def ofLeading : Option Int × List Value → Value
  | (sum, []) => .int64 (Int64.ofInt (sum.getD 0))
  | (sum, others) => ofFloat? (sumFloats? (floatOfSum sum) others)

variable {operands rest : List Value}

/-- Adding one integer exactly. -/
theorem sumIntegers?_cons_of_integer? {operand : Value} (isInteger : operand.integer? = some number)
    (sum : Int) (rest : List Value) :
    sumIntegers? sum (operand :: rest) =
      if fits (sum + number) then sumIntegers? (sum + number) rest else none := by
  obtain ⟨word, isWord, rfl, -⟩ := exists_word_of_integer? isInteger
  rw [sumIntegers?, isWord]
  rfl

/-- Integers are summed exactly if all operands are integers and every sum on the way fits. -/
theorem sumIntegers?_eq (sum : Option Int) (operands : List Value) :
    (if operands.all isInteger then sumIntegers? (sum.getD 0) operands else none) =
      match leadingIntegers sum operands with
      | (sum, []) => some (sum.getD 0)
      | _ => none := by
  induction operands generalizing sum with
  | nil => rfl
  | cons operand rest inductionHypothesis =>
    cases isInteger : operand.integer? with
    | none => simp [leadingIntegers, isInteger_eq, isInteger]
    | some value =>
      simp only [List.all_cons, isInteger_eq operand, isInteger, Option.isSome_some, Bool.true_and,
        sumIntegers?_cons_of_integer? isInteger, leadingIntegers]
      by_cases inRange : fits (sum.getD 0 + value) = true
      · simp only [inRange, if_true]
        exact inductionHypothesis (some (sum.getD 0 + value))
      · simp only [inRange, ite_self, if_false, Bool.false_eq_true]

/-- Operands without a string among them, all added at once. -/
theorem concat_of_noString (noString : operands.any isString = false) :
    concat operands =
      match leadingIntegers none operands with
      | (sum, []) => .int64 (Int64.ofInt (sum.getD 0))
      | _ => ofFloat? (sumFloats? (.zero true) operands) := by
  have integers := sumIntegers?_eq none operands
  rw [Option.getD_none] at integers
  rw [concat, integers, if_neg (by simp [noString])]
  rcases leadingIntegers none operands with ⟨sum, _ | ⟨operand, rest⟩⟩ <;> rfl

theorem sumFloats?_cons (sum : Binary64) (operand : Value) (rest : List Value) :
    sumFloats? sum (operand :: rest) =
      operand.toFloat?.bind fun value => sumFloats? (sum.add value) rest := by
  rw [sumFloats?]
  cases operand.toFloat? <;> rfl

theorem bind_sumFloats?_cons (sum : Option Binary64) (operand : Value) (rest : List Value) :
    ((sum.bind fun value => operand.toFloat?.map value.add).bind fun value =>
        sumFloats? value rest) =
      sum.bind fun value => sumFloats? value (operand :: rest) := by
  simp only [sumFloats?_cons]
  cases sum with
  | none => rfl
  | some value => cases operand.toFloat? <;> rfl

theorem sumFloats?_negativeZero (first : Value) (rest : List Value) :
    sumFloats? (.zero true) (first :: rest) =
      first.toFloat?.bind fun value => sumFloats? value rest := by
  simp only [sumFloats?_cons, Binary64.negativeZero_add]

/-- Two operands added at once are added as two operands. -/
theorem concat_pair (left right : Value) : concat [left, right] = left.plus right := by
  by_cases isText : (left.isString || right.isString) = true
  · have text : [left, right].any isString = true := by simpa using isText
    rw [concat, if_pos text, plus, if_pos isText]
    simp [concatTexts, part]
  have noString : [left, right].any isString = false := by simpa using isText
  have floats : sumFloats? (.zero true) [left, right] =
      left.toFloat?.bind fun sum => right.toFloat?.map sum.add := by
    rw [sumFloats?_negativeZero]
    refine congrArg _ (funext fun sum => ?_)
    rw [sumFloats?_cons]
    cases right.toFloat? <;> rfl
  rw [concat_of_noString noString, floats, plus, if_neg isText, exactSum?]
  cases isFirst : left.integer? with
  | none => simp [leadingIntegers, isFirst]
  | some first =>
    cases isSecond : right.integer? with
    | none => simp [leadingIntegers, isFirst, isSecond, fits_of_integer? isFirst]
    | some second =>
      by_cases inRange : fits (first + second) = true <;>
        simp [leadingIntegers, isFirst, isSecond, fits_of_integer? isFirst, inRange]

/-! ### Adding from the left -/

theorem any_cons_eq_false {operand : Value} (noString : (operand :: rest).any isString = false) :
    operand.isString = false ∧ rest.any isString = false := by
  simpa using noString

/-- A text goes on with what each operand adds to it. -/
theorem foldl_plus_string (text : String) (rest : List Value) :
    rest.foldl plus (.string text) = .string (String.ofList (text.toList ++ concatTexts rest)) := by
  induction rest generalizing text with
  | nil => simp [concatTexts]
  | cons operand rest inductionHypothesis =>
    rw [List.foldl_cons, string_plus, inductionHypothesis, String.toList_ofList,
      List.append_assoc]
    rfl

theorem plus_ofFloat? (sum : Option Binary64) {operand : Value}
    (noString : operand.isString = false) :
    (ofFloat? sum).plus operand =
      ofFloat? (sum.bind fun value => operand.toFloat?.map value.add) := by
  cases sum <;> exact plus_of_noString rfl noString

/-- A floating-point sum goes on as one, and null as null. -/
theorem foldl_plus_ofFloat? (noString : rest.any isString = false) (sum : Option Binary64) :
    rest.foldl plus (ofFloat? sum) = ofFloat? (sum.bind fun value => sumFloats? value rest) := by
  induction rest generalizing sum with
  | nil => cases sum <;> rfl
  | cons operand rest inductionHypothesis =>
    obtain ⟨noText, noString⟩ := any_cons_eq_false noString
    rw [List.foldl_cons, plus_ofFloat? sum noText, inductionHypothesis noString,
      bind_sumFloats?_cons]

/-- A sum of two operands that is not exact is a floating-point sum, on to the end. -/
theorem foldl_plus_of_exactSum?_eq_none {left operand : Value} (noText : left.isString = false)
    (noString : (operand :: rest).any isString = false)
    (inexact : exactSum? left operand = none) :
    (operand :: rest).foldl plus left =
      ofFloat? (left.toFloat?.bind fun sum => sumFloats? sum (operand :: rest)) := by
  obtain ⟨noTextOperand, noString⟩ := any_cons_eq_false noString
  have step : left.plus operand =
      ofFloat? (left.toFloat?.bind fun sum => operand.toFloat?.map sum.add) := by
    rw [plus_of_noString noText noTextOperand, inexact]
  rw [List.foldl_cons, step, foldl_plus_ofFloat? noString, bind_sumFloats?_cons]

/-- An exact sum goes on over the leading integers and from there as a floating-point sum. -/
theorem foldl_plus_integer (noString : rest.any isString = false) {sum : Int}
    (inRange : fits sum = true) :
    rest.foldl plus (.int64 (Int64.ofInt sum)) = ofLeading (leadingIntegers (some sum) rest) := by
  induction rest generalizing sum with
  | nil => rfl
  | cons operand rest inductionHypothesis =>
    have isSum := integer?_ofInt inRange
    have inexact (isNone : exactSum? (.int64 (Int64.ofInt sum)) operand = none) :
        (operand :: rest).foldl plus (.int64 (Int64.ofInt sum)) =
          ofLeading (some sum, operand :: rest) := by
      rw [foldl_plus_of_exactSum?_eq_none rfl noString isNone, toFloat?_of_integer? isSum]
      rfl
    obtain ⟨noText, noStringRest⟩ := any_cons_eq_false noString
    cases isInteger : operand.integer? with
    | none =>
      rw [inexact (by simp [exactSum?, isInteger]), leadingIntegers, isInteger]
    | some value =>
      by_cases stillFits : fits (sum + value) = true
      · have step : (Value.int64 (Int64.ofInt sum)).plus operand =
            .int64 (Int64.ofInt (sum + value)) := by
          rw [plus_of_noString rfl noText, exactSum?, isSum, isInteger]
          simp only [if_pos stillFits]
        rw [List.foldl_cons, step, inductionHypothesis noStringRest stillFits, leadingIntegers,
          isInteger]
        simp only [Option.getD_some, if_pos stillFits]
      · rw [inexact (by simp [exactSum?, isSum, isInteger, stillFits]), leadingIntegers, isInteger]
        simp only [Option.getD_some, if_neg stillFits]

/-- Two operands or more without a string, added from the left. -/
theorem leftSum_of_noString {first second : Value} {others : List Value}
    (noString : (first :: second :: others).any isString = false) :
    leftSum (first :: second :: others) =
      ofLeading (leadingIntegers none (first :: second :: others)) := by
  obtain ⟨noText, noStringRest⟩ := any_cons_eq_false noString
  rw [leftSum, leadingIntegers]
  cases isInteger : first.integer? with
  | none =>
    rw [foldl_plus_of_exactSum?_eq_none noText noStringRest (by simp [exactSum?, isInteger])]
    exact congrArg _ (sumFloats?_negativeZero first (second :: others)).symm
  | some number =>
    have inRange := fits_of_integer? isInteger
    rw [List.foldl_cons, plus_of_integer? isInteger, ← List.foldl_cons,
      foldl_plus_integer noStringRest inRange]
    simp [inRange]

/-- From the first string on the sum is a text, in front of which stands the text of the sum of the
operands before it. -/
theorem leftSum_of_string (plain : List Value) {text : Value} (isText : text.isString = true)
    (rest : List Value) :
    leftSum (plain ++ text :: rest) =
      .string (String.ofList ((leftSum plain).part ++ concatTexts (text :: rest))) := by
  cases plain with
  | nil =>
    cases text with
    | string letters =>
      exact foldl_plus_string letters rest
    | _ => cases isText
  | cons first others =>
    rw [List.cons_append, leftSum, List.foldl_append, List.foldl_cons, plus_string isText,
      foldl_plus_string, String.toList_ofList, List.append_assoc]
    rfl

/-! ### Where both sums agree -/

/-- The operands before the first string. -/
def beforeText (operands : List Value) : List Value :=
  operands.takeWhile fun operand => !operand.isString

/-- The sum of operands is the one from the left. With a string among them: the operands before the
first string have, added from the left, the same text as joined one by one. Without: all of them are
integers whose sums fit, or it makes no difference to round only behind the leading integers. -/
def AddsFromLeft (operands : List Value) : Prop :=
  if operands.any isString then
    (leftSum (beforeText operands)).part = concatTexts (beforeText operands)
  else
    match leadingIntegers none operands with
    | (_, []) => True
    | (sum, others) => sumFloats? (floatOfSum sum) others = sumFloats? (.zero true) operands

@[simp]
theorem ofFloat?_inj {sum other : Option Binary64} :
    ofFloat? sum = ofFloat? other ↔ sum = other := by
  cases sum <;> cases other <;> simp [ofFloat?]

/-- With a string among them, operands are those before the first string, the string, and more. -/
theorem exists_text (isText : operands.any isString = true) :
    ∃ text rest, text.isString = true ∧ operands = beforeText operands ++ text :: rest := by
  induction operands with
  | nil => cases isText
  | cons operand rest inductionHypothesis =>
    cases isFirst : operand.isString with
    | true => exact ⟨operand, rest, isFirst, by simp [beforeText, isFirst]⟩
    | false =>
      have later : rest.any isString = true := by simpa [isFirst] using isText
      obtain ⟨text, others, isText, split⟩ := inductionHypothesis later
      refine ⟨text, others, isText, ?_⟩
      rw [beforeText, List.takeWhile_cons_of_pos (by simp [isFirst]), List.cons_append]
      exact congrArg (operand :: ·) split

@[simp]
theorem concatTexts_append (operands others : List Value) :
    concatTexts (operands ++ others) = concatTexts operands ++ concatTexts others := by
  rw [concatTexts, List.flatMap_append]
  rfl

theorem string_ofList_inj {text other : List Char} :
    Value.string (String.ofList text) = .string (String.ofList other) ↔ text = other := by
  rw [Value.string.injEq, String.ofList_inj]

/-- Two operands or more are added at once as they are from the left exactly where that makes no
difference to the text before the first string, or to the rounding. -/
theorem concat_eq_leftSum_iff (first second : Value) (others : List Value) :
    concat (first :: second :: others) = leftSum (first :: second :: others) ↔
      AddsFromLeft (first :: second :: others) := by
  generalize isAll : first :: second :: others = operands
  cases isText : operands.any isString with
  | true =>
    obtain ⟨text, rest, isString, split⟩ := exists_text isText
    rw [AddsFromLeft, if_pos isText, concat, if_pos isText]
    generalize beforeText operands = plain at split
    rw [split, leftSum_of_string plain isString, string_ofList_inj, concatTexts_append,
      List.append_left_inj, eq_comm]
  | false =>
    rw [AddsFromLeft, if_neg (by simp [isText]), concat_of_noString isText, ← isAll,
      leftSum_of_noString (by rw [isAll, isText]), isAll]
    rcases leadingIntegers none operands with ⟨sum, _ | ⟨operand, rest⟩⟩
    · exact ⟨fun _ => trivial, fun _ => rfl⟩
    · exact ofFloat?_inj.trans eq_comm

end Value

namespace Expr

/-! ### Sums of expressions -/

/-- Operands joined by plus signs two at a time from the left. -/
def leftNested (first : Expr) (others : List Expr) : Expr :=
  others.foldl (fun sum operand => .concat [sum, operand]) first

variable (resolve : Path → Option Value)

theorem eval_concat_pair (left right : Expr) :
    eval resolve (.concat [left, right]) = (eval resolve left).plus (eval resolve right) := by
  rw [eval, evalEach, evalEach, evalEach, Value.concat_pair]

theorem eval_leftNested (first : Expr) (others : List Expr) :
    eval resolve (leftNested first others) =
      Value.leftSum (evalEach resolve (first :: others)) := by
  rw [evalEach, Value.leftSum]
  induction others generalizing first with
  | nil => rfl
  | cons operand rest inductionHypothesis =>
    rw [leftNested, List.foldl_cons, ← leftNested, inductionHypothesis, eval_concat_pair, evalEach,
      List.foldl_cons]

/-- A sum of two expressions joins their texts if either is a string and adds numbers otherwise. A
longer one has the value of its operands joined two at a time from the left exactly where that makes
no difference to the text before the first string, or to the rounding. -/
theorem eval_concat_eq_leftNested_iff (first second : Expr) (others : List Expr) :
    eval resolve (.concat [first, second]) = (eval resolve first).plus (eval resolve second) ∧
      (eval resolve (.concat (first :: second :: others)) =
          eval resolve (leftNested first (second :: others)) ↔
        Value.AddsFromLeft (evalEach resolve (first :: second :: others))) := by
  refine ⟨eval_concat_pair resolve first second, ?_⟩
  rw [eval_leftNested, eval, evalEach, evalEach]
  exact Value.concat_eq_leftSum_iff _ _ _

/-- Two integers in front of a string are added from the left, and joined as texts at once. -/
theorem eval_concat_ne_leftNested :
    let noPaths : Path → Option Value := fun _ => none
    let others : List Expr := [.value (.int64 2), .value (.string "x")]
    eval noPaths (.concat (.value (.int64 1) :: others)) = .string "12x" ∧
      eval noPaths (leftNested (.value (.int64 1)) others) = .string "3x" := by
  intro noPaths others
  have joined : String.ofList (Value.concatTexts [.int64 1, .int64 2, .string "x"]) = "12x" := by
    decide +kernel
  have summed : String.ofList ((Value.int64 3).part ++ (Value.string "x").part) = "3x" := by
    decide +kernel
  have three : Value.plus (.int64 1) (.int64 2) = .int64 3 := rfl
  rw [← joined, ← summed]
  refine ⟨rfl, ?_⟩
  calc eval noPaths (leftNested (.value (.int64 1)) others)
    _ = (Value.plus (.int64 1) (.int64 2)).plus (.string "x") := eval_leftNested noPaths _ others
    _ = (Value.int64 3).plus (.string "x") := by rw [three]
    _ = .string (String.ofList ((Value.int64 3).part ++ (Value.string "x").part)) :=
      Value.plus_string rfl _

end Expr

end DynamicSql
