/-
This file writes natural numbers in decimal digits and reads them back, alone or behind a sign.
`valueOf_decimal` says that the digits written for a number have that number as their value, and
`all_isDigit_decimal` that nothing but digits is written.
-/

namespace DynamicSql.Number

/-- One of the ten ASCII digits. -/
def isDigit (character : Char) : Bool :=
  '0' ≤ character && character ≤ '9'

/-- The digit of a number below ten. -/
def digit (value : Nat) : Char :=
  Char.ofNat (48 + value)

/-- The number that a digit stands for. -/
def digitValue (character : Char) : Nat :=
  character.toNat - 48

/-! ### Writing -/

/-- The decimal digits of a number, the most significant first; zero has one digit. -/
def decimal (value : Nat) : List Char :=
  if value < 10 then [digit value] else decimal (value / 10) ++ [digit (value % 10)]
termination_by value

/-- The decimal digits of an integer behind a minus sign when it is negative. -/
def signedDecimal (value : Int) : List Char :=
  if value < 0 then '-' :: decimal value.natAbs else decimal value.natAbs

/-- The last `width` digits of a number, with zeros in front where it has fewer. -/
def padded (width : Nat) (value : Nat) : List Char :=
  let digits := decimal value
  List.replicate (width - digits.length) '0' ++ digits

/-! ### Reading -/

/-- The number that digits stand for, read on from `start`. -/
def valueFrom (start : Nat) (digits : List Char) : Nat :=
  digits.foldl (fun value character => 10 * value + digitValue character) start

/-- The number that digits stand for. -/
def valueOf (digits : List Char) : Nat :=
  valueFrom 0 digits

/-- The number written by a text of one or more digits. -/
def readDigits? (text : List Char) : Option Nat :=
  if text.isEmpty || !text.all isDigit then none else some (valueOf text)

/-- The number below `limit` written by digits that may stand behind a plus sign. -/
def readUnsigned? (limit : Nat) (text : List Char) : Option Nat :=
  let digits := match text with
    | '+' :: rest => rest
    | _ => text
  (readDigits? digits).filter (· < limit)

/-- The integer from `low` to `high` written by digits that may stand behind a sign. -/
def readSigned? (low high : Int) (text : List Char) : Option Int :=
  let value := match text with
    | '+' :: rest => (readDigits? rest).map Int.ofNat
    | '-' :: rest => (readDigits? rest).map fun value => -Int.ofNat value
    | _ => (readDigits? text).map Int.ofNat
  value.filter fun value => low ≤ value && value ≤ high

/-! ### The digits written are read back -/

theorem valueFrom_append (start : Nat) (first second : List Char) :
    valueFrom start (first ++ second) = valueFrom (valueFrom start first) second := by
  simp [valueFrom]

@[simp]
theorem digitValue_digit {value : Nat} (small : value < 10) : digitValue (digit value) = value := by
  have cases : ∀ value < 10, digitValue (digit value) = value := by decide
  exact cases value small

@[simp]
theorem isDigit_digit {value : Nat} (small : value < 10) : isDigit (digit value) = true := by
  have cases : ∀ value < 10, isDigit (digit value) = true := by decide
  exact cases value small

@[simp]
theorem valueOf_decimal (value : Nat) : valueOf (decimal value) = value := by
  induction value using decimal.induct with
  | case1 value small =>
    rw [decimal, if_pos small]
    simp [valueOf, valueFrom, small]
  | case2 value large inductionHypothesis =>
    rw [decimal, if_neg large, valueOf, valueFrom_append]
    unfold valueOf at inductionHypothesis
    rw [inductionHypothesis]
    simp only [valueFrom, List.foldl_cons, List.foldl_nil,
      digitValue_digit (Nat.mod_lt value (by decide : 0 < 10))]
    omega

theorem all_isDigit_decimal (value : Nat) : (decimal value).all isDigit = true := by
  induction value using decimal.induct with
  | case1 value small =>
    rw [decimal, if_pos small]
    simp [small]
  | case2 value large inductionHypothesis =>
    rw [decimal, if_neg large, List.all_append, inductionHypothesis]
    simp [Nat.mod_lt]

theorem decimal_ne_nil (value : Nat) : decimal value ≠ [] := by
  rw [decimal]
  split <;> simp

@[simp]
theorem readDigits?_decimal (value : Nat) : readDigits? (decimal value) = some value := by
  have filled : (decimal value).isEmpty = false := by
    simpa using decimal_ne_nil value
  simp [readDigits?, filled, all_isDigit_decimal]

end DynamicSql.Number
