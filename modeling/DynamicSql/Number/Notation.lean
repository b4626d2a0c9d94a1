/-
This file writes and reads floating-point numbers. A `FloatStyle` is everything that two ways of
writing them differ in; `FloatStyle.plain` never uses an exponent and `FloatStyle.json` is the one
of JSON texts. Reading accepts an optional sign before digits with an optional point and exponent,
or one of the words for infinity and not-a-number.
-/

import DynamicSql.Number.Shortest
import DynamicSql.Text.LetterCase
import DynamicSql.Text.Split

namespace DynamicSql.Number

/-! ### Writing -/

/-- How finite numbers are written: which of two equally near shortest decimals is taken, the
exponents of the first digit that are written without an exponent (all of them if `none`), and
whether a whole number is marked with a decimal place. -/
structure FloatStyle where
  tie : Tie
  positional : Option (Int × Int)
  marksWhole : Bool

/-- Positional throughout, and a whole number has no point. -/
def FloatStyle.plain : FloatStyle where
  tie := .up
  positional := none
  marksWhole := false

/-- Positional from `0.00001` to below `10 ^ 16`, and a whole number ends in `.0`. -/
def FloatStyle.json : FloatStyle where
  tie := .toEven
  positional := some (-5, 15)
  marksWhole := true

/-- Digits with the decimal point `point` places after their start. -/
def withPoint (marksWhole : Bool) (digits : List Char) (point : Int) : List Char :=
  let wholeMark := if marksWhole then ['.', '0'] else []
  match point with
  | .negSucc zeros => ['0', '.'] ++ List.replicate (zeros + 1) '0' ++ digits
  | .ofNat places =>
    if places = 0 then ['0', '.'] ++ digits
    else if places < digits.length then digits.take places ++ '.' :: digits.drop places
    else digits ++ List.replicate (places - digits.length) '0' ++ wholeMark

/-- Digits with the point after the first, and the exponent with its sign. -/
def withExponent (digits : List Char) (exponent : Int) : List Char :=
  let mantissa := match digits with
    | first :: second :: rest => first :: '.' :: second :: rest
    | _ => digits
  let sign := if exponent < 0 then '-' else '+'
  mantissa ++ 'e' :: sign :: decimal exponent.natAbs

/-- The text of the magnitude of a finite number. -/
def FloatStyle.magnitude (style : FloatStyle) (units : Nat) : List Char :=
  if units = 0 then if style.marksWhole then ['0', '.', '0'] else ['0']
  else
    let digits := (shortest style.tie units).1
    let point := Int.ofNat digits.length + (shortest style.tie units).2
    let isPositional := match style.positional with
      | none => true
      | some (least, greatest) => least ≤ point - 1 && point - 1 ≤ greatest
    if isPositional then withPoint style.marksWhole digits point
    else withExponent digits (point - 1)

/-- The text of a finite number. -/
def FloatStyle.write (style : FloatStyle) (number : Finite64) : List Char :=
  let magnitude := style.magnitude number.units
  if number.negative then '-' :: magnitude else magnitude

/-- The text of any number, without an exponent. -/
def Binary64.plainText : Binary64 → List Char
  | .nan => "NaN".toList
  | .infinite false => "inf".toList
  | .infinite true => "-inf".toList
  | .finite number => FloatStyle.plain.write number

/-! ### Reading -/

/-- The exponent behind an `e`, or no text at all. -/
def readExponent? : List Char → Option Int
  | [] => some 0
  | mark :: text =>
    if mark = 'e' || mark = 'E' then
      match text with
      | '-' :: digits => (readDigits? digits).map fun value => -Int.ofNat value
      | '+' :: digits => (readDigits? digits).map Int.ofNat
      | digits => (readDigits? digits).map Int.ofNat
    else none

/-- A number without its sign: a word, or digits with an optional point and exponent, at least one
digit standing on one side of the point. -/
def readMagnitude? (negative : Bool) (text : List Char) : Option Binary64 :=
  if Text.sameIgnoringCase text "nan".toList then some .nan
  else if Text.sameIgnoringCase text "inf".toList || Text.sameIgnoringCase text "infinity".toList
  then some (.infinite negative)
  else
    let whole := text.takeWhile isDigit
    let afterWhole := text.dropWhile isDigit
    let (fraction, rest) := match afterWhole with
      | '.' :: afterPoint => (afterPoint.takeWhile isDigit, afterPoint.dropWhile isDigit)
      | _ => ([], afterWhole)
    if whole.isEmpty && fraction.isEmpty then none
    else (readExponent? rest).map fun exponent =>
      .ofDecimal negative (valueOf (whole ++ fraction)) (exponent - Int.ofNat fraction.length)

/-- The number that a text writes, rounded to the format. -/
def Binary64.read? : List Char → Option Binary64
  | '-' :: text => readMagnitude? true text
  | '+' :: text => readMagnitude? false text
  | text => readMagnitude? false text

end DynamicSql.Number
