/-
This file says which texts write numbers in decimal digits, and proves that exactly these are read:
digits alone or behind a plus sign for a natural number, behind a minus sign too for an integer. A
number that is out of bounds is written but not read.
-/

import DynamicSql.Number.Decimal

namespace DynamicSql.Number

/-! ### Digits -/

/-- A text of one or more digits that stand for a number. -/
structure WritesDigits (text : List Char) (value : Nat) : Prop where
  filled : text ≠ []
  all : ∀ character ∈ text, isDigit character = true
  same : valueOf text = value

theorem readDigits?_eq_some_iff {text : List Char} {value : Nat} :
    readDigits? text = some value ↔ WritesDigits text value := by
  unfold readDigits?
  constructor
  · intro read
    split at read
    · cases read
    · next digits =>
      obtain ⟨filled, all⟩ : text ≠ [] ∧ ∀ character ∈ text, isDigit character = true := by
        simpa using digits
      exact ⟨filled, all, Option.some.inj read⟩
  · rintro ⟨filled, all, rfl⟩
    have digits : text.all isDigit = true := List.all_eq_true.2 all
    simp [filled, digits]

/-- Digits do not begin with a sign. -/
theorem WritesDigits.ne_cons {text : List Char} {value : Nat} (written : WritesDigits text value)
    {sign : Char} (noDigit : isDigit sign = false) (rest : List Char) : text ≠ sign :: rest := by
  rintro rfl
  have digit := written.all sign List.mem_cons_self
  rw [noDigit] at digit
  cases digit

/-! ### Signs -/

/-- A text that writes a natural number. -/
inductive WritesNatural : List Char → Nat → Prop
  | plain {digits : List Char} {value : Nat} (written : WritesDigits digits value) :
      WritesNatural digits value
  | plus {digits : List Char} {value : Nat} (written : WritesDigits digits value) :
      WritesNatural ('+' :: digits) value

/-- A text that writes an integer. -/
inductive WritesInteger : List Char → Int → Prop
  | plain {digits : List Char} {value : Nat} (written : WritesDigits digits value) :
      WritesInteger digits (Int.ofNat value)
  | plus {digits : List Char} {value : Nat} (written : WritesDigits digits value) :
      WritesInteger ('+' :: digits) (Int.ofNat value)
  | minus {digits : List Char} {value : Nat} (written : WritesDigits digits value) :
      WritesInteger ('-' :: digits) (-Int.ofNat value)

/-- What a text of a natural number is made of. -/
theorem WritesNatural.eq_plus_or_isDigit {text : List Char} {value : Nat}
    (written : WritesNatural text value) {character : Char} (member : character ∈ text) :
    character = '+' ∨ isDigit character = true := by
  cases written with
  | plain written => exact Or.inr (written.all character member)
  | plus written =>
    rcases List.mem_cons.1 member with rfl | inDigits
    · exact Or.inl rfl
    · exact Or.inr (written.all character inDigits)

theorem readUnsigned?_eq_some_iff {limit value : Nat} {text : List Char} :
    readUnsigned? limit text = some value ↔ WritesNatural text value ∧ value < limit := by
  unfold readUnsigned?
  rw [Option.filter_eq_some_iff, readDigits?_eq_some_iff, decide_eq_true_eq]
  refine and_congr_left fun _ => ⟨fun read => ?_, fun written => ?_⟩
  · split at read
    · exact .plus read
    · exact .plain read
  · cases written with
    | plain written =>
      split
      · exact absurd rfl (written.ne_cons (by decide) _)
      · exact written
    | plus written => exact written

theorem readSigned?_eq_some_iff {low high value : Int} {text : List Char} :
    readSigned? low high text = some value ↔
      WritesInteger text value ∧ low ≤ value ∧ value ≤ high := by
  unfold readSigned?
  rw [Option.filter_eq_some_iff, Bool.and_eq_true, decide_eq_true_eq, decide_eq_true_eq]
  refine and_congr_left fun _ => ⟨fun read => ?_, fun written => ?_⟩
  · split at read <;> obtain ⟨magnitude, digits, rfl⟩ := Option.map_eq_some_iff.1 read
    · exact .plus (readDigits?_eq_some_iff.1 digits)
    · exact .minus (readDigits?_eq_some_iff.1 digits)
    · exact .plain (readDigits?_eq_some_iff.1 digits)
  · cases written with
    | plain written =>
      split
      · exact absurd rfl (written.ne_cons (by decide) _)
      · exact absurd rfl (written.ne_cons (by decide) _)
      · rw [readDigits?_eq_some_iff.2 written, Option.map_some]
    | plus written => simp only [readDigits?_eq_some_iff.2 written, Option.map_some]
    | minus written => simp only [readDigits?_eq_some_iff.2 written, Option.map_some]

/-- A text writes one integer only. -/
theorem WritesInteger.unique {first second : Int} {text : List Char}
    (written : WritesInteger text first) (again : WritesInteger text second) : first = second := by
  have read : readSigned? (min first second) (max first second) text = some first :=
    readSigned?_eq_some_iff.2 ⟨written, Int.min_le_left .., Int.le_max_left ..⟩
  have readAgain : readSigned? (min first second) (max first second) text = some second :=
    readSigned?_eq_some_iff.2 ⟨again, Int.min_le_right .., Int.le_max_right ..⟩
  rw [read] at readAgain
  exact Option.some.inj readAgain

end DynamicSql.Number
