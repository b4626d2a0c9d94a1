/-
This file writes tokens as text and proves that the text is cut back into the same tokens. Every
token is written with a blank in front of it, so that it ends where the next one begins; only a call
stands right behind its path. What is left to ask is that a call follows a path and that operands
and operators take turns: a minus belongs to a number only where an operand can begin, and a
parenthesis behind a path would be the one of a call.
-/

import DynamicSql.Expr.Token
import DynamicSql.Proofs.Path.Writing
import Mathlib.Data.List.Chain

namespace DynamicSql

open Number (isDigit)
open Text (isBlank isNameCharacter)

/-! ### Paths as words -/

/-- A path that can be written as a word: some text writes it, it does not begin like a number, and
it is not a keyword by itself. -/
structure Path.IsWord (path : Path) : Prop where
  written : ∃ text, Path.read? text = some path
  noNumber : ∀ first ∈ path.root.toList.head?, isDigit first = false
  noKeyword : ∀ name, path = Path.ofName name → Token.ofKeyword? name = none

namespace Path

variable {path : Path}

theorem IsWord.isReadable (isWord : path.IsWord) : path.IsReadable := by
  obtain ⟨text, read⟩ := isWord.written
  exact isReadable_of_read? read

/-- A path is written in the characters of words. -/
theorem isWordPart_of_mem_text (readable : path.IsReadable) :
    ∀ character ∈ path.text, Token.isWordPart character = true := by
  intro character member
  rcases mem_text readable member with name | separator
  · simp [Token.isWordPart, name]
  · have separate : separators.all Token.isWordPart = true := by decide
    exact List.all_eq_true.1 separate character separator

/-- The text of a path begins with a character of names, and with a digit only if the path does. -/
theorem exists_head_of_isWord (isWord : path.IsWord) :
    ∃ first rest, path.text = first :: rest ∧ isNameCharacter first = true ∧
      isDigit first = false := by
  have noNumber := isWord.noNumber
  obtain ⟨name, steps, segments, filled, named⟩ := isWord.isReadable
  obtain ⟨first, rest, isName⟩ := List.exists_cons_of_ne_nil filled.1
  refine ⟨first, rest ++ steps.flatMap stepText, ?_, ?_, ?_⟩
  · simp only [text, segments, headText, isName, List.cons_append]
  · exact filled.2 first (isName ▸ List.mem_cons_self)
  · refine noNumber first ?_
    rw [root, segments, isName]
    exact rfl

/-- A name is a word unless it begins like a number or is a keyword. -/
theorem isWord_ofName {name : String} (isName : IsName name)
    (noNumber : name.toList.head?.any isDigit = false)
    (noKeyword : Token.ofKeyword? name = none) : (ofName name).IsWord where
  written := ⟨_, read?_text ⟨name, [], rfl, isName, nofun⟩⟩
  noNumber := by
    intro first isHead
    rw [show name.toList.head? = some first from isHead] at noNumber
    exact noNumber
  noKeyword := by
    rintro _ ⟨⟩
    exact noKeyword

end Path

namespace Token

/-- The words that stand for tokens. -/
def keywords : List String :=
  ["and", "or", "not", "null", "true", "false", "eq", "neq", "ne", "lt", "lte", "le", "gt", "gte",
    "ge"]

theorem mem_keywords_of_ofKeyword? {word : String} {token : Token}
    (isKeyword : ofKeyword? word = some token) : word ∈ keywords := by
  by_contra absent
  simp only [keywords, List.mem_cons, List.not_mem_nil, or_false, not_or] at absent
  simp [ofKeyword?, absent] at isKeyword

/-- A path is a keyword only if it is one by its name alone: no keyword has a separator in it. -/
theorem ofKeyword?_text {path : Path} (isWord : path.IsWord) :
    ofKeyword? (String.ofList path.text) = none := by
  have noKeyword := isWord.noKeyword
  obtain ⟨name, steps, segments, -, -⟩ := isWord.isReadable
  have written : path.text = name.toList ++ steps.flatMap Path.stepText := by
    simp only [Path.text, segments, Path.headText]
  cases steps with
  | nil =>
    rw [written, List.flatMap_nil, List.append_nil, String.ofList_toList]
    refine noKeyword name ?_
    obtain ⟨_⟩ := path
    exact congrArg Path.mk segments
  | cons step rest =>
    cases isKeyword : ofKeyword? (String.ofList path.text) with
    | none => rfl
    | some token =>
      have plain : ∀ word ∈ keywords, '.' ∉ word.toList ∧ '[' ∉ word.toList := by decide
      obtain ⟨noPoint, noBracket⟩ := plain _ (mem_keywords_of_ofKeyword? isKeyword)
      rw [written, String.toList_ofList] at noPoint noBracket
      cases step with
      | field field => exact absurd (by simp [Path.stepText]) noPoint
      | index position => exact absurd (by simp [Path.stepText]) noBracket

/-! ### Writing tokens -/

/-- A character of a string, behind a backslash where it would mean something else. -/
def escape (character : Char) : List Char :=
  if character = '\\' ∨ character = '\'' then ['\\', character] else [character]

/-- A string in quotation marks. -/
def quoted (text : List Char) : List Char :=
  '\'' :: (text.flatMap escape ++ ['\''])

/-- The text of a token. -/
def text : Token → List Char
  | .and => ['&', '&']
  | .or => ['|', '|']
  | .not => ['!']
  | .plus => ['+']
  | .open => ['(']
  | .close => [')']
  | .compare comparison => comparison.sign.toList
  | .null => "null".toList
  | .bool true => "true".toList
  | .bool false => "false".toList
  | .integer value => Number.signedDecimal value.toInt
  | .float value => value.plainText
  | .string text => quoted text.toList
  | .path target => target.text
  | .call method => '.' :: method.toList ++ ['(', ')']

/-- The text of a token with what parts it from the one before: a blank, and for a call nothing. -/
def spaced : Token → List Char
  | .call method => text (.call method)
  | token => ' ' :: token.text

/-- The text of tokens; there is no blank in front of the first. -/
def write (tokens : List Token) : List Char :=
  (tokens.flatMap spaced).drop 1

/-- A token that is read back from its text. The least integer is not, since its digits are read
without the sign. -/
def IsWritable : Token → Prop
  | .integer value => value ≠ Int64.minValue
  | .float _ => False
  | .path target => target.IsWord
  | .call method => Path.IsName method
  | _ => True

/-! ### Cutting a sign, a word or a literal -/

/-- The characters that signs begin with. -/
def signHeads : List Char := ['&', '|', '=', '!', '<', '>', '(', ')', '+']

theorem sign?_eq_none {character : Char} (noSign : character ∉ signHeads) (rest : List Char) :
    sign? (character :: rest) = none := by
  simp only [signHeads, List.mem_cons, List.not_mem_nil, or_false, not_or] at noSign
  unfold sign?
  split <;> simp_all

/-- A character of names begins neither a sign nor a string nor a negative number. -/
theorem ne_of_isNameCharacter {character : Char} (named : isNameCharacter character = true) :
    character ∉ signHeads ∧ character ≠ '\'' ∧ character ≠ '"' ∧ character ≠ '-' := by
  have others : ('\'' :: '"' :: '-' :: signHeads).any isNameCharacter = false := by
    decide
  have absent : character ∉ '\'' :: '"' :: '-' :: signHeads := fun member => by
    exact List.any_eq_false.1 others character member named
  simp only [List.mem_cons, not_or] at absent
  exact ⟨absent.2.2.2, absent.1, absent.2.1, absent.2.2.1⟩

/-- A text that a token is followed by: nothing, or a blank first. -/
def IsGap (rest : List Char) : Prop :=
  ∀ character ∈ rest.head?, character = ' '

variable {rest : List Char}

theorem isGap_cons (rest : List Char) : IsGap (' ' :: rest) := by
  intro character isHead
  exact (Option.some.inj isHead).symm

/-- A sign is cut off in front of a blank. -/
theorem sign?_compare (comparison : Comparison) (gap : IsGap rest) :
    sign? (comparison.sign.toList ++ rest) = some (.compare comparison, rest) := by
  cases rest with
  | nil => cases comparison <;> decide
  | cons character rest =>
    obtain rfl := gap character rfl
    cases comparison <;> rfl

theorem next?_of_sign? (afterOperand : Bool) {text : List Char} {token : Token}
    (isSign : sign? text = some (token, rest)) :
    next? afterOperand text = some ([token], rest) := by
  unfold next?
  rw [isSign]

/-- A text that is cut off as a word: it begins with a character of names that is no digit. -/
def isWord : List Char → Bool
  | [] => false
  | first :: rest =>
    isNameCharacter first && !isDigit first && (first :: rest).all isWordPart

/-- A word is cut off up to where its characters end. -/
theorem next?_word (afterOperand : Bool) {word : List Char} (isWord : isWord word = true)
    (ended : ∀ character ∈ rest.head?, isWordPart character = false) :
    next? afterOperand (word ++ rest) =
      match ofKeyword? (String.ofList word) with
      | some token => some ([token], rest)
      | none => ofWord? word rest := by
  cases word with
  | nil => cases isWord
  | cons first more =>
    simp only [Token.isWord, Bool.and_eq_true, Bool.not_eq_true'] at isWord
    obtain ⟨⟨named, noDigit⟩, parts⟩ := isWord
    obtain ⟨noSign, noQuote, noDoubleQuote, noMinus⟩ := ne_of_isNameCharacter named
    obtain ⟨taken, dropped⟩ := Text.span_of_ended (List.all_eq_true.1 parts) ended
    rw [List.cons_append] at taken dropped ⊢
    unfold next?
    rw [sign?_eq_none noSign]
    cases keyword : ofKeyword? (String.ofList (first :: more)) <;>
      simp only [noQuote, noDoubleQuote, noMinus, noDigit, named, taken, dropped, keyword,
        decide_false, Bool.or_self, Bool.false_eq_true, if_false, if_true]

theorem not_isWordPart_of_isGap (gap : IsGap rest) :
    ∀ character ∈ rest.head?, isWordPart character = false := by
  intro character isHead
  rw [gap character isHead]
  decide

/-- A keyword is cut off as its token. -/
theorem next?_keyword (afterOperand : Bool) (word : String) {token : Token}
    (isKeyword : ofKeyword? word = some token) (gap : IsGap rest) :
    next? afterOperand (word.toList ++ rest) = some ([token], rest) := by
  have words : ∀ word ∈ keywords, isWord word.toList = true := by decide
  rw [next?_word afterOperand (words word (mem_keywords_of_ofKeyword? isKeyword))
    (not_isWordPart_of_isGap gap), String.ofList_toList, isKeyword]

/-- A string is read back up to its closing mark. -/
theorem stringRest?_escape (text rest : List Char) :
    stringRest? '\'' (text.flatMap escape ++ '\'' :: rest) = some (text, rest) := by
  induction text with
  | nil => simp [stringRest?]
  | cons character others inductionHypothesis =>
    rw [List.flatMap_cons, List.append_assoc]
    by_cases special : character = '\\' ∨ character = '\''
    · rw [escape, if_pos special]
      rcases special with rfl | rfl <;>
        simp [stringRest?, inductionHypothesis]
    · rw [escape, if_neg special]
      obtain ⟨noBackslash, noMark⟩ := not_or.1 special
      simp [stringRest?, noBackslash, noMark, inductionHypothesis]

theorem next?_string (afterOperand : Bool) (text rest : List Char) :
    next? afterOperand (quoted text ++ rest) = some ([.string (String.ofList text)], rest) := by
  have read := stringRest?_escape text rest
  unfold quoted next?
  rw [List.cons_append, List.append_assoc, List.singleton_append]
  simp [sign?, read]

/-! ### Cutting a path -/

theorem isWord_text {path : Path} (isWord : path.IsWord) : Token.isWord path.text = true := by
  obtain ⟨first, rest, written, named, noDigit⟩ := Path.exists_head_of_isWord isWord
  have parts := List.all_eq_true.2 (Path.isWordPart_of_mem_text isWord.isReadable)
  rw [written] at parts ⊢
  simp only [Token.isWord, named, noDigit, parts, Bool.not_false, Bool.and_self]

/-- A path is cut off unless a parenthesis comes next, which would be the one of a call. -/
theorem next?_path (afterOperand : Bool) {path : Path} (isWord : path.IsWord) (gap : IsGap rest)
    (noCall : (Text.trimStart rest).head? ≠ some '(') :
    next? afterOperand (path.text ++ rest) = some ([.path path], rest) := by
  have behind : behindCall? rest = some none := by
    unfold behindCall?
    split
    · next inside isCall => exact absurd (by rw [isCall]; rfl) noCall
    · rfl
  rw [next?_word afterOperand (isWord_text isWord) (not_isWordPart_of_isGap gap),
    ofKeyword?_text isWord]
  simp only [ofWord?, behind, Path.read?_text isWord.isReadable, Option.map_some]

theorem isWordPart_of_isName {name : String} (isName : Path.IsName name) :
    ∀ character ∈ name.toList, isWordPart character = true := by
  intro character member
  simp [isWordPart, isName.2 character member]

/-- A call is cut off with the path in front of it. -/
theorem next?_call (afterOperand : Bool) {path : Path} (isWord : path.IsWord) {method : String}
    (isName : Path.IsName method) (rest : List Char) :
    next? afterOperand (path.text ++ (text (.call method) ++ rest)) =
      some ([.path path, .call method], rest) := by
  have word : Token.isWord (path.text ++ '.' :: method.toList) = true := by
    obtain ⟨first, more, written, named, noDigit⟩ := Path.exists_head_of_isWord isWord
    have parts : ∀ character ∈ path.text ++ '.' :: method.toList,
        isWordPart character = true := by
      refine List.forall_mem_append.2 ⟨Path.isWordPart_of_mem_text isWord.isReadable, ?_⟩
      exact List.forall_mem_cons.2 ⟨by decide, isWordPart_of_isName isName⟩
    rw [written, List.cons_append] at parts ⊢
    simp only [Token.isWord, named, noDigit, List.all_eq_true.2 parts, Bool.not_false,
      Bool.and_self]
  have noPoint : '.' ∉ method.toList := fun member => by
    have named := isName.2 '.' member
    revert named
    decide
  have noKeyword : ofKeyword? (String.ofList (path.text ++ '.' :: method.toList)) = none := by
    cases isKeyword : ofKeyword? (String.ofList (path.text ++ '.' :: method.toList)) with
    | none => rfl
    | some token =>
      have plain : ∀ word ∈ keywords, '.' ∉ word.toList := by decide
      have absent := plain _ (mem_keywords_of_ofKeyword? isKeyword)
      rw [String.toList_ofList] at absent
      exact absurd (by simp) absent
  have ended : ∀ character ∈ ('(' :: ')' :: rest).head?, isWordPart character = false := by
    intro character isHead
    obtain rfl := Option.some.inj isHead
    decide
  have whole : path.text ++ (text (.call method) ++ rest) =
      path.text ++ '.' :: method.toList ++ '(' :: ')' :: rest := by
    simp [text]
  have behind : behindCall? ('(' :: ')' :: rest) = some (some rest) := by
    simp [behindCall?, Text.trimStart, Text.isBlank]
  rw [whole, next?_word afterOperand word ended, noKeyword]
  simp only [ofWord?, behind, Text.cutLast?_append noPoint, Path.read?_text isWord.isReadable,
    Option.map_some, String.ofList_toList]

/-! ### Cutting a number -/

theorem isDigit_of_mem_decimal {magnitude : Nat} {character : Char}
    (member : character ∈ Number.decimal magnitude) : isDigit character = true :=
  List.all_eq_true.1 (Number.all_isDigit_decimal magnitude) character member

theorem exists_head_decimal (magnitude : Nat) :
    ∃ first more, Number.decimal magnitude = first :: more ∧ isDigit first = true := by
  obtain ⟨first, more, written⟩ :=
    List.exists_cons_of_ne_nil (Number.decimal_ne_nil magnitude)
  exact ⟨first, more, written, isDigit_of_mem_decimal (written ▸ List.mem_cons_self)⟩

/-- The digits of a number are read if it is in range. -/
theorem readSigned?_decimal {low high : Int} (negativeLow : low ≤ 0) (magnitude : Nat) :
    Number.readSigned? low high (Number.decimal magnitude) =
      if (magnitude : Int) ≤ high then some (magnitude : Int) else none := by
  have noSign : ∀ sign ∈ ['+', '-'], (Number.decimal magnitude).head? ≠ some sign := by
    intro sign isSign isHead
    have digit := isDigit_of_mem_decimal (List.mem_of_head? isHead)
    rcases List.mem_pair.1 isSign with rfl | rfl <;> cases digit
  have read : Number.readSigned? low high (Number.decimal magnitude) =
      (some (magnitude : Int)).filter fun value => low ≤ value && value ≤ high := by
    unfold Number.readSigned?
    split
    · next rest isPlus => exact absurd (by rw [isPlus]; rfl) (noSign '+' (by simp))
    · next rest isMinus => exact absurd (by rw [isMinus]; rfl) (noSign '-' (by simp))
    · rw [Number.readDigits?_decimal]
      rfl
  have inRange : low ≤ (magnitude : Int) := Int.le_trans negativeLow (Int.natCast_nonneg magnitude)
  rw [read]
  simp only [Option.filter_some, inRange, decide_true, Bool.true_and, decide_eq_true_eq]

/-- A number is read by its magnitude, whatever its sign. -/
theorem number?_decimal (negative : Bool) (magnitude : Nat) (gap : IsGap rest) :
    number? negative (Number.decimal magnitude ++ rest) =
      if (magnitude : Int) ≤ Value.greatestInt64 then
        some (.integer (Int64.ofInt (if negative then -(magnitude : Int) else magnitude)), rest)
      else none := by
  have ended : ∀ character ∈ rest.head?, isDigit character = false := by
    intro character isHead
    rw [gap character isHead]
    rfl
  have digits : ∀ character ∈ Number.decimal magnitude, isDigit character = true :=
    fun _ member => isDigit_of_mem_decimal member
  obtain ⟨taken, dropped⟩ := Text.span_of_ended digits ended
  have least : Value.leastInt64 ≤ 0 := by decide
  unfold number?
  rw [taken, dropped]
  -- A blank or the end behind the digits leaves no room for a fraction.
  have whole : rest = [] ∨ ∃ later, rest = ' ' :: later := by
    rcases rest with _ | ⟨character, later⟩
    · exact .inl rfl
    · exact .inr ⟨later, by rw [gap character rfl]⟩
  by_cases inRange : (magnitude : Int) ≤ Value.greatestInt64
  · simp only [readSigned?_decimal least, if_pos inRange]
    rcases whole with rfl | ⟨later, rfl⟩ <;> rfl
  · simp only [readSigned?_decimal least, if_neg inRange]
    rcases whole with rfl | ⟨later, rfl⟩ <;> rfl

theorem next?_digits (afterOperand : Bool) {first : Char} (digit : isDigit first = true)
    (more : List Char) : next? afterOperand (first :: more) =
      (number? false (first :: more)).map fun (token, rest) => ([token], rest) := by
  obtain ⟨noSign, noQuote, noDoubleQuote, noMinus⟩ :=
    ne_of_isNameCharacter (Text.isNameCharacter_of_isDigit digit)
  unfold next?
  rw [sign?_eq_none noSign]
  simp only [noQuote, noDoubleQuote, noMinus, digit, decide_false, Bool.or_self,
    Bool.false_eq_true, if_false, if_true]

theorem next?_minus {first : Char} (digit : isDigit first = true) (more : List Char) :
    next? false ('-' :: first :: more) =
      (number? true (first :: more)).map fun (token, rest) => ([token], rest) := by
  unfold next?
  simp [sign?, digit]

/-- Where an operand can begin, an integer is cut off with its sign; the least one is not, since
its magnitude is beyond the greatest. -/
theorem next?_integer (value : Int64) (gap : IsGap rest) :
    next? false (text (.integer value) ++ rest) =
      if value = Int64.minValue then none else some ([.integer value], rest) := by
  obtain ⟨first, more, written, digit⟩ := exists_head_decimal value.toInt.natAbs
  have number := fun negative => number?_decimal negative value.toInt.natAbs gap
  have isLeast : value = Int64.minValue ↔ value.toInt = Value.leastInt64 := Int64.toInt_inj.symm
  have atLeast : Value.leastInt64 ≤ value.toInt := Int64.minValue_le_toInt value
  have atMost : value.toInt ≤ Value.greatestInt64 := Int64.toInt_le value
  have least : Value.leastInt64 = -Value.greatestInt64 - 1 := by decide
  rw [text, Number.signedDecimal]
  by_cases negative : value.toInt < 0
  · have magnitude : -((value.toInt.natAbs : Nat) : Int) = value.toInt := by omega
    rw [written] at number
    rw [if_pos negative, written, List.cons_append, List.cons_append, next?_minus digit,
      ← List.cons_append, number, if_pos rfl, magnitude, Int64.ofInt_toInt]
    by_cases isMin : value = Int64.minValue
    · rw [if_pos isMin, if_neg (by rw [isLeast] at isMin; omega)]
      rfl
    · rw [if_neg isMin, if_pos (by rw [isLeast] at isMin; omega)]
      rfl
  · have magnitude : ((value.toInt.natAbs : Nat) : Int) = value.toInt := by omega
    have notLeast : value ≠ Int64.minValue := by
      rw [ne_eq, isLeast]
      have below : Value.leastInt64 < 0 := by decide
      omega
    rw [written] at number
    rw [if_neg negative, written, List.cons_append, next?_digits false digit, ← List.cons_append,
      number, if_pos (by omega), if_neg Bool.false_ne_true, magnitude, Int64.ofInt_toInt,
      if_neg notLeast]
    rfl

/-! ### Tokens in a row -/

/-- The tokens that an operand begins with. -/
def startsOperand : Token → Bool
  | .not => true
  | .open => true
  | .null => true
  | .bool _ => true
  | .integer _ => true
  | .float _ => true
  | .string _ => true
  | .path _ => true
  | _ => false

/-- A token that can stand behind another one: a call behind a path, and anything else where an
operand ends if it begins none, or the other way round. -/
def Follows (before : Token) : Token → Prop
  | .call _ => ∃ path, before = .path path
  | token => token.startsOperand = !before.endsOperand

/-- A token that is no call is cut off in front of the tokens that follow it. -/
theorem next?_text {before token : Token} (writable : token.IsWritable)
    (follows : Follows before token) (noCall : ∀ method, token ≠ .call method) (gap : IsGap rest)
    (closed : token.endsOperand = true → (Text.trimStart rest).head? ≠ some '(') :
    next? before.endsOperand (token.text ++ rest) = some ([token], rest) := by
  cases token with
  | and => exact next?_of_sign? _ rfl
  | or => exact next?_of_sign? _ rfl
  | plus => exact next?_of_sign? _ rfl
  | «open» => exact next?_of_sign? _ rfl
  | close => exact next?_of_sign? _ rfl
  | not =>
    refine next?_of_sign? _ ?_
    rcases rest with _ | ⟨character, later⟩
    · rfl
    · obtain rfl := gap character rfl
      rfl
  | compare comparison => exact next?_of_sign? _ (sign?_compare comparison gap)
  | null => exact next?_keyword _ "null" rfl gap
  | bool value =>
    cases value with
    | true => exact next?_keyword _ "true" rfl gap
    | false => exact next?_keyword _ "false" rfl gap
  | integer value =>
    have start : before.endsOperand = false := by simpa [Follows, startsOperand] using follows
    rw [start, next?_integer value gap, if_neg writable]
  | float value => exact writable.elim
  | string letters => rw [text, next?_string, String.ofList_toList]
  | path path => exact next?_path _ writable gap (closed rfl)
  | call method => exact absurd rfl (noCall method)

/-- The text of a token begins with something that is no blank, and with a parenthesis only if the
token is one. -/
theorem exists_head_text {token : Token} (writable : token.IsWritable) :
    ∃ first more, token.text = first :: more ∧ isBlank first = false ∧
      (first = '(' → token = .open) := by
  have word {character : Char} (named : isNameCharacter character = true) :
      isBlank character = false ∧ character ≠ '(' := by
    refine ⟨Text.isBlank_of_isNameCharacter named, ?_⟩
    rintro rfl
    exact (ne_of_isNameCharacter named).1 (by decide)
  cases token with
  | integer value =>
    obtain ⟨first, more, written, digit⟩ := exists_head_decimal value.toInt.natAbs
    obtain ⟨ink, noParenthesis⟩ := word (Text.isNameCharacter_of_isDigit digit)
    rw [text, Number.signedDecimal, written]
    split
    · exact ⟨_, _, rfl, by decide, nofun⟩
    · exact ⟨_, _, rfl, ink, fun isOpen => absurd isOpen noParenthesis⟩
  | path path =>
    obtain ⟨first, more, written, named, -⟩ := Path.exists_head_of_isWord writable
    obtain ⟨ink, noParenthesis⟩ := word named
    exact ⟨first, more, written, ink, fun isOpen => absurd isOpen noParenthesis⟩
  | «open» => exact ⟨_, _, rfl, by decide, fun _ => rfl⟩
  | compare comparison => cases comparison <;> exact ⟨_, _, rfl, by decide, nofun⟩
  | bool value => cases value <;> exact ⟨_, _, rfl, by decide, nofun⟩
  | float value => exact writable.elim
  | _ => exact ⟨_, _, rfl, by decide, nofun⟩

variable {tokens : List Token}

/-- A token that is no call has a blank in front of it. -/
theorem spaced_of_noCall {token : Token} (noCall : ∀ method, token ≠ .call method) :
    spaced token = ' ' :: token.text := by
  cases token with
  | call method => exact absurd rfl (noCall method)
  | _ => rfl

theorem trimStart_spaced {token : Token} (writable : token.IsWritable) (rest : List Char) :
    Text.trimStart (spaced token ++ rest) = token.text ++ rest := by
  obtain ⟨first, more, written, ink, -⟩ := exists_head_text writable
  have begun : Text.trimStart (token.text ++ rest) = token.text ++ rest := by
    rw [written, List.cons_append, Text.trimStart_cons_of_not_blank ink]
  by_cases isCall : ∃ method, token = .call method
  · obtain ⟨method, rfl⟩ := isCall
    exact begun
  · rw [spaced_of_noCall (not_exists.1 isCall), List.cons_append,
      Text.trimStart_cons_of_blank (by decide), begun]

/-- What follows a token that no call follows begins with a blank. -/
theorem isGap_flatMap_spaced (noCall : ∀ method, tokens.head? ≠ some (.call method)) :
    IsGap (tokens.flatMap spaced) := by
  cases tokens with
  | nil => exact fun _ isHead => nomatch isHead
  | cons token later =>
    rw [List.flatMap_cons, spaced_of_noCall (fun method same => noCall method (by rw [same]; rfl)),
      List.cons_append]
    exact isGap_cons _

/-- A call follows nothing but a path. -/
theorem noCall_of_isChain {before : Token} (chain : (before :: tokens).IsChain Follows)
    (noPath : ∀ path, before ≠ .path path) : ∀ method, tokens.head? ≠ some (.call method) := by
  intro method isHead
  obtain ⟨last, rfl⟩ := List.head?_eq_some_iff.1 isHead
  obtain ⟨path, isPath⟩ := (List.isChain_cons_cons.1 chain).1
  exact noPath path isPath

/-- A token that ends an operand is not followed by a parenthesis that opens. -/
theorem head?_trimStart_spaced {token : Token} (writable : ∀ other ∈ tokens, other.IsWritable)
    (chain : (token :: tokens).IsChain Follows) (ends : token.endsOperand = true) :
    (Text.trimStart (tokens.flatMap spaced)).head? ≠ some '(' := by
  cases tokens with
  | nil => exact nofun
  | cons next later =>
    have isWritable := writable next List.mem_cons_self
    obtain ⟨first, more, written, -, isOpen⟩ := exists_head_text isWritable
    rw [List.flatMap_cons, trimStart_spaced isWritable, written]
    intro isHead
    obtain rfl := isOpen (Option.some.inj isHead)
    have follows : Follows token .open := (List.isChain_cons_cons.1 chain).1
    rw [Follows, ends] at follows
    cases follows
    exact nofun

/-- Tokens at the start of a text are put in front of those behind them. -/
theorem listFrom?_of_next? (fuel : Nat) {afterOperand : Bool} {token : Token}
    (writable : token.IsWritable) {others : List Token} {later : List Char}
    (cut : next? afterOperand (token.text ++ rest) = some (others, later)) :
    listFrom? (fuel + 1) afterOperand (spaced token ++ rest) =
      (listFrom? fuel ((others.getLast?.map endsOperand).getD afterOperand) later).map
        (others ++ ·) := by
  obtain ⟨first, more, written, -⟩ := exists_head_text writable
  rw [listFrom?, trimStart_spaced writable]
  rw [written, List.cons_append] at cut ⊢
  simp only [cut, Option.map_eq_bind]
  rfl

/-- Tokens in a row are cut out of the text that is written for them. -/
theorem listFrom?_spaced {fuel : Nat} (enough : tokens.length < fuel) {before : Token}
    (writable : ∀ token ∈ tokens, token.IsWritable) (chain : (before :: tokens).IsChain Follows)
    (noCall : ∀ method, tokens.head? ≠ some (.call method)) :
    listFrom? fuel before.endsOperand (tokens.flatMap spaced) = some tokens := by
  induction fuel generalizing tokens before with
  | zero => exact absurd enough (Nat.not_lt_zero _)
  | succ fuel inductionHypothesis =>
    rcases tokens with _ | ⟨token, later⟩
    · rfl
    obtain ⟨isWritable, writableLater⟩ := List.forall_mem_cons.1 writable
    obtain ⟨follows, chainLater⟩ := List.isChain_cons_cons.1 chain
    rw [List.length_cons] at enough
    by_cases calls : ∃ method, later.head? = some (.call method)
    · -- A call is cut off together with its path, and no call follows a call.
      obtain ⟨method, isHead⟩ := calls
      obtain ⟨others, rfl⟩ := List.head?_eq_some_iff.1 isHead
      obtain ⟨⟨path, rfl⟩, chainOthers⟩ := List.isChain_cons_cons.1 chainLater
      obtain ⟨isName, writableOthers⟩ := List.forall_mem_cons.1 writableLater
      have cut : next? before.endsOperand
          ((Token.path path).text ++ (spaced (.call method) ++ others.flatMap spaced)) =
            some ([.path path, .call method], others.flatMap spaced) :=
        next?_call before.endsOperand isWritable isName (others.flatMap spaced)
      have rest : listFrom? fuel true (others.flatMap spaced) = some others :=
        inductionHypothesis (by rw [List.length_cons] at enough; omega) writableOthers chainOthers
          (noCall_of_isChain chainOthers nofun)
      rw [List.flatMap_cons, List.flatMap_cons, listFrom?_of_next? fuel isWritable cut]
      show (listFrom? fuel true _).map _ = _
      rw [rest]
      rfl
    · have noCallBehind := not_exists.1 calls
      have cut := next?_text isWritable follows
        (fun method same => noCall method (by rw [same]; rfl))
        (isGap_flatMap_spaced noCallBehind) (head?_trimStart_spaced writableLater chainLater)
      have rest : listFrom? fuel token.endsOperand (later.flatMap spaced) = some later :=
        inductionHypothesis (by omega) writableLater chainLater noCallBehind
      rw [List.flatMap_cons, listFrom?_of_next? fuel isWritable cut]
      show (listFrom? fuel token.endsOperand _).map _ = _
      rw [rest]
      rfl

/-- A text is at least as long as the tokens that are written in it are many. -/
theorem length_le_length_write (writable : ∀ token ∈ tokens, token.IsWritable) :
    tokens.length ≤ (write tokens).length := by
  have twice : ∀ {tokens : List Token}, (∀ token ∈ tokens, token.IsWritable) →
      2 * tokens.length ≤ (tokens.flatMap spaced).length := by
    intro tokens writable
    induction tokens with
    | nil => exact Nat.le_refl _
    | cons token later inductionHypothesis =>
      obtain ⟨isWritable, writableLater⟩ := List.forall_mem_cons.1 writable
      obtain ⟨first, more, written, -⟩ := exists_head_text isWritable
      have two : 2 ≤ (spaced token).length := by
        by_cases isCall : ∃ method, token = .call method
        · obtain ⟨method, rfl⟩ := isCall
          simp [spaced, text]
        · rw [spaced_of_noCall (not_exists.1 isCall), written]
          simp
      have others := inductionHypothesis writableLater
      rw [List.flatMap_cons, List.length_append, List.length_cons]
      omega
  have whole := twice writable
  rw [write, List.length_drop]
  omega

/-- Tokens are cut out of the text that they are written as, where operands and operators take
turns and every token can be written. -/
theorem list?_write (writable : ∀ token ∈ tokens, token.IsWritable)
    (chain : (Token.open :: tokens).IsChain Follows) : list? (write tokens) = some tokens := by
  have noCall := noCall_of_isChain chain nofun
  have read := listFrom?_spaced (Nat.lt_succ_of_le (length_le_length_write writable)) writable
    chain noCall
  rcases tokens with _ | ⟨token, later⟩
  · rfl
  · -- The blank that is left out in front would be skipped.
    have apart : spaced token = ' ' :: token.text :=
      spaced_of_noCall (fun method same => noCall method (by rw [same]; rfl))
    have front : (token :: later).flatMap spaced = ' ' :: write (token :: later) := by
      rw [write, List.flatMap_cons, apart]
      rfl
    rw [front, listFrom?, Text.trimStart_cons_of_blank (by decide)] at read
    rw [list?, listFrom?]
    exact read

end Token

end DynamicSql
