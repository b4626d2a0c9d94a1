/-
This file cuts markup into lexemes: opening, empty and closing tags, runs of text, character data,
and all that is passed over, which is comments, instructions and document type declarations.
Cutting stops at the first construct that is not closed or not known.
-/

import DynamicSql.Markup.Attribute
import DynamicSql.Text.LetterCase

namespace DynamicSql.Markup

/-- A lexeme, as it is written in the markup. -/
inductive Lexeme where
  | opening (inside : List Char)
  | empty (inside : List Char)
  | closing (name : List Char)
  | text (text : List Char)
  | characterData (text : List Char)
  | skipped
  deriving DecidableEq

/-- Why markup cannot be cut any further. -/
inductive SyntaxFault where
  | unclosedTag
  | unknownMarkup
  | unclosedComment
  | unclosedCharacterData
  | unclosedDoctype
  | unclosedInstruction
  | namelessDoctype
  | unmatchedClosing (name : String)
  deriving DecidableEq

/-- The message for a fault. -/
def SyntaxFault.message : SyntaxFault → String
  | .unclosedTag => "syntax error: tag not closed: `>` not found before end of input"
  | .unknownMarkup => "syntax error: unknown or missed symbol in markup"
  | .unclosedComment => "syntax error: comment not closed: `-->` not found before end of input"
  | .unclosedCharacterData =>
    "syntax error: CDATA not closed: `]]>` not found before end of input"
  | .unclosedDoctype => "syntax error: DOCTYPE not closed: `>` not found before end of input"
  | .unclosedInstruction =>
    "syntax error: processing instruction or xml declaration not closed: `?>` not found " ++
      "before end of input"
  | .namelessDoctype =>
    "ill-formed document: `<!DOCTYPE>` declaration does not contain a name of a document type"
  | .unmatchedClosing name =>
    "ill-formed document: close tag `</" ++ name ++ ">` does not match any open tag"

/-- What the start of some markup is: a lexeme or a fault, each with the markup behind it. -/
inductive Cut where
  | lexeme (lexeme : Lexeme) (rest : List Char)
  | fault (fault : SyntaxFault) (rest : List Char)

/-! ### Finding ends -/

/-- What stands before and after the first occurrence of a text. -/
def cutAt? (mark : List Char) : List Char → Option (List Char × List Char)
  | [] => none
  | character :: rest =>
    match Text.dropPrefix? mark (character :: rest) with
    | some after => some ([], after)
    | none => (cutAt? mark rest).map fun parts => (character :: parts.1, parts.2)

/-- What stands before and after the first closing bracket outside of quotation marks; `mark` is
the quotation mark that the text begins within. -/
def cutTag? (mark : Option Char) : List Char → Option (List Char × List Char)
  | [] => none
  | character :: rest =>
    let extend := fun (parts : List Char × List Char) => (character :: parts.1, parts.2)
    match mark with
    | some quotation =>
      (cutTag? (if character = quotation then none else mark) rest).map extend
    | none =>
      if character = '>' then some ([], rest)
      else if character = '\'' || character = '"' then (cutTag? (some character) rest).map extend
      else (cutTag? none rest).map extend

/-- What stands before and after the first closing bracket that `depth` opening brackets and those
that follow leave over. -/
def cutBalanced? (depth : Nat) : List Char → Option (List Char × List Char)
  | [] => none
  | character :: rest =>
    let extend := fun (parts : List Char × List Char) => (character :: parts.1, parts.2)
    if character = '<' then (cutBalanced? (depth + 1) rest).map extend
    else if character = '>' then
      match depth with
      | 0 => some ([], rest)
      | depth + 1 => (cutBalanced? depth rest).map extend
    else (cutBalanced? depth rest).map extend

/-! ### Constructs -/

/-- A comment, its text beginning behind `<!`. The two dashes that open it do not close it. -/
def cutComment (text : List Char) : Cut :=
  match cutAt? ['-', '-', '>'] (text.drop 2) with
  | some (_, rest) =>
    if text.take 2 = ['-', '-'] then .lexeme .skipped rest else .fault .unclosedComment rest
  | none => .fault .unclosedComment []

/-- Character data, its text beginning behind `<!`. -/
def cutCharacterData (text : List Char) : Cut :=
  match cutAt? [']', ']', '>'] text with
  | some (inside, rest) =>
    match Text.dropPrefix? "[CDATA[".toList inside with
    | some data => .lexeme (.characterData data) rest
    | none => .fault .unclosedCharacterData rest
  | none => .fault .unclosedCharacterData []

/-- A document type declaration, its text beginning behind `<!`. -/
def cutDoctype (text : List Char) : Cut :=
  match cutBalanced? 0 text with
  | some (inside, rest) =>
    match Text.dropPrefixIgnoringCase? "DOCTYPE".toList inside with
    | some name =>
      if name.all isSpace then .fault .namelessDoctype rest else .lexeme .skipped rest
    | none => .fault .unclosedDoctype rest
  | none => .fault .unclosedDoctype []

/-- An instruction, its text beginning behind `<?`. -/
def cutInstruction (text : List Char) : Cut :=
  match text with
  | '>' :: rest => .fault .unclosedInstruction rest
  | _ =>
    match cutAt? ['?', '>'] text with
    | some (_, rest) => .lexeme .skipped rest
    | none => .fault .unclosedInstruction []

/-- The name in a closing tag: blanks behind it do not belong to it, unless nothing else does. -/
def closingName (inside : List Char) : List Char :=
  let name := (inside.reverse.dropWhile isSpace).reverse
  if name.isEmpty then inside else name

/-- A closing tag, its text beginning behind the slash; `depth` elements are open. -/
def cutClosing (depth : Nat) (text : List Char) : Cut :=
  match cutTag? none text with
  | some (inside, rest) =>
    let name := closingName inside
    if depth = 0 then .fault (.unmatchedClosing (String.ofList name)) rest
    else .lexeme (.closing name) rest
  | none => .fault .unclosedTag []

/-- An opening or an empty tag, its text beginning behind the bracket. -/
def cutOpening (text : List Char) : Cut :=
  match cutTag? none text with
  | some (inside, rest) =>
    if inside.getLast? = some '/' then .lexeme (.empty inside.dropLast) rest
    else .lexeme (.opening inside) rest
  | none => .fault .unclosedTag []

/-- What begins with an opening bracket, its text beginning behind that. -/
def cutMarkup (depth : Nat) : List Char → Cut
  | [] => .fault .unclosedTag []
  | '!' :: text =>
    match text with
    | '-' :: _ => cutComment text
    | '[' :: _ => cutCharacterData text
    | 'D' :: _ => cutDoctype text
    | 'd' :: _ => cutDoctype text
    | _ => .fault .unknownMarkup ('!' :: text)
  | '?' :: text => cutInstruction text
  | '/' :: text => cutClosing depth text
  | text => cutOpening text

/-- The lexeme that markup begins with; there is none at its end. -/
def cut? (depth : Nat) (markup : List Char) : Option Cut :=
  match markup with
  | [] => none
  | '<' :: text => some (cutMarkup depth text)
  | _ =>
    some (.lexeme (.text (markup.takeWhile (· != '<'))) (markup.dropWhile (· != '<')))

/-! ### Cutting -/

/-- How many elements are open behind a lexeme. -/
def Lexeme.depthAfter (depth : Nat) : Lexeme → Nat
  | .opening _ => depth + 1
  | .closing _ => depth - 1
  | _ => depth

/-- The lexemes of some markup, and the fault that ended them with the markup left behind it. Each
lexeme spends one of `fuel`. -/
def lexemesFrom (fuel depth : Nat) (markup : List Char) :
    List Lexeme × Option (SyntaxFault × List Char) :=
  match fuel with
  | 0 => ([], none)
  | fuel + 1 =>
    match cut? depth markup with
    | none => ([], none)
    | some (.fault fault rest) => ([], some (fault, rest))
    | some (.lexeme lexeme rest) =>
      let (lexemes, fault) := lexemesFrom fuel (lexeme.depthAfter depth) rest
      (lexeme :: lexemes, fault)

/-- The lexemes of some markup, and the fault that ended them with its place in bytes. -/
def lexemes (markup : List Char) : List Lexeme × Option (SyntaxFault × Nat) :=
  let (lexemes, fault) := lexemesFrom (markup.length + 1) 0 markup
  (lexemes, fault.map fun (fault, rest) => (fault, byteCount markup - byteCount rest))

end DynamicSql.Markup
