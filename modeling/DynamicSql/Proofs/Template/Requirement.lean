/-
This file says what can be asked of a template: something of each of its texts, clauses, loops and
expressions. The requirements of the theory are collected here: that texts have been read from a
source, that nothing but placeholders brings braces into the rendered text, and that no path begins
with a name of a kind.
-/

import DynamicSql.Proofs.Expr.Paths
import DynamicSql.Proofs.Path.Writing
import DynamicSql.Mapper.Statement
import DynamicSql.Proofs.Template.Sign
import DynamicSql.Template.Node

namespace DynamicSql.Template

/-- What is asked of the parts of a template. -/
structure Requirement where
  text : StaticText → Prop
  trimming : Trimming → Prop
  header : Loop → Prop
  expr : Expr → Prop

/-- What meets both of two requirements meets a third one. -/
structure Requirement.Join (first second both : Requirement) : Prop where
  text : ∀ content, first.text content → second.text content → both.text content
  trimming : ∀ trimming, first.trimming trimming → second.trimming trimming →
    both.trimming trimming
  header : ∀ header, first.header header → second.header header → both.header header
  expr : ∀ expr, first.expr expr → second.expr expr → both.expr expr

mutual

/-- All parts of a template are as required. -/
def Node.Meets (asked : Requirement) : Node → Prop
  | .text content => asked.text content
  | .mixed nodes => Node.EachMeets asked nodes
  | .whereClause body => Node.Meets asked body
  | .setClause body => Node.Meets asked body
  | .trim trimming body => asked.trimming trimming ∧ Node.Meets asked body
  | .condition test _ body => asked.expr test ∧ Node.Meets asked body
  | .choose branches otherwise =>
    Node.BranchesMeet asked branches ∧ Node.OptionMeets asked otherwise
  | .loop header body =>
    asked.header header ∧ asked.expr header.collection ∧ Node.Meets asked body
  | .bind _ value => asked.expr value

/-- All parts of templates are as required. -/
def Node.EachMeets (asked : Requirement) : List Node → Prop
  | [] => True
  | node :: rest => Node.Meets asked node ∧ Node.EachMeets asked rest

/-- All parts of branches are as required. -/
def Node.BranchesMeet (asked : Requirement) : List (Expr × String × Node) → Prop
  | [] => True
  | (test, _, body) :: rest =>
    asked.expr test ∧ Node.Meets asked body ∧ Node.BranchesMeet asked rest

/-- All parts of a template that may be missing are as required. -/
def Node.OptionMeets (asked : Requirement) : Option Node → Prop
  | none => True
  | some body => Node.Meets asked body

end

section Join

variable {first second both : Requirement}

mutual

theorem Node.Meets.join (join : first.Join second both) (node : Node)
    (meetsFirst : node.Meets first) (meetsSecond : node.Meets second) : node.Meets both := by
  cases node with
  | text content => exact join.text content meetsFirst meetsSecond
  | mixed nodes => exact Node.EachMeets.join join nodes meetsFirst meetsSecond
  | whereClause body => exact Node.Meets.join join body meetsFirst meetsSecond
  | setClause body => exact Node.Meets.join join body meetsFirst meetsSecond
  | trim trimming body =>
    exact ⟨join.trimming trimming meetsFirst.1 meetsSecond.1,
      Node.Meets.join join body meetsFirst.2 meetsSecond.2⟩
  | condition test source body =>
    exact ⟨join.expr test meetsFirst.1 meetsSecond.1,
      Node.Meets.join join body meetsFirst.2 meetsSecond.2⟩
  | choose branches otherwise =>
    exact ⟨Node.BranchesMeet.join join branches meetsFirst.1 meetsSecond.1,
      Node.OptionMeets.join join otherwise meetsFirst.2 meetsSecond.2⟩
  | loop header body =>
    exact ⟨join.header header meetsFirst.1 meetsSecond.1,
      join.expr header.collection meetsFirst.2.1 meetsSecond.2.1,
      Node.Meets.join join body meetsFirst.2.2 meetsSecond.2.2⟩
  | bind name value => exact join.expr value meetsFirst meetsSecond

theorem Node.EachMeets.join (join : first.Join second both) (nodes : List Node)
    (meetsFirst : Node.EachMeets first nodes) (meetsSecond : Node.EachMeets second nodes) :
    Node.EachMeets both nodes := by
  cases nodes with
  | nil => trivial
  | cons node rest =>
    exact ⟨Node.Meets.join join node meetsFirst.1 meetsSecond.1,
      Node.EachMeets.join join rest meetsFirst.2 meetsSecond.2⟩

theorem Node.BranchesMeet.join (join : first.Join second both)
    (branches : List (Expr × String × Node)) (meetsFirst : Node.BranchesMeet first branches)
    (meetsSecond : Node.BranchesMeet second branches) : Node.BranchesMeet both branches := by
  match branches with
  | [] => trivial
  | (test, _, body) :: rest =>
    exact ⟨join.expr test meetsFirst.1 meetsSecond.1,
      Node.Meets.join join body meetsFirst.2.1 meetsSecond.2.1,
      Node.BranchesMeet.join join rest meetsFirst.2.2 meetsSecond.2.2⟩

theorem Node.OptionMeets.join (join : first.Join second both) (otherwise : Option Node)
    (meetsFirst : Node.OptionMeets first otherwise)
    (meetsSecond : Node.OptionMeets second otherwise) : Node.OptionMeets both otherwise := by
  cases otherwise with
  | none => trivial
  | some body => exact Node.Meets.join join body meetsFirst meetsSecond

end

end Join

/-! ### Texts that have been read -/

/-- The text was read from some source. -/
def StaticText.IsRead (content : StaticText) : Prop :=
  ∃ source, StaticText.read source = .ok content

/-- That all texts have been read. -/
def textsRead : Requirement where
  text := StaticText.IsRead
  trimming _ := True
  header _ := True
  expr _ := True

/-- All texts of the template were read from sources. -/
def Node.IsRead (node : Node) : Prop :=
  node.Meets textsRead

/-- An inside of a placeholder that names a path. -/
def Names (path : Path) (inside : List Char) : Prop :=
  Path.read? (Piece.splitOptions inside).1 = some path

theorem Piece.not_mem_of_placeholder_mem_scan {inside text : List Char}
    (member : Piece.placeholder inside ∈ Piece.scan text) : '}' ∉ inside := by
  have behind : ∀ (character : Char) (pieces : List Piece),
      Piece.placeholder inside ∈ Piece.literalBefore character pieces →
        Piece.placeholder inside ∈ pieces := by
    intro character pieces member
    unfold Piece.literalBefore at member
    split at member <;> simpa using member
  fun_induction Piece.scan text with
  | case1 => simp at member
  | case2 => simp at member
  | case3 rest other after cut smaller inductionHypothesis =>
    rcases List.mem_cons.1 member with equal | later
    · obtain rfl : inside = other := by simpa using equal
      exact (Text.cutFirst?_eq cut).2
    · exact inductionHypothesis later
  | case4 => simp at member
  | case5 rest other after cut smaller inductionHypothesis =>
    rcases List.mem_cons.1 member with equal | later
    · cases equal
    · exact inductionHypothesis later
  | case6 character rest _ _ inductionHypothesis =>
    exact inductionHypothesis (behind _ _ member)

namespace StaticText

theorem partsOf_cons {piece : Piece} {pieces : List Piece} {part : TextPart}
    {parts : List TextPart} (first : partOf piece = .ok part) (rest : partsOf pieces = .ok parts) :
    partsOf (piece :: pieces) = .ok (part :: parts) := by
  rw [partsOf, first, rest]

theorem exists_of_partsOf_cons {piece : Piece} {pieces : List Piece} {parts : List TextPart}
    (read : partsOf (piece :: pieces) = .ok parts) :
    ∃ part others, partOf piece = .ok part ∧ partsOf pieces = .ok others ∧
      parts = part :: others := by
  unfold partsOf at read
  split at read
  · cases read
  · next part first =>
    split at read
    · cases read
    · next others rest => exact ⟨part, others, first, rest, (Except.ok.inj read).symm⟩

theorem exists_piece_of_mem {pieces : List Piece} {parts : List TextPart}
    (read : partsOf pieces = .ok parts) {part : TextPart} (member : part ∈ parts) :
    ∃ piece ∈ pieces, partOf piece = .ok part := by
  induction pieces generalizing parts with
  | nil =>
    obtain rfl := Except.ok.inj read
    cases member
  | cons piece rest inductionHypothesis =>
    obtain ⟨first, others, readFirst, readOthers, rfl⟩ := exists_of_partsOf_cons read
    rcases List.mem_cons.1 member with rfl | later
    · exact ⟨piece, List.mem_cons_self, readFirst⟩
    · obtain ⟨origin, isPiece, readPart⟩ := inductionHypothesis readOthers later
      exact ⟨origin, List.mem_cons_of_mem _ isPiece, readPart⟩

theorem partsOf_scan {source : List Char} {content : StaticText}
    (read : StaticText.read source = .ok content) :
    partsOf (Piece.scan source) = .ok content.parts := by
  unfold StaticText.read at read
  split at read
  · cases read
  · next parts readParts =>
    obtain rfl := Except.ok.inj read
    exact readParts

theorem partOf_placeholder {inside : List Char} {path : Path} (names : Names path inside) :
    partOf (.placeholder inside) =
      .ok (.placeholder path (Piece.splitOptions inside).2 inside) := by
  unfold Names at names
  unfold partOf
  simp only [names]

theorem exists_of_partOf_placeholder {inside : List Char} {part : TextPart}
    (read : partOf (.placeholder inside) = .ok part) :
    ∃ path, Names path inside ∧ part = .placeholder path (Piece.splitOptions inside).2 inside := by
  unfold partOf at read
  simp only at read
  split at read
  · next path readPath => exact ⟨path, readPath, (Except.ok.inj read).symm⟩
  · cases read

/-- A placeholder of a text that has been read: its inside ends before the first closing brace and
names its path. -/
theorem IsRead.placeholder {content : StaticText} (isRead : content.IsRead)
    {path : Path} {options : Option (List Char)} {inside : List Char}
    (member : TextPart.placeholder path options inside ∈ content.parts) :
    Names path inside ∧ options = (Piece.splitOptions inside).2 ∧ '}' ∉ inside := by
  obtain ⟨source, read⟩ := isRead
  obtain ⟨piece, isPiece, readPart⟩ := exists_piece_of_mem (partsOf_scan read) member
  obtain rfl : Piece.placeholder inside = piece := pieceOf_partOf readPart
  obtain ⟨other, names, same⟩ := exists_of_partOf_placeholder readPart
  obtain ⟨rfl, rfl, -⟩ := TextPart.placeholder.inj same
  exact ⟨names, rfl, Piece.not_mem_of_placeholder_mem_scan isPiece⟩

end StaticText

/-- What is written inside of a placeholder with its path renamed. -/
def renamedInside (path : Path) (options : Option (List Char)) : List Char :=
  path.text ++
    match options with
    | some options => [',', ' '] ++ options
    | none => []

theorem names_renamedInside {path : Path} (readable : path.IsReadable)
    (options : Option (List Char)) : Names path (renamedInside path options) := by
  have noComma : ',' ∉ path.text := Path.not_mem_text readable (by decide) (by decide)
  unfold Names Piece.splitOptions renamedInside
  cases options with
  | none =>
    rw [List.append_nil, Text.cutFirst?_eq_none noComma]
    simp only [Path.trim_text readable]
    exact Path.read?_text readable
  | some options =>
    simp only [List.cons_append, List.nil_append, Text.cutFirst?_append noComma,
      Path.trim_text readable]
    exact Path.read?_text readable

theorem mem_of_mem_options {inside options : List Char}
    (isOptions : (Piece.splitOptions inside).2 = some options) {character : Char}
    (member : character ∈ options) : character ∈ inside := by
  unfold Piece.splitOptions at isOptions
  split at isOptions
  · next property behind cut =>
    obtain rfl : Text.trim behind = options := by simpa using isOptions
    rw [(Text.cutFirst?_eq cut).1]
    exact List.mem_append_right _ (List.mem_cons_of_mem _ (Text.mem_of_mem_trim member))
  · cases isOptions

theorem not_mem_renamedInside {path : Path} (readable : path.IsReadable) {inside : List Char}
    (closed : '}' ∉ inside) : '}' ∉ renamedInside path (Piece.splitOptions inside).2 := by
  have noBrace : '}' ∉ path.text := Path.not_mem_text readable (by decide) (by decide)
  unfold renamedInside
  cases isOptions : (Piece.splitOptions inside).2 with
  | none => simpa using noBrace
  | some options =>
    have absent : '}' ∉ options := fun member => closed (mem_of_mem_options isOptions member)
    simp [noBrace, absent]

/-! ### Plain templates -/

/-- No opening brace stands outside of the placeholders of the text. -/
def StaticText.IsPlain (content : StaticText) : Prop :=
  ∀ text, TextPart.literal text ∈ content.parts → '{' ∉ text

/-- The loop writes no opening brace around or between its repetitions. -/
structure Loop.IsPlain (header : Loop) : Prop where
  opening : '{' ∉ header.opening.toList
  separator : '{' ∉ header.separator.toList
  closing : '{' ∉ header.closing.toList

/-- Nothing but placeholders brings opening braces into the rendered text, and no token that is
taken away reaches into a placeholder. -/
def Node.IsPlain (node : Node) : Prop :=
  node.Meets ⟨StaticText.IsPlain, Trimming.IsPlain, Loop.IsPlain, fun _ => True⟩

/-- What is asked of a template whose rendered text can be read again: that its texts have been
read and that it is plain. -/
def readPlain : Requirement where
  text content := content.IsRead ∧ content.IsPlain
  trimming := Trimming.IsPlain
  header := Loop.IsPlain
  expr _ := True

theorem Node.IsRead.readPlain {node : Node} (isRead : node.IsRead) (plain : node.IsPlain) :
    node.Meets Template.readPlain := by
  refine Node.Meets.join ⟨?_, ?_, ?_, ?_⟩ node isRead plain
  · exact fun content isRead plain => ⟨isRead, plain⟩
  · exact fun trimming _ plain => plain
  · exact fun header _ plain => plain
  · exact fun _ _ _ => trivial

/-! ### Names that paths begin with -/

/-- No path of the text begins with a name of the kind. -/
def StaticText.Avoids (kind : String → Prop) (content : StaticText) : Prop :=
  ∀ path options inside, TextPart.placeholder path options inside ∈ content.parts →
    ¬ kind path.root

/-- No path of the template, neither in a placeholder nor in an expression, begins with a name of
the kind. -/
def Node.Avoids (kind : String → Prop) (node : Node) : Prop :=
  node.Meets ⟨StaticText.Avoids kind, fun _ => True, fun _ => True,
    fun expr => ∀ path ∈ expr.paths, ¬ kind path.root⟩

/-! ### One placeholder, one template -/

/-- A statement that is nothing but its template. -/
def statementOf (root : Node) : Statement where
  namespaceName := "space"
  id := "statement"
  kind := .select
  body := ""
  root := root
  parameterType := none
  resultType := none
  resultMap := none
  useCache := false
  timeout := none
  fetchSize := none
  statementType := none
  generatedKeys := none

/-- The text that is one placeholder, for a name. -/
def placeholderText (name : String) : StaticText :=
  ⟨[.placeholder ⟨[.field name]⟩ none name.toList]⟩

theorem isPlain_placeholderText (name : String) : (placeholderText name).IsPlain := by
  intro text member
  cases List.mem_singleton.1 member

theorem avoids_placeholderText {name : String} {kind : String → Prop} (free : ¬ kind name) :
    (placeholderText name).Avoids kind := by
  intro path options inside member
  cases List.mem_singleton.1 member
  exact free

end DynamicSql.Template
