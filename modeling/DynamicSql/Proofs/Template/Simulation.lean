/-
This file proves that rendering follows the direct evaluation of a template step by step. A draft
follows a sheet if it has the same names in scope with the same values, and if its text spells the
signs of the sheet: at a hole stands a placeholder whose path, resolved through the bindings
generated so far, leads to what the hole holds. Bindings only grow, so such a placeholder goes on
standing for its value while more is rendered, trimmed and dressed around it.

Placeholders and expressions must not begin a path with a reserved name: a path that does may lead
to a generated binding, which the direct evaluation does not have.
-/

import DynamicSql.Proofs.Template.Bindings
import DynamicSql.Proofs.Template.Direct
import DynamicSql.Proofs.Template.Requirement

namespace DynamicSql.Template

open Direct (Sheet)

/-! ### The relation -/

/-- The inside of a placeholder stands for a value: it names a path that leads to the value once
the rendering is finished. A root that is neither bound nor reserved can never become bound. -/
def Stands (parameter : Value) (draft : Draft) (value : Value) (inside : List Char) : Prop :=
  ∃ path, Names path inside ∧
    (path.root ∈ Fields.names draft.bindings ∨ ¬ Reserved path.root) ∧
      (draft.resolveBound parameter path).getD .null = value

/-- The draft has the names of the sheet in scope and spells its signs. -/
structure Follows (parameter : Value) (draft : Draft) (sheet : Sheet) : Prop where
  sound : draft.Sound
  names : draft.names = sheet.names
  text : Spells (Stands parameter draft) sheet.signs draft.text

/-- The outcomes of a step from a draft and from a sheet: both end in the same fault, or the draft
after it follows the sheet after it, with new names on top of the old ones. -/
inductive Agrees (parameter : Value) (draft : Draft) (sheet : Sheet) :
    Draft × Option LoopFault → Except LoopFault Sheet → Prop
  | done {later : Draft} {next : Sheet} (follows : Follows parameter later next)
      (grown : draft.Extends later) (behind : sheet.names <:+ next.names) :
      Agrees parameter draft sheet (later, none) (.ok next)
  | failed {later : Draft} {fault : LoopFault} :
      Agrees parameter draft sheet (later, some fault) (.error fault)

/-- A step of rendering does what a step of the direct evaluation does. -/
def Simulates (parameter : Value) (step : Step) (direct : Direct.Step) : Prop :=
  ∀ draft sheet, Follows parameter draft sheet →
    Agrees parameter draft sheet (step draft) (direct sheet)

/-- The outcomes of a part of a step that leaves draft and sheet as they were and gives texts: both
are faults, or the texts of the one spell those of the other. -/
inductive Yields {Written Signs : Type} (spells : Draft → Signs → Written → Prop)
    (parameter : Value) (draft : Draft) (sheet : Sheet) :
    Draft × Except LoopFault Written → Except LoopFault Signs → Prop
  | done {later : Draft} {written : Written} {signs : Signs}
      (follows : Follows parameter later sheet) (grown : draft.Extends later)
      (spelled : spells later signs written) :
      Yields spells parameter draft sheet (later, .ok written) (.ok signs)
  | failed {later : Draft} {fault : LoopFault} :
      Yields spells parameter draft sheet (later, .error fault) (.error fault)

variable {parameter : Value}

/-! ### Paths -/

/-- A placeholder stands for the same value in every later draft. -/
theorem Stands.mono {draft later : Draft} (sound : later.Sound) (grown : draft.Extends later)
    {value : Value} {inside : List Char} (stands : Stands parameter draft value inside) :
    Stands parameter later value inside := by
  obtain ⟨path, names, root, leads⟩ := stands
  refine ⟨path, names, ?_⟩
  rcases root with bound | free
  · obtain ⟨entry, found⟩ := Fields.exists_get?_of_mem_names bound
    have foundLater := grown path.root entry found
    refine ⟨Or.inl (Fields.mem_names_of_get? foundLater), ?_⟩
    rw [← leads, Draft.resolveBound, Draft.resolveBound, found, foundLater]
  · have absent : Fields.get? path.root later.bindings = none :=
      Fields.get?_eq_none_of_not_mem fun member => free (sound.reserved member)
    have absentBefore : Fields.get? path.root draft.bindings = none := by
      cases found : Fields.get? path.root draft.bindings with
      | none => rfl
      | some entry => rw [grown path.root entry found] at absent; cases absent
    refine ⟨Or.inr free, ?_⟩
    rw [← leads, Draft.resolveBound, Draft.resolveBound, absent, absentBefore]

theorem spells_mono {draft later : Draft} (sound : later.Sound) (grown : draft.Extends later)
    {signs : List (Sign Value)} {text : List Char}
    (spells : Spells (Stands parameter draft) signs text) :
    Spells (Stands parameter later) signs text :=
  spells.mono fun _ _ => Stands.mono sound grown

/-- A path whose root is not reserved leads to the same value in both evaluations. -/
theorem Follows.resolve_eq {draft : Draft} {sheet : Sheet}
    (follows : Follows parameter draft sheet) {path : Path} (free : ¬ Reserved path.root) :
    draft.resolve parameter path = Direct.resolve parameter sheet.names path := by
  have unbound : Fields.get? path.root draft.bindings = none :=
    Fields.get?_eq_none_of_not_mem fun member => free (follows.sound.reserved member)
  rw [Draft.resolve, Direct.resolve, ← follows.names, draft.get?_names, unbound]
  cases draft.scopes.find? fun scope => scope.name == path.root <;> rfl

theorem Follows.eval_eq {draft : Draft} {sheet : Sheet} (follows : Follows parameter draft sheet)
    {expr : Expr} (free : ∀ path ∈ expr.paths, ¬ Reserved path.root) :
    expr.eval (draft.resolve parameter) = expr.eval (Direct.resolve parameter sheet.names) :=
  Expr.eval_congr fun path member => follows.resolve_eq (free path member)

theorem Follows.evalBool_eq {draft : Draft} {sheet : Sheet}
    (follows : Follows parameter draft sheet) {expr : Expr}
    (free : ∀ path ∈ expr.paths, ¬ Reserved path.root) :
    expr.evalBool (draft.resolve parameter) =
      expr.evalBool (Direct.resolve parameter sheet.names) :=
  Expr.evalBool_congr fun path member => follows.resolve_eq (free path member)

/-! ### Names in scope -/

theorem Follows.push {draft : Draft} {sheet : Sheet} (follows : Follows parameter draft sheet)
    (name : String) (value : Value) (origin : Origin) :
    Follows parameter (draft.push name value origin) (sheet.push name value) where
  sound := follows.sound.push name value origin
  names := congrArg (List.cons (name, value)) follows.names
  text := follows.text

theorem Follows.pushNamed {draft : Draft} {sheet : Sheet}
    (follows : Follows parameter draft sheet) (name : Option String) (value : Value)
    (origin : Origin) :
    Follows parameter (draft.pushNamed name value origin) (sheet.pushNamed name value) := by
  cases name with
  | none => exact follows
  | some name => exact follows.push name value origin

theorem suffix_pushNamed (sheet : Sheet) (name : Option String) (value : Value) :
    sheet.names <:+ (sheet.pushNamed name value).names := by
  cases name with
  | none => exact List.suffix_rfl
  | some name => exact List.suffix_cons _ _

/-- The names that have come on top of those of a sheet are dropped again. -/
theorem Follows.keepScopes {draft : Draft} {outer sheet : Sheet}
    (follows : Follows parameter draft sheet) (behind : outer.names <:+ sheet.names) :
    Follows parameter (draft.keepScopes outer.names.length)
      { sheet with names := outer.names } where
  sound := follows.sound.keepScopes _
  names := Draft.names_keepScopes (by rw [follows.names]; exact behind)
  text := follows.text

theorem Follows.length_scopes {draft : Draft} {sheet : Sheet}
    (follows : Follows parameter draft sheet) : draft.scopes.length = sheet.names.length := by
  rw [← follows.names, Draft.names, List.length_map]

/-! ### Steps -/

theorem Simulates.followedBy {first second : Step} {directFirst directSecond : Direct.Step}
    (simulatesFirst : Simulates parameter first directFirst)
    (simulatesSecond : Simulates parameter second directSecond) :
    Simulates parameter (first.followedBy second) (Direct.followedBy directFirst directSecond) := by
  intro draft sheet follows
  have agrees := simulatesFirst draft sheet follows
  unfold Step.followedBy Direct.followedBy
  generalize first draft = outcome at agrees ⊢
  generalize directFirst sheet = reference at agrees ⊢
  cases agrees with
  | failed => exact .failed
  | @done later next followsLater grown behind =>
    have agreesLater := simulatesSecond later next followsLater
    simp only
    generalize second later = outcome at agreesLater ⊢
    generalize directSecond next = reference at agreesLater ⊢
    cases agreesLater with
    | failed => exact .failed
    | done followsLast grownLast behindLast =>
      exact .done followsLast (grown.trans grownLast) (behind.trans behindLast)

theorem Simulates.enclosed {step : Step} {direct : Direct.Step}
    (simulates : Simulates parameter step direct) :
    Simulates parameter step.enclosed (Direct.enclosed direct) := by
  intro draft sheet follows
  have agrees := simulates draft sheet follows
  unfold Step.enclosed Direct.enclosed
  generalize step draft = outcome at agrees ⊢
  generalize direct sheet = reference at agrees ⊢
  cases agrees with
  | failed => exact .failed
  | done followsLater grown behind =>
    simp only [follows.length_scopes]
    exact .done (followsLater.keepScopes behind) (grown.trans (.of_eq rfl)) List.suffix_rfl

/-- What is written aside spells what is written aside directly. -/
theorem Simulates.aside {step : Step} {direct : Direct.Step}
    (simulates : Simulates parameter step direct) {draft : Draft} {sheet : Sheet}
    (follows : Follows parameter draft sheet) :
    Yields (fun later => Spells (Stands parameter later)) parameter draft sheet
      (step.aside draft) (Direct.aside direct sheet) := by
  have onNothing : Follows parameter { draft with text := [] } { sheet with signs := [] } :=
    ⟨follows.sound.withText [], follows.names, .nil⟩
  have agrees := simulates _ _ onNothing
  unfold Step.aside Direct.aside
  generalize step { draft with text := [] } = outcome at agrees ⊢
  generalize direct { sheet with signs := [] } = reference at agrees ⊢
  cases agrees with
  | failed => exact .failed
  | @done later next followsLater grown behind =>
    have kept := followsLater.keepScopes behind
    have grownKept : draft.Extends (later.keepScopes sheet.names.length) :=
      grown.trans (.of_eq rfl)
    simp only [follows.length_scopes]
    refine .done ⟨kept.sound.withText _, kept.names, ?_⟩ grownKept followsLater.text
    exact spells_mono kept.sound grownKept follows.text

/-! ### Texts and clauses -/

/-- A placeholder that is written stands for the value of its path. -/
theorem Follows.writePlaceholder {draft : Draft} {sheet : Sheet}
    (follows : Follows parameter draft sheet) {path : Path} {options : Option (List Char)}
    {inside : List Char} (names : Names path inside)
    (isOptions : options = (Piece.splitOptions inside).2) (closed : '}' ∉ inside)
    (free : ¬ Reserved path.root) :
    Agrees parameter draft sheet (writePlaceholder path options inside draft, none)
      (.ok { sheet with signs := sheet.signs ++
        [.hole ((Direct.resolve parameter sheet.names path).getD .null)] }) := by
  have readable := Path.isReadable_of_read? names
  unfold Template.writePlaceholder
  split
  · next generated later isBound =>
    have bound := follows.sound.bindingFor isBound
    have renamed := bound.isReadable readable
    obtain ⟨entry, inScope⟩ := Option.isSome_iff_exists.1 bound.inScope
    have value := bound.value.trans inScope
    refine .done ⟨bound.sound.withText _, bound.names.trans follows.names, ?_⟩
      (bound.grown.trans (.of_eq rfl)) List.suffix_rfl
    rw [Draft.write, bound.text]
    refine (spells_mono bound.sound bound.grown follows.text).append ?_
    rw [← List.append_nil (Piece.written _)]
    rw [isOptions]
    refine .hole ⟨path.withRoot _, names_renamedInside renamed _,
      Or.inl (Fields.mem_names_of_get? value), ?_⟩ (not_mem_renamedInside renamed closed) .nil
    rw [Direct.resolve, ← follows.names, inScope]
    have leads : later.resolveBound parameter
        (path.withRoot generated) = entry.entry? path.tail := by
      have root : (path.withRoot generated).root = generated := rfl
      rw [Draft.resolveBound, root, value]
      rfl
    exact congrArg (·.getD Value.null) leads
  · next unbound =>
    have outOfScope := Draft.get?_names_of_bindingFor_eq_none unbound
    have absent : Fields.get? path.root draft.bindings = none :=
      Fields.get?_eq_none_of_not_mem fun member => free (follows.sound.reserved member)
    refine .done ⟨follows.sound.withText _, follows.names, ?_⟩ (.of_eq rfl) List.suffix_rfl
    refine follows.text.append ?_
    rw [← List.append_nil (Piece.written _)]
    refine .hole ⟨path, names, Or.inr free, ?_⟩ closed .nil
    rw [Direct.resolve, ← follows.names, outOfScope]
    show (Draft.resolveBound draft parameter _).getD .null = _
    rw [Draft.resolveBound, absent]

theorem Follows.writeLiteral {draft : Draft} {sheet : Sheet}
    (follows : Follows parameter draft sheet) {text : List Char} (plain : '{' ∉ text) :
    Agrees parameter draft sheet (draft.write text, none)
      (.ok { sheet with signs := sheet.signs ++ Sign.ofText text }) :=
  .done ⟨follows.sound.withText _, follows.names, follows.text.append (.ofText plain)⟩
    (.of_eq rfl) List.suffix_rfl

/-- What is asked of a part of a text: that it is plain, and that a placeholder has been read and
does not begin with a reserved name. -/
structure TextPart.IsFit (part : TextPart) : Prop where
  literal : ∀ text, part = .literal text → '{' ∉ text
  placeholder : ∀ path options inside, part = .placeholder path options inside →
    Names path inside ∧ options = (Piece.splitOptions inside).2 ∧ '}' ∉ inside ∧
      ¬ Reserved path.root

theorem Follows.writePart {draft : Draft} {sheet : Sheet} (follows : Follows parameter draft sheet)
    {part : TextPart} (isFit : part.IsFit) :
    Agrees parameter draft sheet (writePart draft part, none)
      (.ok { sheet with
        signs := sheet.signs ++ Direct.signsOf parameter sheet.names part }) := by
  cases part with
  | literal text => exact follows.writeLiteral (isFit.literal text rfl)
  | placeholder path options inside =>
    obtain ⟨names, isOptions, closed, free⟩ := isFit.placeholder path options inside rfl
    exact follows.writePlaceholder names isOptions closed free

theorem Follows.writeParts {draft : Draft} {sheet : Sheet}
    (follows : Follows parameter draft sheet) {parts : List TextPart}
    (areFit : ∀ part ∈ parts, part.IsFit) :
    Agrees parameter draft sheet (parts.foldl Template.writePart draft, none)
      (.ok { sheet with
        signs := sheet.signs ++ parts.flatMap (Direct.signsOf parameter sheet.names) }) := by
  induction parts generalizing draft sheet with
  | nil => exact .done (by simpa using follows) (.refl draft) List.suffix_rfl
  | cons part rest inductionHypothesis =>
    obtain ⟨isFit, restFit⟩ := List.forall_mem_cons.1 areFit
    cases follows.writePart isFit with
    | done followsPart grownPart _ =>
      cases inductionHypothesis followsPart restFit with
      | done followsRest grownRest _ =>
        refine .done ?_ (grownPart.trans grownRest) List.suffix_rfl
        simpa using followsRest

theorem StaticText.areFit {content : StaticText} (isRead : content.IsRead) (plain : content.IsPlain)
    (avoids : content.Avoids Reserved) : ∀ part ∈ content.parts, part.IsFit := by
  intro part member
  refine ⟨?_, ?_⟩
  · rintro text rfl
    exact plain text member
  · rintro path options inside rfl
    obtain ⟨names, isOptions, closed⟩ := isRead.placeholder member
    exact ⟨names, isOptions, closed, avoids path options inside member⟩

theorem Simulates.writeClause {trimming : Trimming} (plain : trimming.IsPlain) {body : Step}
    {direct : Direct.Step} (simulates : Simulates parameter body direct) :
    Simulates parameter (writeClause trimming body) (Direct.writeClause trimming direct) := by
  intro draft sheet follows
  have yields := simulates.aside follows
  unfold Template.writeClause Direct.writeClause
  generalize body.aside draft = outcome at yields ⊢
  generalize Direct.aside direct sheet = reference at yields ⊢
  cases yields with
  | failed => exact .failed
  | @done later text signs followsLater grown spelled =>
    have wrapped := spelled.wrap? plain
    simp only
    generalize Sign.wrap? trimming signs = clause at wrapped ⊢
    generalize trimming.wrap? text = written at wrapped ⊢
    cases wrapped with
    | none => exact .done followsLater grown List.suffix_rfl
    | some spellsClause =>
      exact .done ⟨followsLater.sound.withText _, followsLater.names,
        followsLater.text.appendClause spellsClause⟩ grown List.suffix_rfl

/-! ### Loops -/

/-- The names of a loop and its body, directly. -/
def Direct.repetition (header : Loop) (body : Direct.Step) (entry : Value × Value) : Direct.Step :=
  fun sheet => body ((sheet.pushNamed header.index entry.1).pushNamed header.item entry.2)

theorem Direct.aside_repetition (header : Loop) (body : Direct.Step) (entry : Value × Value)
    (sheet : Sheet) :
    Direct.aside (Direct.repetition header body entry) sheet =
      Direct.aside body
        ((sheet.pushNamed header.index entry.1).pushNamed header.item entry.2) := by
  unfold Direct.aside Direct.repetition Sheet.pushNamed
  cases header.index <;> cases header.item <;> rfl

theorem extends_pushNamed (draft : Draft) (name : Option String) (value : Value)
    (origin : Origin) : draft.Extends (draft.pushNamed name value origin) := by
  cases name with
  | none => exact .refl draft
  | some name => exact .of_eq rfl

theorem Simulates.repetition {body : Step} {direct : Direct.Step}
    (simulates : Simulates parameter body direct) (header : Loop) (entry : Value × Value) :
    Simulates parameter (repetition header body entry)
      (Direct.repetition header direct entry) := by
  intro draft sheet follows
  have agrees := simulates _ _
    ((follows.pushNamed header.index entry.1 .loop).pushNamed header.item entry.2 .loop)
  unfold Template.repetition Direct.repetition
  generalize body _ = outcome at agrees ⊢
  generalize direct _ = reference at agrees ⊢
  cases agrees with
  | failed => exact .failed
  | done followsLater grown behind =>
    exact .done followsLater
      (((extends_pushNamed _ _ _ _).trans (extends_pushNamed _ _ _ _)).trans grown)
      (((suffix_pushNamed _ _ _).trans (suffix_pushNamed _ _ _)).trans behind)

theorem Simulates.repeatBody {body : Step} {direct : Direct.Step}
    (simulates : Simulates parameter body direct) (header : Loop)
    (entries : List (Value × Value)) {draft : Draft} {sheet : Sheet}
    (follows : Follows parameter draft sheet) :
    Yields (fun later => List.Forall₂ (Spells (Stands parameter later))) parameter draft sheet
      (repeatBody header body entries draft) (Direct.repeatBody header direct sheet entries) := by
  induction entries generalizing draft with
  | nil => exact .done follows (.refl draft) .nil
  | cons entry rest inductionHypothesis =>
    have yields := (simulates.repetition header entry).aside follows
    rw [Direct.aside_repetition] at yields
    unfold Template.repeatBody Direct.repeatBody
    generalize (Template.repetition header body entry).aside draft = outcome at yields ⊢
    generalize Direct.aside direct _ = reference at yields ⊢
    cases yields with
    | failed => exact .failed
    | @done later text signs followsLater grown spelled =>
      have yieldsRest := inductionHypothesis followsLater
      simp only
      generalize Template.repeatBody header body rest later = outcome at yieldsRest ⊢
      generalize Direct.repeatBody header direct sheet rest = reference at yieldsRest ⊢
      cases yieldsRest with
      | failed => exact .failed
      | done followsLast grownLast spelledRest =>
        have spelledLast := (spells_mono followsLast.sound grownLast spelled).trim
        simp only [spelledLast.isEmpty_eq]
        refine .done followsLast (grown.trans grownLast) ?_
        split
        · exact spelledRest
        · exact .cons spelledLast spelledRest

theorem Simulates.writeLoop {header : Loop} (plain : header.IsPlain) {body : Step}
    {direct : Direct.Step} (simulates : Simulates parameter body direct)
    (policy : EmptyCollection) (collection : Value) :
    Simulates parameter (writeLoop policy header collection body)
      (Direct.writeLoop policy header collection direct) := by
  intro draft sheet follows
  unfold Template.writeLoop Direct.writeLoop
  cases entriesOf header.collectionSource collection with
  | error fault => exact .failed
  | ok entries =>
    simp only
    split
    · exact .failed
    · have yields := simulates.repeatBody header entries follows
      generalize Template.repeatBody header body entries draft = outcome at yields ⊢
      generalize Direct.repeatBody header direct sheet entries = reference at yields ⊢
      cases yields with
      | failed => exact .failed
      | done followsLater grown spelled =>
        refine .done ⟨followsLater.sound.withText _, followsLater.names,
          followsLater.text.appendClause ?_⟩ grown List.suffix_rfl
        exact ((Spells.ofText plain.opening).append (.intercalate plain.separator spelled)).append
          (.ofText plain.closing)

/-! ### Templates -/

/-- What is asked of a template so that rendering it can follow its direct evaluation. -/
def followed : Requirement where
  text content := content.IsRead ∧ content.IsPlain ∧ content.Avoids Reserved
  trimming := Trimming.IsPlain
  header := Loop.IsPlain
  expr expr := ∀ path ∈ expr.paths, ¬ Reserved path.root

theorem meets_followed {node : Node} (isRead : node.IsRead) (plain : node.IsPlain)
    (avoids : node.Avoids Reserved) : node.Meets followed := by
  refine Node.Meets.join ⟨?_, ?_, ?_, ?_⟩ node (isRead.readPlain plain) avoids
  · exact fun content readPlain avoids => ⟨readPlain.1, readPlain.2, avoids⟩
  · exact fun trimming plain _ => plain
  · exact fun header plain _ => plain
  · exact fun expr _ free => free

variable (policy : EmptyCollection)

/-- A step that depends on a test simulates one that depends on it directly. -/
theorem Simulates.ite {test : Expr} (free : ∀ path ∈ test.paths, ¬ Reserved path.root)
    {first second : Step} {directFirst directSecond : Direct.Step}
    (simulatesFirst : Simulates parameter first directFirst)
    (simulatesSecond : Simulates parameter second directSecond) :
    Simulates parameter
      (fun draft =>
        if test.evalBool (draft.resolve parameter) then first draft else second draft)
      (fun sheet =>
        if test.evalBool (Direct.resolve parameter sheet.names) then directFirst sheet
        else directSecond sheet) := by
  intro draft sheet follows
  simp only [follows.evalBool_eq free]
  split
  · exact simulatesFirst draft sheet follows
  · exact simulatesSecond draft sheet follows

theorem Simulates.pass : Simulates parameter (fun draft => (draft, none)) .ok :=
  fun draft _ follows => .done follows (.refl draft) List.suffix_rfl

mutual

theorem simulates_apply (node : Node) (meets : node.Meets followed) :
    Simulates parameter (node.apply policy parameter) (Direct.apply policy parameter node) := by
  cases node with
  | text content =>
    intro draft sheet follows
    exact follows.writeParts (content.areFit meets.1 meets.2.1 meets.2.2)
  | mixed nodes => exact simulates_applyEach nodes meets
  | whereClause body => exact (simulates_apply body meets).writeClause Trimming.isPlain_ofWhere
  | setClause body => exact (simulates_apply body meets).writeClause Trimming.isPlain_ofSet
  | trim trimming body => exact (simulates_apply body meets.2).writeClause meets.1
  | condition test source body =>
    exact .ite meets.1 (simulates_apply body meets.2).enclosed .pass
  | choose branches otherwise =>
    exact simulates_applyFirst branches meets.1 (simulates_applyOption otherwise meets.2)
  | loop header body =>
    intro draft sheet follows
    obtain ⟨plain, free, meetsBody⟩ := meets
    unfold Node.apply Direct.apply
    rw [follows.eval_eq free]
    exact (simulates_apply body meetsBody).writeLoop plain policy _ draft sheet follows
  | bind name value =>
    intro draft sheet follows
    unfold Node.apply Direct.apply
    rw [follows.eval_eq meets]
    exact .done (follows.push name _ .bind) (.of_eq rfl) (List.suffix_cons _ _)

theorem simulates_applyEach (nodes : List Node) (meets : Node.EachMeets followed nodes) :
    Simulates parameter (Node.applyEach policy parameter nodes)
      (Direct.applyEach policy parameter nodes) := by
  cases nodes with
  | nil => exact .pass
  | cons node rest =>
    exact (simulates_apply node meets.1).followedBy (simulates_applyEach rest meets.2)

theorem simulates_applyFirst (branches : List (Expr × String × Node))
    (meets : Node.BranchesMeet followed branches) {otherwise : Step} {direct : Direct.Step}
    (simulates : Simulates parameter otherwise direct) :
    Simulates parameter (Node.applyFirst policy parameter branches otherwise)
      (Direct.applyFirst policy parameter branches direct) := by
  match branches with
  | [] => exact simulates
  | (_, _, body) :: rest =>
    exact .ite meets.1 (simulates_apply body meets.2.1).enclosed
      (simulates_applyFirst rest meets.2.2 simulates)

theorem simulates_applyOption (otherwise : Option Node)
    (meets : Node.OptionMeets followed otherwise) :
    Simulates parameter (Node.applyOption policy parameter otherwise)
      (Direct.applyOption policy parameter otherwise) := by
  cases otherwise with
  | none => exact .pass
  | some body => exact (simulates_apply body meets).enclosed

end

theorem follows_empty (parameter : Value) : Follows parameter .empty ⟨[], []⟩ where
  sound := Draft.sound_empty
  names := rfl
  text := .nil

end DynamicSql.Template
