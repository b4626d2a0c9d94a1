/-
This file compares the two expansions that a fragment has. Where a statement includes it, it is
expanded with the properties that the includes on the way to it pass; and once by itself, without
any, for the fragment that the mapper keeps. What an include refers to depends on the properties
only through the references in its `refid`. So where no `refid` has one, a fragment that a statement
expands opens the same fragments by itself. Where a `refid` of a fragment has one, nothing is put in
for it in the fragment by itself, and it refers to no fragment: the document is refused, whatever
its statements pass.
-/

import DynamicSql.Proofs.Document.Inlining
import DynamicSql.Proofs.Document.Inventory
import DynamicSql.Proofs.Markup.RoundTrip

namespace DynamicSql.Document

open Markup (Content Element Tag)
open Scope (Each Expandable Includes Opens Reaches)

/-! ### References in a text -/

/-- A text has a reference in it, whether there is a property for it or not. -/
def HasReference (text : List Char) : Prop :=
  ∃ before inside after, text = before ++ '$' :: '{' :: (inside ++ '}' :: after)

theorem HasReference.append {text : List Char} (reference : HasReference text)
    (front : List Char) : HasReference (front ++ text) := by
  obtain ⟨before, inside, after, rfl⟩ := reference
  exact ⟨front ++ before, inside, after, (List.append_assoc ..).symm⟩

theorem HasReference.mem {text : List Char} (reference : HasReference text) : '$' ∈ text := by
  obtain ⟨before, inside, after, rfl⟩ := reference
  exact List.mem_append_right before List.mem_cons_self

/-- Properties change nothing in a text without references. -/
theorem substituteIn_of_noReference (properties : Properties) {text : List Char}
    (noReference : ¬ HasReference text) : substituteIn properties text = text := by
  fun_induction substituteIn properties text with
  | case1 => rfl
  | case2 => rfl
  | case3 rest inside after cut =>
    obtain ⟨rfl, -⟩ := Text.cutFirst?_eq cut
    exact absurd ⟨[], inside, after, rfl⟩ noReference
  | case4 rest inside after cut =>
    obtain ⟨rfl, -⟩ := Text.cutFirst?_eq cut
    exact absurd ⟨[], inside, after, rfl⟩ noReference
  | case5 character rest notReference inductionHypothesis =>
    rw [inductionHypothesis fun reference => noReference (reference.append [character])]

/-- The `refid` of an include has no reference in it. -/
def RefersPlainly (element : Element) : Prop :=
  ∀ reference, element.tag.require "refid" = .ok reference → ¬ HasReference reference.toList

variable {library : Library} {element : Element}

/-- What an include refers to is the same with any properties if its `refid` has no reference. -/
theorem includedId_of_refersPlainly (plain : RefersPlainly element)
    (properties other : Properties) :
    includedId library properties element.tag = includedId library other element.tag := by
  unfold includedId
  split
  · rfl
  · next reference required =>
    simp only [substitute, substituteIn_of_noReference _ (plain reference required)]

/-- A reference in a `refid` is a reference in the identifier that it stands for. -/
theorem hasReference_resolve {namespaceName reference : String}
    (has : HasReference reference.toList) :
    HasReference (Identifier.resolve namespaceName reference).toList := by
  unfold Identifier.resolve
  split
  · exact has
  · rw [Identifier.toList_qualify, List.append_cons]
    exact has.append _

/-- Whether the elements inside an include can pass properties does not depend on those around. -/
theorem exists_passed {outer passed result : Properties} {elements : List Element}
    (passes : passedProperties outer passed elements = .ok result) (other others : Properties) :
    ∃ again, passedProperties other others elements = .ok again := by
  induction elements generalizing passed others with
  | nil => exact ⟨others, rfl⟩
  | cons property rest inductionHypothesis =>
    rw [passedProperties] at passes ⊢
    split at passes
    · next named =>
      rw [if_pos named]
      split at passes
      · cases passes
      · exact inductionHypothesis passes _
    · cases passes

/-! ### The same contents with other properties -/

namespace Scope

variable {left right inner middle : Scope} {id : String}

/-- An include whose `refid` has no reference opens the same fragment with other properties. -/
theorem Opens.exists_of_refersPlainly (plain : RefersPlainly element)
    (opens : Opens library left element id inner) (same : left.contents = right.contents) :
    ∃ again, Opens library right element id again ∧ inner.contents = again.contents := by
  obtain ⟨passed, passes⟩ := exists_passed opens.passes right.properties right.properties
  refine ⟨⟨passed, inner.contents⟩, ⟨same ▸ opens.among, ?_, passes, opens.found⟩, rfl⟩
  rw [includedId_of_refersPlainly plain right.properties left.properties]
  exact opens.refers

/-- What comes up in contents without references comes up in them with the properties that they
expand with, too. -/
theorem exists_reaches (expandable : Expandable library left)
    (same : left.contents = right.contents)
    (plain : Each library (fun _ => RefersPlainly) right) (reaches : Reaches library right middle) :
    ∃ other, Reaches library left other ∧ other.contents = middle.contents := by
  induction reaches with
  | refl => exact ⟨left, .refl, same⟩
  | @tail outer opened before isOpened inductionHypothesis =>
    obtain ⟨other, reachesOther, sameContents⟩ := inductionHypothesis
    obtain ⟨element, id, opens⟩ := isOpened
    have among : element ∈ includesAmong other.contents := sameContents ▸ opens.among
    obtain ⟨otherId, inner, opensOther⟩ := expandable.opens other reachesOther element among
    obtain ⟨again, opensAgain, sameInner⟩ := opensOther.exists_of_refersPlainly
      (plain outer before element opens.among) sameContents
    obtain ⟨-, rfl⟩ := opens.unique opensAgain
    exact ⟨inner, reachesOther.tail ⟨element, otherId, opensOther⟩, sameInner⟩

/-- Contents that expand with some properties, and in which no include comes up whose `refid` has a
reference, expand with other properties, too. -/
theorem expandable_of_refersPlainly (expandable : Expandable library left)
    (same : left.contents = right.contents)
    (plain : Each library (fun _ => RefersPlainly) right) : Expandable library right := by
  refine ⟨fun middle reaches element among => ?_, ?_⟩
  · obtain ⟨other, reachesOther, sameContents⟩ := exists_reaches expandable same plain reaches
    obtain ⟨id, inner, opens⟩ :=
      expandable.opens other reachesOther element (sameContents ▸ among)
    obtain ⟨again, opensAgain, -⟩ :=
      opens.exists_of_refersPlainly (plain middle reaches element among) sameContents
    exact ⟨id, again, opensAgain⟩
  · rintro ⟨middle, element, id, inner, reaches, opens, last, later, nested, among, refers⟩
    obtain ⟨other, reachesOther, sameContents⟩ := exists_reaches expandable same plain reaches
    have plainMiddle := plain.of_reaches reaches
    obtain ⟨otherInner, opensOther, sameInner⟩ :
        ∃ again, Opens library other element id again ∧ inner.contents = again.contents :=
      opens.exists_of_refersPlainly (plain middle reaches element opens.among) sameContents.symm
    have expandableInner := expandable.of_reaches (reachesOther.trans opensOther.reaches)
    have plainInner := plainMiddle.of_reaches opens.reaches
    obtain ⟨otherLast, laterOther, sameLast⟩ :=
      exists_reaches expandableInner sameInner.symm plainInner later
    refine expandable.acyclic ⟨other, element, id, otherInner, reachesOther, opensOther, otherLast,
      laterOther, nested, sameLast ▸ among, ?_⟩
    rw [includedId_of_refersPlainly (plainInner last later nested among) _ last.properties]
    exact refers

end Scope

/-! ### The fragments of a document -/

/-- A library whose fragments from outside have been expanded before, and in which no fragment is
named by something with a reference in it. -/
structure Library.IsTidy (library : Library) : Prop where
  expanded : ∀ id body, library.own? id = none → library.find? id = some (.ok body) →
    includesAmong body = []
  named : ∀ id body, library.find? id = some (.ok body) → ¬ HasReference id.toList

/-- Contents are included, directly or by what is included, by one of the elements. -/
def IsIncludedBy (library : Library) (elements : List Element) (contents : List Content) : Prop :=
  ∃ element ∈ elements, ∃ id, library.own? id = some contents ∧
    Includes library ⟨[], element.children⟩ id

/-- No include in contents has a reference in its `refid`. -/
def ReferPlainly (contents : List Content) : Prop :=
  ∀ element ∈ includesAmong contents, RefersPlainly element

variable {location : Location} {elements : List Element}

/-- The fragments of a document are expanded exactly if each of them is expandable by itself. -/
theorem exists_expandFragments_iff {fields : Fields (List Content)} :
    (∃ fragments, expandFragments location library fields = .ok fragments) ↔
      ∀ field ∈ fields, Expandable library ⟨[], field.2⟩ := by
  induction fields with
  | nil => exact ⟨fun _ _ member => absurd member List.not_mem_nil, fun _ => ⟨[], rfl⟩⟩
  | cons field rest inductionHypothesis =>
    rw [List.forall_mem_cons, ← inductionHypothesis, ← exists_expand_iff]
    constructor
    · rintro ⟨fragments, done⟩
      rw [expandFragments] at done
      obtain ⟨expanded, isExpanded, done⟩ := exists_of_bind_eq_ok done
      obtain ⟨others, isOthers, -⟩ := exists_of_bind_eq_ok done
      exact ⟨⟨expanded, eq_ok_of_mapError_eq_ok (eq_ok_of_mapError_eq_ok isExpanded)⟩,
        others, isOthers⟩
    · rintro ⟨⟨expanded, isExpanded⟩, others, isOthers⟩
      refine ⟨⟨field.1, Markup.toMarkup expanded⟩ :: others, ?_⟩
      rw [expandFragments, isExpanded, isOthers]
      rfl

/-- If no own fragment has a reference in a `refid`, no include that comes up in one has. -/
theorem each_refersPlainly (tidy : library.IsTidy)
    (plain : ∀ field ∈ library.own, ReferPlainly field.2) {contents : List Content}
    (plainContents : ReferPlainly contents) :
    Each library (fun _ => RefersPlainly) ⟨[], contents⟩ := by
  intro middle reaches
  rcases Relation.ReflTransGen.cases_tail reaches with rfl | ⟨outer, -, element, id, opens⟩
  · exact plainContents
  · cases isOwn : library.own? id with
    | none =>
      rw [tidy.expanded id middle.contents isOwn opens.found]
      exact fun _ member => absurd member List.not_mem_nil
    | some body =>
      obtain rfl := Except.ok.inj (Option.some.inj ((find?_of_own? isOwn).symm.trans opens.found))
      obtain ⟨localId, -, found⟩ := own?_eq_some_iff.1 isOwn
      exact plain _ (Fields.mem_of_get? found)

/-- A fragment that elements include, which expand themselves, is expandable by itself if no include
that comes up in it has a reference in its `refid`. -/
theorem expandable_of_isIncludedBy
    (expand : ∀ element ∈ elements, Expandable library ⟨[], element.children⟩)
    {contents : List Content} (included : IsIncludedBy library elements contents)
    (plain : Each library (fun _ => RefersPlainly) ⟨[], contents⟩) :
    Expandable library ⟨[], contents⟩ := by
  obtain ⟨element, member, id, isOwn, middle, reaches, nested, among, refers⟩ := included
  have expandable := expand element member
  obtain ⟨other, inner, opens⟩ := expandable.opens middle reaches nested among
  obtain rfl := Except.ok.inj (refers.symm.trans opens.refers)
  have same : inner.contents = contents :=
    Except.ok.inj (Option.some.inj (opens.found.symm.trans (find?_of_own? isOwn)))
  have expandableInner := expandable.of_reaches (reaches.trans opens.reaches)
  exact Scope.expandable_of_refersPlainly expandableInner same plain

/-- A fragment that is expandable by itself includes fragments that are known, by their `refid`s as
they are written: nothing is put in for the references in them. -/
theorem knows_of_expandable {contents : List Content}
    (expandable : Expandable library ⟨[], contents⟩) :
    ∀ element ∈ includesAmong contents, library.Knows element := by
  intro element among
  obtain ⟨id, inner, opens⟩ := expandable.opens _ .refl element among
  cases required : element.tag.require "refid" with
  | error missing =>
    have refers := opens.refers
    rw [includedId, required] at refers
    cases refers
  | ok reference =>
    obtain rfl := Except.ok.inj ((includedId_nil library required).symm.trans opens.refers)
    exact ⟨reference, inner.contents, required, opens.found⟩

theorem referPlainly_of_knows (tidy : library.IsTidy) {contents : List Content}
    (known : ∀ element ∈ includesAmong contents, library.Knows element) :
    ReferPlainly contents := by
  intro element among reference required has
  obtain ⟨other, body, requiredToo, found⟩ := known element among
  obtain rfl := Except.ok.inj (required.symm.trans requiredToo)
  exact tidy.named _ body found (hasReference_resolve has)

/-- Once its fragments are known, a document is read by expanding each of them by itself, and then
what its root declares. Let the bodies of its statements expand, and each fragment be included by
one of them. The expansion of the fragments by themselves succeeds if no include that comes up in
one of them has a reference in its `refid`; and only if each of their includes names, as it is
written, a fragment that is known. Where no fragment is named by something with a reference, and
those from outside hold no includes, it succeeds exactly if no include in a fragment has a reference
in its `refid`. -/
theorem exists_expandFragments_iff_referPlainly {source : String} {file : Option String}
    {root : Element} {namespaceName : String} {own : Fields (List Content)}
    {outside : FragmentSource} (reading : Reading source file root namespaceName own)
    (statements : ∀ element ∈ statementElements root.elements,
      ∃ expanded, expand ⟨namespaceName, own, outside⟩ element.children = .ok expanded)
    (used : ∀ field ∈ own, IsIncludedBy ⟨namespaceName, own, outside⟩
      (statementElements root.elements) field.2) :
    let location : Location := ⟨file, some namespaceName, none⟩
    let library : Library := ⟨namespaceName, own, outside⟩
    let accepted := ∃ fragments, expandFragments location library own = .ok fragments
    read source file outside = (expandFragments location library own >>= fun fragments =>
        declareEach location library ⟨namespaceName, [], [], fragments⟩ root.elements).mapError
          PlacedFault.error ∧
      ((∀ field ∈ own, Each library (fun _ => RefersPlainly) ⟨[], field.2⟩) → accepted) ∧
      (accepted → ∀ field ∈ own, ∀ element ∈ includesAmong field.2, library.Knows element) ∧
      (library.IsTidy → (accepted ↔ ∀ field ∈ own, ReferPlainly field.2)) := by
  intro location library accepted
  have sufficient (plain : ∀ field ∈ own, Each library (fun _ => RefersPlainly) ⟨[], field.2⟩) :
      accepted := by
    have expandable : ∀ element ∈ statementElements root.elements,
        Expandable library ⟨[], element.children⟩ :=
      fun element member => (exists_expand_iff library _).1 (statements element member)
    exact exists_expandFragments_iff.2 fun field member =>
      expandable_of_isIncludedBy expandable (used field member) (plain field member)
  have necessary (isAccepted : accepted) :
      ∀ field ∈ own, ∀ element ∈ includesAmong field.2, library.Knows element :=
    fun field member => knows_of_expandable (exists_expandFragments_iff.1 isAccepted field member)
  refine ⟨reading.read_eq outside, sufficient, necessary, fun tidy => ⟨?_, ?_⟩⟩
  · exact fun isAccepted field member =>
      referPlainly_of_knows tidy (necessary isAccepted field member)
  · exact fun plain => sufficient fun field member =>
      each_refersPlainly tidy plain (plain field member)

/-! ### A document with one fragment that includes another -/

/-- The include in the fragment `list`. -/
def innerInclude (refid : String) : Element :=
  ⟨⟨"include", [("refid", refid)]⟩, []⟩

/-- The include in the statement. -/
def outerInclude : Element :=
  ⟨⟨"include", [("refid", "list")]⟩,
    [.element ⟨"property", [("name", "p"), ("value", "key")]⟩ []]⟩

def listStatement : Element :=
  ⟨⟨"select", [("id", "all")]⟩, [.element outerInclude.tag outerInclude.children]⟩

def listFragments (refid : String) : Fields (List Content) :=
  [("key", [.text "a"]),
    ("list", [.element (innerInclude refid).tag (innerInclude refid).children])]

def listLibrary (refid : String) : Library :=
  ⟨"space", listFragments refid, .none⟩

def listRoot (refid : String) : Element :=
  ⟨⟨"mapper", [("namespace", "space")]⟩,
    (listFragments refid).map (fun field => .element ⟨"sql", [("id", field.1)]⟩ field.2) ++
      [.element listStatement.tag listStatement.children]⟩

/-- The document with the root `listRoot`, as it is written. -/
def listDocument (refid : String) : String :=
  String.ofList ((listRoot refid).tag.text ++
    '>' :: (Markup.writtenContents (listRoot refid).children ++ (listRoot refid).tag.closing))

theorem read_listDocument (refid : String) :
    Element.read (listDocument refid).toList = .ok (listRoot refid) := by
  rw [listDocument, String.toList_ofList]
  have wellNamed (name key value : String) (isName : Markup.isName name.toList = true)
      (isKey : Markup.isName key.toList = true) : Tag.IsWellNamed ⟨name, [(key, value)]⟩ :=
    ⟨isName, List.forall_mem_singleton.2 isKey,
      List.nodup_cons.2 ⟨List.not_mem_nil, List.nodup_nil⟩⟩
  have property : Tag.IsWellNamed ⟨"property", [("name", "p"), ("value", "key")]⟩ :=
    ⟨by decide, by decide, by decide⟩
  refine Markup.read_between (wellNamed _ _ _ (by decide) (by decide))
    (.element (wellNamed _ _ _ (by decide) (by decide)) (.text _ .nil) ?_)
  refine .element (wellNamed _ _ _ (by decide) (by decide))
    (.element (wellNamed _ _ _ (by decide) (by decide)) .nil .nil) ?_
  exact .element (wellNamed _ _ _ (by decide) (by decide))
    (.element (wellNamed _ _ _ (by decide) (by decide)) (.element property .nil .nil) .nil) .nil

theorem declaredFragments_listRoot (location : Location) (refid : String) :
    declaredFragments location (listRoot refid) = .ok (listFragments refid) := by
  have key (children : List Content) :
      requireId location ⟨⟨"sql", [("id", "key")]⟩, children⟩ = .ok "key" := rfl
  have list (children : List Content) :
      requireId location ⟨⟨"sql", [("id", "list")]⟩, children⟩ = .ok "list" := rfl
  show declareFragments location []
    [⟨⟨"sql", [("id", "key")]⟩, _⟩, ⟨⟨"sql", [("id", "list")]⟩, _⟩] = _
  rw [declareFragments, key]
  show declareFragments location [("key", _)] _ = _
  rw [declareFragments, list]
  rfl

theorem reading_listDocument (refid : String) :
    Reading (listDocument refid) none (listRoot refid) "space" (listFragments refid) where
  markup := read_listDocument refid
  named := rfl
  space := rfl
  fragments := declaredFragments_listRoot _ refid
  tidy := rfl

theorem isTidy_listLibrary (refid : String) : (listLibrary refid).IsTidy := by
  have isOwn : ∀ id body, (listLibrary refid).find? id = some (.ok body) →
      (listLibrary refid).own? id = some body := by
    intro id body found
    rw [Library.find?] at found
    split at found
    · next contents isOwn => rw [isOwn, Except.ok.inj (Option.some.inj found)]
    · cases found
  refine ⟨fun id body none found => ?_, fun id body found has => ?_⟩
  · rw [isOwn id body found] at none
    cases none
  · obtain ⟨localId, split, isFragment⟩ := own?_eq_some_iff.1 (isOwn id body found)
    obtain rfl := Identifier.qualify_of_split? split
    have named : localId = "key" ∨ localId = "list" := by
      simpa [listLibrary, listFragments, Fields.names] using Fields.mem_names_of_get? isFragment
    have dollar : '$' ∈ (Identifier.qualify "space" localId).toList := has.mem
    revert dollar
    rcases named with rfl | rfl <;> decide

/-- Under the property that the statement passes, `list` includes `key`. -/
theorem isIncludedBy_listStatement {refid : String} (filled : Text.isAllBlank refid.toList = false)
    (passed : substitute [("p", "key")] refid = "key") :
    ∀ field ∈ listFragments refid,
      IsIncludedBy (listLibrary refid) (statementElements (listRoot refid).elements) field.2 := by
  have ownKey : (listLibrary refid).own? "space.key" = some [.text "a"] := rfl
  have ownList : (listLibrary refid).own? "space.list" =
      some [.element (innerInclude refid).tag (innerInclude refid).children] := rfl
  have refersList : includedId (listLibrary refid) [] outerInclude.tag = .ok "space.list" := by
    have required : outerInclude.tag.require "refid" = .ok "list" := rfl
    rw [includedId_nil _ required]
    rfl
  have refersKey : includedId (listLibrary refid) [("p", "key")] (innerInclude refid).tag =
      .ok "space.key" := by
    have required : (innerInclude refid).tag.require "refid" = .ok refid := by
      show (if Text.isAllBlank refid.toList = true then _ else Except.ok refid) = _
      rw [filled, if_neg Bool.false_ne_true]
    rw [includedId_of_require _ _ required, passed]
    rfl
  have passes : passedProperties [] [] (Markup.elementsOf outerInclude.children) =
      .ok [("p", "key")] := by
    decide +kernel
  have opensList : Opens (listLibrary refid) ⟨[], listStatement.children⟩ outerInclude "space.list"
      ⟨[("p", "key")], [.element (innerInclude refid).tag (innerInclude refid).children]⟩ :=
    ⟨List.mem_cons_self, refersList, passes, find?_of_own? ownList⟩
  have isStatement : statementElements (listRoot refid).elements = [listStatement] := rfl
  rw [isStatement]
  refine List.forall_mem_cons.2 ⟨?_, List.forall_mem_cons.2 ⟨?_, List.forall_mem_nil _⟩⟩
  · exact ⟨listStatement, List.mem_cons_self, "space.key", ownKey, _, opensList.reaches,
      innerInclude refid, List.mem_cons_self, refersKey⟩
  · exact ⟨listStatement, List.mem_cons_self, "space.list", ownList, _, .refl, outerInclude,
      List.mem_cons_self, refersList⟩

theorem expands_listStatement {refid : String}
    (expands : (expand (listLibrary refid) listStatement.children).isOk = true) :
    ∀ element ∈ statementElements (listRoot refid).elements,
      ∃ expanded, expand (listLibrary refid) element.children = .ok expanded := by
  have isStatement : statementElements (listRoot refid).elements = [listStatement] := rfl
  rw [isStatement, List.forall_mem_singleton]
  exact isOk_iff_exists.1 expands

/-- A document whose fragment `list` names `key` itself. -/
def namingDocument : String :=
  "<mapper namespace=\"space\"><sql id=\"key\">a</sql>" ++
    "<sql id=\"list\"><include refid=\"key\"/></sql><select id=\"all\"><include refid=\"list\">" ++
    "<property name=\"p\" value=\"key\"/></include></select></mapper>"

theorem exists_expandFragments_naming :
    Reading namingDocument none (listRoot "key") "space" (listFragments "key") ∧
      ∃ fragments, expandFragments ⟨none, some "space", none⟩ (listLibrary "key")
        (listFragments "key") = .ok fragments := by
  have written : namingDocument = listDocument "key" := by decide +kernel
  have reading := reading_listDocument "key"
  rw [← written] at reading
  have expands : (expand (listLibrary "key") listStatement.children).isOk = true := by
    decide +kernel
  have statements := expands_listStatement expands
  have filled : Text.isAllBlank "key".toList = false := by decide
  have used := isIncludedBy_listStatement filled (by decide +kernel)
  have plain : ∀ field ∈ listFragments "key", ReferPlainly field.2 := by
    refine List.forall_mem_cons.2 ⟨nofun, List.forall_mem_singleton.2 ?_⟩
    refine List.forall_mem_singleton.2 fun reference required has => ?_
    obtain rfl : "key" = reference := Except.ok.inj required
    exact absurd has.mem (by decide)
  have accepted := (exists_expandFragments_iff_referPlainly reading statements used).2.2.2
  exact ⟨reading, (accepted (isTidy_listLibrary "key")).2 plain⟩

/-- A document whose fragment `list` leaves it to the property `p` what it includes. -/
def parametricDocument : String :=
  "<mapper namespace=\"space\"><sql id=\"key\">a</sql>" ++
    "<sql id=\"list\"><include refid=\"${p}\"/></sql><select id=\"all\"><include refid=\"list\">" ++
    "<property name=\"p\" value=\"key\"/></include></select></mapper>"

/-- A document can be refused because of a fragment by itself, although its statements expand and
include all of its fragments. -/
theorem not_exists_expandFragments_parametric :
    Reading parametricDocument none (listRoot "${p}") "space" (listFragments "${p}") ∧
      (∀ element ∈ statementElements (listRoot "${p}").elements,
        ∃ expanded, expand (listLibrary "${p}") element.children = .ok expanded) ∧
      (∀ field ∈ listFragments "${p}", IsIncludedBy (listLibrary "${p}")
        (statementElements (listRoot "${p}").elements) field.2) ∧
      read parametricDocument none .none = .error (PlacedFault.error
        ⟨⟨none, some "space", some "list"⟩, .expansion (.unknown "space.${p}")⟩) := by
  have written : parametricDocument = listDocument "${p}" := by decide +kernel
  have reading := reading_listDocument "${p}"
  rw [← written] at reading
  have rejected : expandFragments ⟨none, some "space", none⟩ (listLibrary "${p}")
      (listFragments "${p}") = .error
        ⟨⟨none, some "space", some "list"⟩, .expansion (.unknown "space.${p}")⟩ := by
    decide +kernel
  refine ⟨reading, expands_listStatement (by decide +kernel),
    isIncludedBy_listStatement (by decide) (by decide +kernel), ?_⟩
  rw [reading.read_eq, show (⟨"space", listFragments "${p}", .none⟩ : Library) =
    listLibrary "${p}" from rfl, rejected]
  rfl

end DynamicSql.Document
