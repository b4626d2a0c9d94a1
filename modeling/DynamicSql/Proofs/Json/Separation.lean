/-
This file proves that the text of a JSON array tells the texts of its items apart. A scan of a text
keeps track of how many brackets are open and whether it stands in a string; where nothing is open,
a comma or a closing bracket ends a document. Scanning the text of a document, from any depth, comes
back to that depth and never ends on the way, so of two documents before such a mark neither goes on
where the other one ends.
-/

import DynamicSql.Json.Printer

namespace DynamicSql

/-! ### Texts of numbers -/

namespace Number

/-- A character that numbers are written with. -/
def isNumeral (character : Char) : Bool :=
  isDigit character || ['-', '+', '.', 'e'].contains character

/-- A text that is written with the characters of numbers alone. -/
def IsNumeral (text : List Char) : Prop :=
  ∀ character ∈ text, isNumeral character = true

theorem isNumeral_nil : IsNumeral [] :=
  fun _ member => nomatch member

theorem IsNumeral.append {first second : List Char} (numeral : IsNumeral first)
    (numeralSecond : IsNumeral second) : IsNumeral (first ++ second) :=
  List.forall_mem_append.2 ⟨numeral, numeralSecond⟩

theorem IsNumeral.cons {character : Char} {text : List Char}
    (first : isNumeral character = true) (numeral : IsNumeral text) :
    IsNumeral (character :: text) :=
  List.forall_mem_cons.2 ⟨first, numeral⟩

theorem isNumeral_decimal (value : Nat) : IsNumeral (decimal value) := by
  intro character member
  unfold isNumeral
  rw [List.all_eq_true.1 (all_isDigit_decimal value) character member, Bool.true_or]

theorem isNumeral_zeros (count : Nat) : IsNumeral (List.replicate count '0') := by
  intro character member
  rw [List.eq_of_mem_replicate member]
  rfl

theorem isNumeral_signedDecimal (value : Int) : IsNumeral (signedDecimal value) := by
  unfold signedDecimal
  split
  · exact .cons rfl (isNumeral_decimal _)
  · exact isNumeral_decimal _

theorem isNumeral_withPoint {digits : List Char} (numeral : IsNumeral digits) (marksWhole : Bool)
    (point : Int) : IsNumeral (withPoint marksWhole digits point) := by
  have beforePoint : IsNumeral ['0', '.'] := .cons rfl (.cons rfl isNumeral_nil)
  have wholeMark : IsNumeral (if marksWhole then ['.', '0'] else []) := by
    cases marksWhole with
    | true => exact .cons rfl (.cons rfl isNumeral_nil)
    | false => exact isNumeral_nil
  unfold withPoint
  cases point with
  | negSucc zeros => exact (beforePoint.append (isNumeral_zeros _)).append numeral
  | ofNat places =>
    simp only
    by_cases isZero : places = 0
    · rw [if_pos isZero]
      exact beforePoint.append numeral
    rw [if_neg isZero]
    by_cases isWithin : places < digits.length
    · rw [if_pos isWithin]
      exact IsNumeral.append (fun _ member => numeral _ (List.mem_of_mem_take member))
        (.cons rfl fun _ member => numeral _ (List.mem_of_mem_drop member))
    · rw [if_neg isWithin]
      exact (numeral.append (isNumeral_zeros _)).append wholeMark

theorem isNumeral_withExponent {digits : List Char} (numeral : IsNumeral digits)
    (exponent : Int) : IsNumeral (withExponent digits exponent) := by
  unfold withExponent
  refine IsNumeral.append ?_ (.cons rfl (.cons ?_ (isNumeral_decimal _)))
  · split
    · next first second rest =>
      exact .cons (numeral first List.mem_cons_self)
        (.cons rfl fun _ member => numeral _ (List.mem_cons_of_mem _ member))
    · exact numeral
  · split <;> rfl

theorem isNumeral_write (style : FloatStyle) (number : Finite64) :
    IsNumeral (style.write number) := by
  have magnitude : IsNumeral (style.magnitude number.units) := by
    unfold FloatStyle.magnitude
    split
    · split
      · exact .cons rfl (.cons rfl (.cons rfl isNumeral_nil))
      · exact .cons rfl isNumeral_nil
    · have digits : IsNumeral (shortest style.tie number.units).1 := isNumeral_decimal _
      -- whatever decides between the two notations
      have either (isPositional : Bool) (point : Int) :
          IsNumeral (if isPositional then withPoint style.marksWhole
            (shortest style.tie number.units).1 point
            else withExponent (shortest style.tie number.units).1 (point - 1)) := by
        cases isPositional with
        | true => exact isNumeral_withPoint digits _ _
        | false => exact isNumeral_withExponent digits _
      exact either _ _
  unfold FloatStyle.write
  simp only
  split
  · exact .cons rfl magnitude
  · exact magnitude

end Number

namespace Json

/-! ### Scanning -/

/-- Where a scan of a text stands, with so many brackets open: between strings, inside a string, or
behind a backslash in one. -/
inductive Place where
  | between (depth : Nat)
  | inside (depth : Nat)
  | escaped (depth : Nat)

/-- The place behind a character; there is none behind one that ends the document. -/
def Place.next? : Place → Char → Option Place
  | .between depth, character =>
    if character = '"' then some (.inside depth)
    else if character = '[' || character = '{' then some (.between (depth + 1))
    else if character = ']' || character = '}' then
      if depth = 0 then none else some (.between (depth - 1))
    else if character = ',' && depth == 0 then none
    else some (.between depth)
  | .inside depth, character =>
    if character = '\\' then some (.escaped depth)
    else if character = '"' then some (.between depth)
    else some (.inside depth)
  | .escaped depth, _ => some (.inside depth)

/-- Scanning a text leads from one place to another. -/
def Leads (start : Place) (text : List Char) (last : Place) : Prop :=
  text.foldlM Place.next? start = some last

theorem Leads.append {start middle last : Place} {first second : List Char}
    (leads : Leads start first middle) (onward : Leads middle second last) :
    Leads start (first ++ second) last := by
  unfold Leads at leads onward ⊢
  rw [List.foldlM_append, leads]
  exact onward

theorem Leads.cons {start middle last : Place} {character : Char} {text : List Char}
    (step : start.next? character = some middle) (onward : Leads middle text last) :
    Leads start (character :: text) last := by
  unfold Leads at onward ⊢
  rw [List.foldlM_cons, step]
  exact onward

theorem leads_nil (place : Place) : Leads place [] place := rfl

/-- Characters that are no marks do not move the scan between strings. -/
theorem leads_plain {text : List Char} (depth : Nat)
    (plain : ∀ character ∈ text, character ∉ ['"', '[', '{', ']', '}', ',']) :
    Leads (.between depth) text (.between depth) := by
  induction text with
  | nil => exact leads_nil _
  | cons character rest inductionHypothesis =>
    obtain ⟨plainFirst, plainRest⟩ := List.forall_mem_cons.1 plain
    refine .cons ?_ (inductionHypothesis plainRest)
    simp only [List.mem_cons, List.not_mem_nil, or_false, not_or] at plainFirst
    simp [Place.next?, plainFirst]

theorem leads_numeral {text : List Char} (depth : Nat) (numeral : Number.IsNumeral text) :
    Leads (.between depth) text (.between depth) := by
  refine leads_plain depth fun character member marked => ?_
  have isNumeral := numeral character member
  simp only [List.mem_cons, List.not_mem_nil, or_false] at marked
  rcases marked with rfl | rfl | rfl | rfl | rfl | rfl <;> revert isNumeral <;> decide

/-! ### Texts of strings -/

theorem leads_hexDigit (depth : Nat) {value : Nat} (small : value < 16) :
    Leads (.inside depth) [hexDigit value] (.inside depth) := by
  have ordinary : ∀ value < 16, hexDigit value ≠ '\\' ∧ hexDigit value ≠ '"' := by decide
  obtain ⟨notEscape, notQuote⟩ := ordinary value small
  refine .cons ?_ (leads_nil _)
  simp [Place.next?, notEscape, notQuote]

theorem leads_escape (depth : Nat) (character : Char) :
    Leads (.inside depth) (escape character) (.inside depth) := by
  unfold escape
  split; · rfl
  split; · rfl
  split; · rfl
  split; · rfl
  split; · rfl
  split; · rfl
  split; · rfl
  split
  · next notQuote notEscape _ _ _ _ _ control =>
    have start : Leads (.inside depth) ['\\', 'u', '0', '0'] (.inside depth) := rfl
    exact start.append ((leads_hexDigit depth (by omega)).append
      (leads_hexDigit depth (Nat.mod_lt _ (by decide))))
  · next notQuote notEscape _ _ _ _ _ _ =>
    refine .cons ?_ (leads_nil _)
    simp [Place.next?, notQuote, notEscape]

theorem leads_quoted (depth : Nat) (text : String) :
    Leads (.between depth) (quoted text) (.between depth) := by
  have inner : Leads (.inside depth) (text.toList.flatMap escape) (.inside depth) := by
    induction text.toList with
    | nil => exact leads_nil _
    | cons character rest inductionHypothesis =>
      rw [List.flatMap_cons]
      exact (leads_escape depth character).append inductionHypothesis
  have opened : Leads (.between depth) ['"'] (.inside depth) := rfl
  have closed : Leads (.inside depth) ['"'] (.between depth) := rfl
  exact (opened.append inner).append closed

/-! ### Texts of documents -/

mutual

/-- Scanning the text of a document comes back to where it started. -/
theorem leads_text (depth : Nat) :
    (document : Json) → Leads (.between depth) (text document) (.between depth)
  | .null => rfl
  | .bool true => rfl
  | .bool false => rfl
  | .integer value => leads_numeral depth (Number.isNumeral_signedDecimal value.value)
  | .float value => leads_numeral depth (Number.isNumeral_write .json value)
  | .string text => leads_quoted depth text
  | .array items => .cons rfl (leads_itemsText depth items)
  | .object members => .cons rfl (leads_membersText depth members)

/-- Scanning the items of an array closes its bracket. -/
theorem leads_itemsText (depth : Nat) :
    (items : List Json) → Leads (.between (depth + 1)) (itemsText items) (.between depth)
  | [] => rfl
  | [item] => (leads_text (depth + 1) item).append rfl
  | item :: next :: rest =>
    (leads_text (depth + 1) item).append (.cons rfl (leads_itemsText depth (next :: rest)))

/-- Scanning the members of an object closes its brace. -/
theorem leads_membersText (depth : Nat) :
    (members : List (String × Json)) →
      Leads (.between (depth + 1)) (membersText members) (.between depth)
  | [] => rfl
  | [(name, value)] =>
    ((leads_quoted (depth + 1) name).append
      (.cons rfl (leads_text (depth + 1) value))).append rfl
  | (name, value) :: next :: rest =>
    ((leads_quoted (depth + 1) name).append (.cons rfl (leads_text (depth + 1) value))).append
      (.cons rfl (leads_membersText depth (next :: rest)))

end

/-! ### Texts side by side -/

/-- A text that goes on behind a document at the top, and is the text of a document itself, does
not go on with a mark that ends documents. -/
theorem eq_nil_of_onward {first between rest onward : List Char} {mark : Char}
    (leads : Leads (.between 0) first (.between 0))
    (leadsLonger : Leads (.between 0) (first ++ between) (.between 0))
    (ends : Place.next? (.between 0) mark = none)
    (same : mark :: rest = between ++ onward) : between = [] := by
  cases between with
  | nil => rfl
  | cons character others =>
    obtain ⟨rfl, -⟩ := List.cons.inj same
    unfold Leads at leads leadsLonger
    rw [List.foldlM_append, leads, Option.bind_eq_bind, Option.bind_some, List.foldlM_cons, ends]
      at leadsLonger
    exact nomatch leadsLonger

/-- The texts of two documents in front of marks that end them are the same where the whole texts
are. -/
theorem text_append_eq_iff {first second : Json} {rest restSecond : List Char}
    {mark markSecond : Char} (ends : Place.next? (.between 0) mark = none)
    (endsSecond : Place.next? (.between 0) markSecond = none) :
    text first ++ mark :: rest = text second ++ markSecond :: restSecond ↔
      text first = text second ∧ mark = markSecond ∧ rest = restSecond := by
  constructor
  · intro same
    have leads := leads_text 0 first
    have leadsSecond := leads_text 0 second
    obtain ⟨between, longer, onward⟩ | ⟨between, longer, onward⟩ :=
      List.append_eq_append_iff.1 same
    · obtain rfl := eq_nil_of_onward leads (longer ▸ leadsSecond) ends onward
      exact ⟨(longer.trans (List.append_nil _)).symm, List.cons.inj onward⟩
    · obtain rfl := eq_nil_of_onward leadsSecond (longer ▸ leads) endsSecond onward
      exact ⟨longer.trans (List.append_nil _), List.cons.inj onward.symm⟩
  · rintro ⟨sameText, rfl, rfl⟩
    rw [sameText]

/-- Arrays with items have the same text just where their items have, one by one. -/
theorem itemsText_eq_iff {items others : List Json} (isNonempty : items ≠ [])
    (isNonemptyOther : others ≠ []) :
    itemsText items = itemsText others ↔ items.map text = others.map text := by
  have comma : Place.next? (.between 0) ',' = none := rfl
  have bracket : Place.next? (.between 0) ']' = none := rfl
  induction items generalizing others with
  | nil => exact absurd rfl isNonempty
  | cons item rest inductionHypothesis =>
    cases others with
    | nil => exact absurd rfl isNonemptyOther
    | cons other restOther =>
      -- what stands behind an item tells whether it is the last one
      cases rest with
      | nil =>
        cases restOther with
        | nil => simp [itemsText, text_append_eq_iff bracket bracket]
        | cons nextOther restOther => simp [itemsText, text_append_eq_iff bracket comma]
      | cons next rest =>
        cases restOther with
        | nil => simp [itemsText, text_append_eq_iff comma bracket]
        | cons nextOther restOther =>
          have onward := inductionHypothesis (List.cons_ne_nil next rest)
            (List.cons_ne_nil nextOther restOther)
          simpa [itemsText, text_append_eq_iff comma comma] using fun _ => onward

theorem render_eq_iff {first second : Json} :
    first.render = second.render ↔ text first = text second :=
  String.ofList_inj

/-- The same for arrays as a whole. -/
theorem render_array_eq_iff {items others : List Json} (isNonempty : items ≠ [])
    (isNonemptyOther : others ≠ []) :
    (array items).render = (array others).render ↔ items.map render = others.map render := by
  have rendered (documents : List Json) :
      documents.map render = (documents.map text).map String.ofList :=
    List.map_map.symm
  rw [render_eq_iff, text, text, List.cons_inj_right, itemsText_eq_iff isNonempty isNonemptyOther,
    rendered, rendered, List.map_inj_right fun _ _ => String.ofList_inj.1]

end Json

end DynamicSql
