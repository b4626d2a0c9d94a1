/-
This file says which events are a document and what is kept of them. The elements must be begun and
ended in turn under the same names, one of them must stand outside of all others, and text out there
must be blank; whatever else comes is read. The tree then lists, in the order of the document, the
events that it was built from.

The elements that are open lie on a stack. What the events that are left have to do is said twice:
by a grammar of brackets, and along the stack, where each event can be compared with what the step
for it does. The listing of what has been built so far, open elements included, grows by each event.
-/

import DynamicSql.Proofs.Markup.RoundTrip
import Mathlib.Data.List.Basic

namespace DynamicSql.Markup

/-! ### Brackets -/

/-- Events that begin and end elements in turn, each ended under the name it was begun with. -/
inductive Balanced : List Event → Prop
  | nil : Balanced []
  | text {rest : List Event} (text : String) (later : Balanced rest) : Balanced (.text text :: rest)
  | skipped {rest : List Event} (later : Balanced rest) : Balanced (.skipped :: rest)
  | empty {rest : List Event} (tag : Tag) (later : Balanced rest) : Balanced (.empty tag :: rest)
  | element {events rest : List Event} (tag : Tag) (inside : Balanced events)
      (later : Balanced rest) :
      Balanced (.start tag :: (events ++ .finish tag.name :: rest))

/-- Events that end all open elements, whose names are given from the innermost on, and all that
they begin themselves. -/
def Closes (names : List String) : List Event → Prop
  | [] => names = []
  | .start tag :: rest => Closes (tag.name :: names) rest
  | .finish name :: rest => ∃ outer, names = name :: outer ∧ Closes outer rest
  | .empty _ :: rest => Closes names rest
  | .text _ :: rest => Closes names rest
  | .skipped :: rest => Closes names rest

/-- Balanced events leave the open elements open. -/
theorem Balanced.closes_append {events : List Event} (balanced : Balanced events)
    {names : List String} {rest : List Event} (closes : Closes names rest) :
    Closes names (events ++ rest) := by
  induction balanced generalizing names rest with
  | nil => exact closes
  | text text _ later => exact later closes
  | skipped _ later => exact later closes
  | empty tag _ later => exact later closes
  | element tag _ _ inside later =>
    rw [List.cons_append, List.append_assoc]
    exact inside ⟨names, rfl, later closes⟩

/-- Events that fall into balanced ones for each open element, with its end behind them, and more
balanced ones behind all. -/
def Parted : List String → List Event → Prop
  | [], events => Balanced events
  | name :: outer, events =>
    ∃ inside rest, events = inside ++ .finish name :: rest ∧ Balanced inside ∧ Parted outer rest

/-- What keeps events balanced in front of them can stand in front of the first part. -/
theorem Parted.append (front : List Event)
    (keeps : ∀ events, Balanced events → Balanced (front ++ events)) {names : List String}
    {events : List Event} (parted : Parted names events) : Parted names (front ++ events) := by
  cases names with
  | nil => exact keeps events parted
  | cons name outer =>
    obtain ⟨inside, rest, rfl, balanced, later⟩ := parted
    exact ⟨front ++ inside, rest, by rw [List.append_assoc], keeps inside balanced, later⟩

theorem Closes.parted {names : List String} {events : List Event} (closes : Closes names events) :
    Parted names events := by
  induction events generalizing names with
  | nil =>
    obtain rfl : names = [] := closes
    exact .nil
  | cons event rest inductionHypothesis =>
    cases event with
    | start tag =>
      -- The first part is what stands in the new element, which then stands before the next part.
      obtain ⟨inside, later, rfl, balanced, parted⟩ : Parted (tag.name :: names) rest :=
        inductionHypothesis closes
      have whole : Event.start tag :: (inside ++ .finish tag.name :: later) =
          (.start tag :: (inside ++ [.finish tag.name])) ++ later := by simp
      rw [whole]
      refine parted.append _ fun events isBalanced => ?_
      rw [List.cons_append, List.append_assoc]
      exact .element tag balanced isBalanced
    | finish name =>
      obtain ⟨outer, rfl, later⟩ := closes
      exact ⟨[], rest, rfl, .nil, inductionHypothesis later⟩
    | empty tag => exact (inductionHypothesis closes).append [_] fun _ => .empty tag
    | text text => exact (inductionHypothesis closes).append [_] fun _ => .text text
    | skipped => exact (inductionHypothesis closes).append [_] fun _ => .skipped

/-- The grammar and the stack say the same. -/
theorem balanced_iff_closes (events : List Event) : Balanced events ↔ Closes [] events := by
  constructor
  · intro balanced
    have closes : Closes [] (events ++ []) := balanced.closes_append rfl
    rwa [List.append_nil] at closes
  · exact Closes.parted

/-! ### Events outside of all elements -/

/-- The event begins an element. -/
def Event.beginsElement : Event → Bool
  | .start _ => true
  | .empty _ => true
  | _ => false

/-- The events that stand outside of all elements, `depth` of which are open. The end of an element
does not count among them. -/
def outermost (depth : Nat) : List Event → List Event
  | [] => []
  | .start tag :: rest =>
    if depth = 0 then .start tag :: outermost (depth + 1) rest else outermost (depth + 1) rest
  | .finish _ :: rest => outermost (depth - 1) rest
  | .empty tag :: rest =>
    if depth = 0 then .empty tag :: outermost depth rest else outermost depth rest
  | .text text :: rest =>
    if depth = 0 then .text text :: outermost depth rest else outermost depth rest
  | .skipped :: rest => outermost depth rest

/-- Events that are a document. -/
@[mk_iff]
structure IsDocument (events : List Event) : Prop where
  balanced : Balanced events
  oneRoot : (outermost 0 events).countP Event.beginsElement = 1
  blankOutside : ∀ text, .text text ∈ outermost 0 events → Text.isAllBlank text.toList = true

/-- The elements that stand outside of all others so far, ended or not. -/
def Growth.roots (growth : Growth) : Nat :=
  growth.root.toList.length + min growth.opened.length 1

/-- What the events that are left have to do for a document. -/
@[mk_iff]
structure Growth.Completes (growth : Growth) (events : List Event) : Prop where
  closes : Closes (growth.opened.map (·.tag.name)) events
  oneRoot : growth.roots + (outermost growth.opened.length events).countP Event.beginsElement = 1
  blankOutside : ∀ text, .text text ∈ outermost growth.opened.length events →
    Text.isAllBlank text.toList = true

variable {growth next : Growth} {rest : List Event}

theorem countP_of_beginsElement {event : Event} (begins : event.beginsElement = true)
    (events : List Event) : (event :: events).countP Event.beginsElement =
      1 + events.countP Event.beginsElement := by
  rw [List.countP_cons_of_pos begins, Nat.add_comm]

/-- An element that has ended is added where no other one stands outside of all elements, or where
it stands in another one. -/
theorem exists_add_iff {element : Element} :
    (∃ next, growth.add element = .ok next ∧ next.Completes rest) ↔
      Closes (growth.opened.map (·.tag.name)) rest ∧
      (growth.roots + if growth.opened = [] then 1 else 0) +
        (outermost growth.opened.length rest).countP Event.beginsElement = 1 ∧
      ∀ text, .text text ∈ outermost growth.opened.length rest →
        Text.isAllBlank text.toList = true := by
  obtain ⟨opened, root⟩ := growth
  cases opened with
  | cons parent outer => simp [Growth.add, Growth.completes_iff, Growth.roots]
  | nil =>
    cases root with
    | none => simp [Growth.add, Growth.completes_iff, Growth.roots]
    | some root =>
      refine iff_of_false nofun fun ⟨_, isOne, _⟩ => ?_
      simp [Growth.roots] at isOne
      omega

/-- The step for an event goes on to a document exactly if the events from it on do. -/
theorem exists_step_iff (event : Event) :
    (∃ next, growth.step event = .ok next ∧ next.Completes rest) ↔
      growth.Completes (event :: rest) := by
  obtain ⟨opened, root⟩ := growth
  cases event with
  | start tag =>
    simp only [Growth.step, Except.ok.injEq, exists_eq_left', Growth.completes_iff]
    cases opened with
    | nil =>
      have counted := @countP_of_beginsElement (.start tag) rfl
      simp [Closes, outermost, Growth.roots, counted, Nat.add_assoc]
    | cons innermost outer => simp [Closes, outermost, Growth.roots]
  | empty tag =>
    rw [Growth.step, exists_add_iff, Growth.completes_iff]
    cases opened with
    | nil =>
      have counted := @countP_of_beginsElement (.empty tag) rfl
      simp [Closes, outermost, Growth.roots, counted, Nat.add_assoc]
    | cons innermost outer => simp [Closes, outermost, Growth.roots]
  | finish name =>
    rw [Growth.completes_iff]
    cases opened with
    | nil => simp [Growth.step, Growth.finish, Closes]
    | cons innermost outer =>
      by_cases same : innermost.tag.name = name
      · simp only [Growth.step, Growth.finish, if_pos same, exists_add_iff]
        cases outer <;> simp [same, Closes, outermost, Growth.roots]
      · simp [Growth.step, Growth.finish, Closes, same]
  | text text =>
    simp only [Growth.completes_iff]
    cases opened with
    | nil =>
      by_cases blank : Text.isAllBlank text.toList = true
      · simp [Growth.step, Growth.addText, blank, Closes, outermost, Growth.roots,
          Event.beginsElement]
      · simp [Growth.step, Growth.addText, blank, outermost]
    | cons innermost outer =>
      simp [Growth.step, Growth.addText, Closes, outermost, Growth.roots]
  | skipped => simp [Growth.step, Growth.completes_iff, Closes, outermost, Growth.roots]

theorem exists_run_iff (growth : Growth) (events : List Event) :
    (∃ root, growth.run events = .ok ⟨[], some root⟩) ↔ growth.Completes events := by
  induction events generalizing growth with
  | nil =>
    obtain ⟨opened, root⟩ := growth
    cases opened <;> cases root <;>
      simp [Growth.run, Growth.completes_iff, Closes, Growth.roots, outermost]
  | cons event rest inductionHypothesis =>
    rw [← exists_step_iff, Growth.run]
    cases growth.step event with
    | error fault => simp
    | ok next => simp [inductionHypothesis]

theorem ofEvents_eq_ok_iff {events : List Event} {root : Element} :
    Element.ofEvents events = .ok root ↔ Growth.empty.run events = .ok ⟨[], some root⟩ := by
  unfold Element.ofEvents
  split
  · next growth isGrowth =>
    obtain ⟨opened, found⟩ := growth
    rw [isGrowth]
    cases opened <;> cases found <;> simp [Growth.result]
  · next fault isFault => simp [isFault]

theorem exists_ofEvents_iff (events : List Event) :
    (∃ root, Element.ofEvents events = .ok root) ↔ IsDocument events := by
  simp only [ofEvents_eq_ok_iff, exists_run_iff, Growth.completes_iff, isDocument_iff,
    balanced_iff_closes]
  simp [Growth.empty, Growth.roots]

/-! ### Listing -/

mutual

/-- The events of a content, an empty element being begun and ended. -/
def Content.events : Content → List Event
  | .text text => [.text text]
  | .element tag children => .start tag :: (contentEvents children ++ [.finish tag.name])

/-- The events of contents, one after the other. -/
def contentEvents : List Content → List Event
  | [] => []
  | content :: rest => content.events ++ contentEvents rest

end

/-- The events of an element in the order of the document. -/
def Element.events (element : Element) : List Event :=
  .start element.tag :: (contentEvents element.children ++ [.finish element.tag.name])

/-- What is kept of events, `depth` elements being open: an empty element is begun and ended, and
what is passed over is left out, as is the text outside of all elements. -/
def kept (depth : Nat) : List Event → List Event
  | [] => []
  | .start tag :: rest => .start tag :: kept (depth + 1) rest
  | .finish name :: rest => .finish name :: kept (depth - 1) rest
  | .empty tag :: rest => .start tag :: .finish tag.name :: kept depth rest
  | .text text :: rest => if depth = 0 then kept depth rest else .text text :: kept depth rest
  | .skipped :: rest => kept depth rest

/-- Events with one more before them; a text is joined to a text that they begin with. -/
def joinBefore : Event → List Event → List Event
  | .text text, .text next :: later => .text (text ++ next) :: later
  | event, later => event :: later

/-- Events with texts joined that stand side by side. -/
def joined (events : List Event) : List Event :=
  events.foldr joinBefore []

/-- Events with one more behind them; a text is joined to a text at their end. -/
def joinBehind (events : List Event) : Event → List Event
  | .text text =>
    match events.getLast? with
    | some (.text last) => events.dropLast ++ [.text (last ++ text)]
    | _ => events ++ [.text text]
  | event => events ++ [event]

@[simp]
theorem joinBehind_text_text (events : List Event) (last text : String) :
    joinBehind (events ++ [.text last]) (.text text) = events ++ [.text (last ++ text)] := by
  rw [joinBehind, List.getLast?_concat]
  simp

theorem joinBehind_of_ne {first second : Event}
    (apart : ∀ last text, first = .text last → second ≠ .text text) (events : List Event) :
    joinBehind (events ++ [first]) second = events ++ [first] ++ [second] := by
  unfold joinBehind
  split
  · next text =>
    rw [List.getLast?_concat]
    split
    · next last isLast => exact absurd rfl (apart last text (Option.some.inj isLast))
    · rfl
  · rfl

@[simp]
theorem joinBefore_text_text (first second : String) (events : List Event) :
    joinBefore (.text first) (joinBefore (.text second) events) =
      joinBefore (.text (first ++ second)) events := by
  cases events with
  | nil => rfl
  | cons next later => cases next <;> simp [joinBefore, String.append_assoc]

theorem joinBefore_of_ne {first second : Event}
    (apart : ∀ last text, first = .text last → second ≠ .text text) (events : List Event) :
    joinBefore first (joinBefore second events) = first :: joinBefore second events := by
  cases first with
  | text last =>
    cases second with
    | text text => exact absurd rfl (apart last text rfl)
    | _ => rfl
  | _ => rfl

/-- Events are joined behind others as they are joined among themselves. -/
theorem foldl_joinBehind (events rest : List Event) (event : Event) :
    rest.foldl joinBehind (events ++ [event]) = events ++ joined (event :: rest) := by
  induction rest generalizing events event with
  | nil => cases event <;> rfl
  | cons next rest inductionHypothesis =>
    rw [List.foldl_cons]
    by_cases texts : ∃ last text, event = .text last ∧ next = .text text
    · obtain ⟨last, text, rfl, rfl⟩ := texts
      rw [joinBehind_text_text, inductionHypothesis]
      simp only [joined, List.foldr_cons, joinBefore_text_text]
    · have apart : ∀ last text, event = .text last → next ≠ .text text :=
        fun last text isLast isText => texts ⟨last, text, isLast, isText⟩
      rw [joinBehind_of_ne apart, inductionHypothesis, List.append_assoc]
      simp only [joined, List.foldr_cons, joinBefore_of_ne apart, List.singleton_append]

theorem foldl_joinBehind_nil (events : List Event) :
    events.foldl joinBehind [] = joined events := by
  cases events with
  | nil => rfl
  | cons event rest =>
    have single : joinBehind [] event = [] ++ [event] := by cases event <;> rfl
    rw [List.foldl_cons, single, foldl_joinBehind, List.nil_append]

/-! ### What has been built -/

/-- The events of open elements, the innermost first, as far as they have come. -/
def openEvents : List Element → List Event
  | [] => []
  | innermost :: outer =>
    openEvents outer ++ .start innermost.tag :: contentEvents innermost.children

/-- The events of all that has been built. -/
def Growth.events (growth : Growth) : List Event :=
  (growth.root.map Element.events).getD [] ++ openEvents growth.opened

@[simp]
theorem contentEvents_append (contents others : List Content) :
    contentEvents (contents ++ others) = contentEvents contents ++ contentEvents others := by
  induction contents with
  | nil => rfl
  | cons content rest inductionHypothesis =>
    rw [List.cons_append, contentEvents, contentEvents, inductionHypothesis, List.append_assoc]

/-- In an open element a text comes behind what is there. -/
theorem contentEvents_appendText (front : List Event) (tag : Tag) (contents : List Content)
    (text : String) :
    front ++ .start tag :: contentEvents (appendText contents text) =
      joinBehind (front ++ .start tag :: contentEvents contents) (.text text) := by
  rcases List.eq_nil_or_concat' contents with rfl | ⟨init, last, rfl⟩
  · have opens : joinBehind (front ++ [.start tag]) (.text text) =
        front ++ [.start tag] ++ [.text text] := joinBehind_of_ne (by rintro _ _ ⟨⟩) front
    simpa [appendText, contentEvents, Content.events] using opens.symm
  · unfold appendText
    rw [List.getLast?_concat, List.dropLast_concat]
    cases last with
    | text last =>
      have whole (end' : String) : front ++ .start tag :: contentEvents (init ++ [.text end']) =
          (front ++ .start tag :: contentEvents init) ++ [.text end'] := by
        simp [contentEvents, Content.events]
      rw [whole, whole, joinBehind_text_text]
    | element inner children =>
      have whole : front ++ .start tag :: contentEvents (init ++ [.element inner children]) =
          (front ++ .start tag :: (contentEvents init ++ .start inner :: contentEvents children)) ++
            [.finish inner.name] := by
        simp [contentEvents, Content.events]
      rw [contentEvents_append, ← List.cons_append, ← List.append_assoc, whole,
        joinBehind_of_ne (by rintro _ _ ⟨⟩)]
      rfl

theorem Growth.events_add {element : Element} (added : growth.add element = .ok next) :
    next.events = growth.events ++ element.events := by
  unfold Growth.add at added
  split at added
  · next parent outer isOpened =>
    obtain rfl := Except.ok.inj added
    simp [Growth.events, isOpened, openEvents, contentEvents, Content.events, Element.events]
  · next isOpened =>
    split at added
    · next noRoot =>
      obtain rfl := Except.ok.inj added
      simp [Growth.events, isOpened, noRoot, openEvents]
    · cases added

/-- An event that has been read is behind what has been built. -/
theorem Growth.foldl_joinBehind_step {event : Event} (stepped : growth.step event = .ok next)
    (rest : List Event) :
    (kept next.opened.length rest).foldl joinBehind next.events =
      (kept growth.opened.length (event :: rest)).foldl joinBehind growth.events := by
  cases event with
  | start tag =>
    obtain rfl := Except.ok.inj stepped
    simp [Growth.events, openEvents, contentEvents, kept, joinBehind]
  | empty tag =>
    rw [events_add stepped, length_opened_of_add stepped]
    simp [Element.events, contentEvents, kept, joinBehind]
  | finish name =>
    have shorter := length_opened_of_finish stepped
    have isEnd : next.events = growth.events ++ [.finish name] := by
      unfold Growth.step Growth.finish at stepped
      simp only at stepped
      split at stepped
      · cases stepped
      · next innermost outer isOpened =>
        split at stepped
        · next same =>
          rw [events_add stepped, ← same]
          simp [Growth.events, isOpened, openEvents, Element.events]
        · cases stepped
    rw [isEnd, shorter]
    simp [kept, joinBehind]
  | text text =>
    have same := length_opened_of_addText stepped
    rw [same]
    unfold Growth.step Growth.addText at stepped
    simp only at stepped
    split at stepped
    · next innermost outer isOpened =>
      obtain rfl := Except.ok.inj stepped
      have grown := contentEvents_appendText
        ((growth.root.map Element.events).getD [] ++ openEvents outer) innermost.tag
        innermost.children text
      simp only [Growth.events, isOpened, openEvents, kept, List.length_cons, ← List.append_assoc]
      rw [grown]
      simp
    · next isOpened =>
      split at stepped
      · obtain rfl := Except.ok.inj stepped
        simp [isOpened, kept]
      · cases stepped
  | skipped =>
    obtain rfl := Except.ok.inj stepped
    rfl

theorem Growth.foldl_joinBehind_run {last : Growth} {events : List Event}
    (done : growth.run events = .ok last) :
    (kept growth.opened.length events).foldl joinBehind growth.events = last.events := by
  induction events generalizing growth with
  | nil =>
    obtain rfl := Except.ok.inj done
    rfl
  | cons event rest inductionHypothesis =>
    unfold Growth.run at done
    split at done
    · next next stepped =>
      rw [← Growth.foldl_joinBehind_step stepped]
      exact inductionHypothesis done
    · cases done

theorem events_of_ofEvents {events : List Event} {root : Element}
    (isRoot : Element.ofEvents events = .ok root) : root.events = joined (kept 0 events) := by
  have built := Growth.foldl_joinBehind_run (ofEvents_eq_ok_iff.1 isRoot)
  rw [← foldl_joinBehind_nil]
  simpa [Growth.empty, Growth.events, openEvents] using built.symm

/-! ### Lexemes -/

theorem Growth.read_eq {lexemes : List Lexeme} {events : List Event}
    (areEvents : List.Forall₂ (Event.ofLexeme · = .ok ·) lexemes events)
    (growth : Growth) : growth.read lexemes = (growth.run events).mapError .tree := by
  induction areEvents generalizing growth with
  | nil => rfl
  | @cons lexeme event lexemes events isEvent _ inductionHypothesis =>
    rw [Growth.read, isEvent, Growth.run]
    simp only
    cases growth.step event with
    | error fault => rfl
    | ok next => exact inductionHypothesis next

/-- Where markup is cut to its end and all lexemes are events, it is read as the events are. -/
theorem read_eq_ofEvents {source : List Char} {found : List Lexeme} {events : List Event}
    (areLexemes : lexemes (withoutOrderMark source) = (found, none))
    (areEvents : List.Forall₂ (Event.ofLexeme · = .ok ·) found events) :
    Element.read source = (Element.ofEvents events).mapError .tree := by
  unfold Element.read Element.ofEvents
  rw [areLexemes]
  simp only [Growth.read_eq areEvents]
  cases Growth.empty.run events with
  | error fault => rfl
  | ok growth =>
    simp only [Except.mapError]
    cases growth.result <;> rfl

/-- Events are read to an element exactly if they are a document: elements are begun and ended in
turn under the same names, one of them stands outside of all others, and the text out there is
blank. The element then lists the events, an empty one begun and ended, what is passed over and the
blanks outside left out, and texts that stand side by side joined. So it is for markup that is cut
to such events. -/
theorem ofEvents_lossless :
    (∀ events, ((∃ root, Element.ofEvents events = .ok root) ↔ IsDocument events) ∧
      ∀ root, Element.ofEvents events = .ok root → root.events = joined (kept 0 events)) ∧
    ∀ source found events, lexemes (withoutOrderMark source) = (found, none) →
      List.Forall₂ (Event.ofLexeme · = .ok ·) found events →
      ((∃ root, Element.read source = .ok root) ↔ IsDocument events) ∧
      ∀ root, Element.read source = .ok root → root.events = joined (kept 0 events) := by
  refine ⟨fun events => ⟨exists_ofEvents_iff events, fun _ => events_of_ofEvents⟩, ?_⟩
  intro source found events areLexemes areEvents
  have same (root : Element) :
      Element.read source = .ok root ↔ Element.ofEvents events = .ok root := by
    rw [read_eq_ofEvents areLexemes areEvents]
    cases Element.ofEvents events <;> simp [Except.mapError]
  simp only [same]
  exact ⟨exists_ofEvents_iff events, fun _ => events_of_ofEvents⟩

end DynamicSql.Markup
