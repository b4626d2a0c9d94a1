/-
This file says which rows a collection gathers. One that a result map declares itself gathers all
rows of its record. An association is shaped from the first row of the record it is in, so a
collection within it gathers that row alone: it gathers all of them only where the other rows have
no key but that of the first one.
-/

import DynamicSql.Proofs.Projection.Children

namespace DynamicSql.Projection

variable {registry : Registry} {map : ResultMap} {start : String}

/-! ### Gathered rows -/

/-- A list gathers rows: it has one record for each key that they have, in the order in which the
keys first appear, with the plain properties of the first row of the key. -/
def Gathers (map : ResultMap) (start : String) (rows : List Row) (items : List Value) : Prop :=
  List.Forall₂ (fun key item => ∃ first fields,
      (rowsOf map start rows key).head? = some first ∧ item = .record map.typeName fields ∧
      ∀ property ∉ map.nested.map Nested.property, ∀ value,
        plainValue? map start first property = some value →
        Fields.get? property fields = some value)
    (childKeys map start rows) items

/-- Rows have no other key than the first of them. -/
def NoOtherKey (map : ResultMap) (start : String) (first : Row) (rest : List Row) : Prop :=
  ∀ row ∈ rest, ∀ key, identity? map start row = some key → identity? map start first = some key

@[simp]
theorem childKeys_singleton (map : ResultMap) (start : String) (first : Row) :
    childKeys map start [first] = (identity? map start first).toList := by
  unfold childKeys
  cases identified : identity? map start first with
  | none => rw [List.filterMap_cons_none identified]; rfl
  | some key => rw [List.filterMap_cons_some identified]; rfl

/-- Rows without another key than the first have the keys of the first. -/
theorem childKeys_eq_of_noOtherKey {first : Row} {rest : List Row}
    (noOther : NoOtherKey map start first rest) :
    childKeys map start (first :: rest) = childKeys map start [first] := by
  rw [childKeys_singleton]
  unfold childKeys
  cases identified : identity? map start first with
  | none =>
    have noKeys : rest.filterMap (identity? map start) = [] := by
      refine List.filterMap_eq_nil_iff.2 fun row isRow => ?_
      cases other : identity? map start row with
      | none => rfl
      | some key =>
        have same := noOther row isRow key other
        rw [identified] at same
        cases same
    rw [List.filterMap_cons_none identified, noKeys]
    rfl
  | some key =>
    have noKeys : (rest.filterMap (identity? map start)).filter (fun other => !other == key) =
        [] := by
      refine List.filter_eq_nil_iff.2 fun other isOther => ?_
      obtain ⟨row, isRow, isKey⟩ := List.mem_filterMap.1 isOther
      have same := noOther row isRow other isKey
      rw [identified] at same
      simpa using (Option.some.inj same).symm
    rw [List.filterMap_cons_some identified, List.eraseDups_cons, noKeys]
    rfl

/-- Where rows have no more keys than the first of them, none has another one. -/
theorem noOtherKey_of_length {first : Row} {rest : List Row}
    (sameLength : (childKeys map start (first :: rest)).length =
      (childKeys map start [first]).length) :
    NoOtherKey map start first rest := by
  intro row isRow key isKey
  have member : key ∈ childKeys map start (first :: rest) :=
    mem_childKeys_iff.2 ⟨row, List.mem_cons_of_mem first isRow, isKey⟩
  rw [childKeys_singleton] at sameLength
  cases identified : identity? map start first with
  | none =>
    rw [identified] at sameLength
    rw [List.length_eq_zero_iff.1 sameLength] at member
    cases member
  | some own =>
    have isOwn : own ∈ childKeys map start (first :: rest) :=
      mem_childKeys_iff.2 ⟨first, List.mem_cons_self, identified⟩
    rw [identified] at sameLength
    obtain ⟨only, isOnly⟩ := List.length_eq_one_iff.1 sameLength
    rw [isOnly] at member isOwn
    rw [List.mem_singleton.1 member, List.mem_singleton.1 isOwn]

/-- What gathers the first row gathers all rows just where these have no other key. -/
theorem gathers_cons_iff {first : Row} {rest : List Row} {items : List Value}
    (gathers : Gathers map start [first] items) :
    Gathers map start (first :: rest) items ↔ NoOtherKey map start first rest := by
  constructor
  · intro gathersAll
    exact noOtherKey_of_length (gathersAll.length_eq.trans gathers.length_eq.symm)
  · intro noOther
    unfold Gathers at gathers ⊢
    rw [childKeys_eq_of_noOtherKey noOther]
    have isKeyOfFirst : ∀ key ∈ childKeys map start [first],
        identity? map start first = some key := by
      intro key isKey
      rwa [childKeys_singleton, Option.mem_toList] at isKey
    refine ((List.forall₂_and_left _ _).2 ⟨isKeyOfFirst, gathers⟩).imp ?_
    rintro key item ⟨isKey, head, fields, isHead, isRecord⟩
    refine ⟨head, fields, ?_, isRecord⟩
    unfold rowsOf at isHead ⊢
    rw [List.filter_cons_of_pos (by simp [isKey])] at isHead ⊢
    exact isHead

/-- The list of a collection that is followed gathers the rows of the call. -/
theorem exists_gathers {rows : List Row} {shape : Trail → Shaping} {call : Call}
    {used : List String} {record : OpenRecord} {rule : Nested ResultMap} {inner : ResultMap}
    (unlimited : Unlimited registry rows map shape) (comesUp : ComesUp registry rows map call)
    (isNonempty : call.rows ≠ []) (done : call.record shape used = .ok record)
    (distinct : (call.map.nested.map Nested.property).Nodup)
    (follows : call.Follows registry rule inner) (collects : rule.kind = .collection)
    (carry : ∀ row ∈ call.rows, CarriesId inner (innerStart call.start rule) row) :
    ∃ items, Fields.get? rule.property record.fields = some (.list items) ∧
      Gathers inner (innerStart call.start rule) call.rows items := by
  obtain ⟨items, isItems, isEach⟩ :=
    exists_items_of_collection unlimited comesUp isNonempty done distinct follows collects carry
  refine ⟨items, isItems, isEach.imp fun key item hasItem => ?_⟩
  obtain ⟨nests, ⟨first, rest, isCons, -⟩, before, part, isPart, rfl⟩ := hasItem
  have shaped := shaped_of_comesUp unlimited (comesUp.nests nests) isCons isPart
  refine ⟨first, part.fields, ?_, rfl, fun property absent value => shaped.plain absent⟩
  exact (congrArg List.head? isCons).trans rfl

/-! ### Collections in associations -/

/-- Rows that make up one record: a collection that its result map declares itself gathers all of
them, and one within an association the first of them, which is to gather them all just where the
others have no other key. -/
theorem gathers_within_association (registry : Registry) (id : String) (map : ResultMap)
    (first : Row) (rest : List Row) (records : List Value)
    (resolved : registry.resultMap id = .ok map)
    (oneGroup : topGroups map (first :: rest) = [first :: rest])
    (projected : registry.projectRows id (first :: rest) = .ok records)
    (distinct : (map.nested.map Nested.property).Nodup) :
    ∃ fields, records = [.record map.typeName fields] ∧
      (∀ rule inner, (Call.ofGroup map (first :: rest)).Follows registry rule inner →
        rule.kind = .collection →
        (∀ row ∈ first :: rest, CarriesId inner (innerStart "" rule) row) →
        ∃ items, Fields.get? rule.property fields = some (.list items) ∧
          Gathers inner (innerStart "" rule) (first :: rest) items) ∧
      ∀ outer part, (Call.ofGroup map (first :: rest)).Follows registry outer part →
        outer.kind = .association → (part.nested.map Nested.property).Nodup →
        (∃ key, identity? part (innerStart "" outer) first = some key) →
        ∃ partFields, Fields.get? outer.property fields =
            some (.record part.typeName partFields) ∧
          ∀ rule inner,
            ((Call.ofGroup map (first :: rest)).deeper outer part [first]).Follows registry rule
              inner →
            rule.kind = .collection →
            CarriesId inner (innerStart (innerStart "" outer) rule) first →
            ∃ items, Fields.get? rule.property partFields = some (.list items) ∧
              Gathers inner (innerStart (innerStart "" outer) rule) [first] items ∧
              (Gathers inner (innerStart (innerStart "" outer) rule) (first :: rest) items ↔
                NoOtherKey inner (innerStart (innerStart "" outer) rule) first rest) := by
  have unlimited : Unlimited registry (first :: rest) map (shapeBehind registry (first :: rest)) :=
    unlimited_shapeBehind resolved
  have isEach := forall₂_of_projectRows resolved projected
  rw [oneGroup] at isEach
  obtain ⟨value, others, ⟨comesUp, used, record, isRecord, rfl⟩, noOthers, rfl⟩ :=
    List.forall₂_cons_left_iff.1 isEach
  obtain rfl := List.forall₂_nil_left_iff.1 noOthers
  refine ⟨record.fields, rfl, ?_, ?_⟩
  · intro rule inner follows collects carry
    have gathers := exists_gathers unlimited comesUp (List.cons_ne_nil first rest) isRecord
      distinct follows collects carry
    exact gathers
  · rintro outer part follows associates distinctPart ⟨key, identified⟩
    obtain ⟨before, partRecord, isPart, isValue⟩ :=
      exists_part_of_association unlimited comesUp rfl isRecord distinct follows associates
    have nests : Nests registry (.ofGroup map (first :: rest))
        ((Call.ofGroup map (first :: rest)).deeper outer part [first]) := by
      refine ⟨rfl, outer, follows.isRule, follows.found, rfl, follows.notLeftOut, ?_⟩
      rw [associates]
      exact List.mem_cons_self
    have shaped := shaped_of_comesUp unlimited (comesUp.nests nests) rfl isPart
    rw [shaped.present identified, if_pos rfl] at isValue
    refine ⟨partRecord.fields, isValue, fun rule inner followsInner collects carry => ?_⟩
    obtain ⟨items, isItems, gathers⟩ := exists_gathers unlimited (comesUp.nests nests)
      (List.cons_ne_nil _ _) isPart distinctPart followsInner collects
      (List.forall_mem_singleton.2 carry)
    exact ⟨items, isItems, gathers, gathers_cons_iff gathers⟩

/-! ### The cards of an owner -/

/-- A card. -/
def cardMap : ResultMap where
  namespaceName := "space"
  id := "card"
  typeName := some "card"
  extended := none
  autoMapping := false
  ids := [⟨"id", "card_id", none, none⟩]
  results := []
  nested := []

/-- An owner with the owner's cards. -/
def ownerMap : ResultMap where
  namespaceName := "space"
  id := "owner"
  typeName := some "owner"
  extended := none
  autoMapping := false
  ids := [⟨"id", "owner_id", none, none⟩]
  results := []
  nested := [⟨.collection, "cards", .reference "space.card", none, none⟩]

/-- A club with its owner, and with the cards once more. -/
def clubMap : ResultMap where
  namespaceName := "space"
  id := "club"
  typeName := some "club"
  extended := none
  autoMapping := false
  ids := [⟨"id", "club_id", none, none⟩]
  results := []
  nested := [⟨.association, "owner", .reference "space.owner", none, none⟩,
    ⟨.collection, "cards", .reference "space.card", none, none⟩]

/-- A registry of the three result maps. -/
def clubs : Registry :=
  ⟨.standard, [⟨"space", [], [cardMap, ownerMap, clubMap], []⟩]⟩

/-- A club and its owner, with the first of two cards. -/
def firstCard : Row :=
  [("club_id", .int64 1), ("owner_id", .int64 7), ("card_id", .int64 70)]

/-- The same club and owner, with the second card. -/
def secondCard : Row :=
  [("club_id", .int64 1), ("owner_id", .int64 7), ("card_id", .int64 71)]

theorem clubs_club : clubs.resultMap "space.club" = .ok clubMap :=
  Registry.resultMap_of_declared rfl rfl

theorem topGroups_club : topGroups clubMap [firstCard, secondCard] = [[firstCard, secondCard]] := by
  have identified : identity? clubMap "" firstCard = some "[1]" := by decide +kernel
  have identifiedSecond : identity? clubMap "" secondCard = some "[1]" := by decide +kernel
  simp [topGroups, sameIdentity, identified, identifiedSecond]

theorem follows_owner : (Call.ofGroup clubMap [firstCard, secondCard]).Follows clubs
    ⟨.association, "owner", .reference "space.owner", none, none⟩ ownerMap :=
  ⟨List.mem_cons_self, Registry.nestedMap?_of_declared rfl rfl, by decide⟩

theorem follows_cards : (Call.ofGroup clubMap [firstCard, secondCard]).Follows clubs
    ⟨.collection, "cards", .reference "space.card", none, none⟩ cardMap :=
  ⟨List.mem_cons_of_mem _ List.mem_cons_self, Registry.nestedMap?_of_declared rfl rfl,
    by decide⟩

theorem follows_cards_of_owner :
    ((Call.ofGroup clubMap [firstCard, secondCard]).deeper
      ⟨.association, "owner", .reference "space.owner", none, none⟩ ownerMap [firstCard]).Follows
      clubs ⟨.collection, "cards", .reference "space.card", none, none⟩ cardMap :=
  ⟨List.mem_cons_self, Registry.nestedMap?_of_declared rfl rfl, by decide⟩

theorem carriesId_card : ∀ row ∈ [firstCard, secondCard], CarriesId cardMap "" row := by
  unfold CarriesId
  decide

theorem gathers_within_association_club : ∃ fields ownerFields direct items,
    clubs.projectRows "space.club" [firstCard, secondCard] =
        .ok [.record (some "club") fields] ∧
      Fields.get? "cards" fields = some (.list direct) ∧
      Gathers cardMap "" [firstCard, secondCard] direct ∧
      Fields.get? "owner" fields = some (.record (some "owner") ownerFields) ∧
      Fields.get? "cards" ownerFields = some (.list items) ∧
      Gathers cardMap "" [firstCard] items ∧
      ¬ Gathers cardMap "" [firstCard, secondCard] items := by
  have done : (clubs.projectRows "space.club" [firstCard, secondCard]).isOk = true := by
    decide +kernel
  obtain ⟨records, projected⟩ := isOk_iff_exists.1 done
  obtain ⟨fields, rfl, ofClub, ofOwner⟩ := gathers_within_association clubs "space.club" clubMap
    firstCard [secondCard] records clubs_club topGroups_club projected (by decide)
  obtain ⟨direct, isDirect, gathersDirect⟩ := ofClub _ _ follows_cards rfl carriesId_card
  have identified : identity? ownerMap "" firstCard = some "[7]" := by decide +kernel
  obtain ⟨ownerFields, isOwner, within⟩ :=
    ofOwner _ _ follows_owner rfl (by decide) ⟨_, identified⟩
  obtain ⟨items, isItems, gathersFirst, isIff⟩ :=
    within _ _ follows_cards_of_owner rfl (carriesId_card _ List.mem_cons_self)
  have otherKey : identity? cardMap "" secondCard = some "[71]" := by decide +kernel
  have firstKey : identity? cardMap "" firstCard ≠ some "[71]" := by decide +kernel
  refine ⟨fields, ownerFields, direct, items, projected, isDirect, gathersDirect, isOwner, isItems,
    gathersFirst, fun gathersAll => firstKey ?_⟩
  exact isIff.1 gathersAll secondCard List.mem_cons_self _ otherKey

/-- How many cards the owner of the only club has. -/
def countCards : List Value → Option Nat
  | [record] => ((record.get? "owner").bind (Value.get? "cards")).bind Value.size?
  | _ => none

/-- A collection within an association need not gather all rows of the record: the owner of two
cards is given one. -/
theorem not_gathers_within_association :
    ¬ ∀ (registry : Registry) (id : String) (map : ResultMap) (first : Row) (rest : List Row)
      (records : List Value) (outer rule : Nested ResultMap) (part inner : ResultMap),
      registry.resultMap id = .ok map → topGroups map (first :: rest) = [first :: rest] →
      registry.projectRows id (first :: rest) = .ok records →
      (map.nested.map Nested.property).Nodup → (part.nested.map Nested.property).Nodup →
      (Call.ofGroup map (first :: rest)).Follows registry outer part →
      outer.kind = .association →
      ((Call.ofGroup map (first :: rest)).deeper outer part [first]).Follows registry rule inner →
      rule.kind = .collection →
      (∃ key, ∀ row ∈ first :: rest, identity? part (innerStart "" outer) row = some key) →
      (∀ row ∈ first :: rest, CarriesId inner (innerStart (innerStart "" outer) rule) row) →
      ∃ fields partFields items, records = [.record map.typeName fields] ∧
        Fields.get? outer.property fields = some (.record part.typeName partFields) ∧
        Fields.get? rule.property partFields = some (.list items) ∧
        Gathers inner (innerStart (innerStart "" outer) rule) (first :: rest) items := by
  intro gathersAll
  have one : (clubs.projectRows "space.club" [firstCard, secondCard]).toOption.bind countCards =
      some 1 := by
    decide +kernel
  have two : (childKeys cardMap "" [firstCard, secondCard]).length = 2 := by decide +kernel
  have identified : ∀ row ∈ [firstCard, secondCard], identity? ownerMap "" row = some "[7]" := by
    decide +kernel
  obtain ⟨records, isResult, isOne⟩ := Option.bind_eq_some_iff.1 one
  obtain ⟨fields, ownerFields, items, rfl, isOwner, isItems, gathers⟩ :=
    gathersAll clubs "space.club" clubMap firstCard [secondCard] records _ _ _ _ clubs_club
      topGroups_club (toOption_eq_some_iff.1 isResult) (by decide) (by decide) follows_owner rfl
      follows_cards_of_owner rfl ⟨_, identified⟩ carriesId_card
  have counted : items.length = 2 := gathers.length_eq.symm.trans two
  simp only [countCards, Value.get?, isOwner, Option.bind_some, isItems, Value.size?,
    counted] at isOne
  cases isOne

end DynamicSql.Projection
