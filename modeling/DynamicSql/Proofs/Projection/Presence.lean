/-
This file says when the property of an association is null. A record below the top is there only if
a column that its own result map names has a value; whether the associations below it have found
something is not asked. So where a value stands only further down, the association is null and the
value is lost. Where a result map has a value whenever those below it have, its association is null
exactly if there is nothing in it.
-/

import DynamicSql.Proofs.Projection.Children

namespace DynamicSql.Projection

open Relation (ReflTransGen)

variable {registry : Registry}

/-- Where columns have names, there is a column with the prefix if there is a value. -/
theorem anyCarries_of_hasValue {map : ResultMap} {start : String} {rows : List Row} {row : Row}
    (isRow : row ∈ rows) (named : ∀ rule ∈ map.mappings, rule.column ≠ "")
    (hasValue : HasValue map start row) : anyCarries rows start = true := by
  obtain ⟨rule, isRule, column, found, -⟩ := hasValue
  exact anyCarries_of_column? isRow (named rule isRule) found

/-! ### Associations -/

/-- An association of a call that leads to a result map and is not cut off: the result map is not
being used under the prefix already. -/
structure Call.Associates (registry : Registry) (call : Call) (rule : Nested ResultMap)
    (inner : ResultMap) : Prop where
  isRule : rule ∈ call.map.nested
  isAssociation : rule.kind = .association
  found : registry.nestedMap? rule.target = .ok (some inner)
  fresh : (inner.qualifiedId, innerStart call.start rule) ∉ call.within

/-- A call with the prefix and the result map of an association of another one. -/
def Below (registry : Registry) (outer inner : Call) : Prop :=
  ∃ rule map, outer.Associates registry rule map ∧
    inner = outer.deeper rule map (outer.rows.take 1)

/-- A row has a value for a call, or for one below it to any depth. -/
def Call.HoldsValue (registry : Registry) (call : Call) (row : Row) : Prop :=
  ∃ deeper, ReflTransGen (Below registry) call deeper ∧ HasValue deeper.map deeper.start row

/-- A nested mapping has a prefix that no column of the rows carries. -/
def Call.PassesOver (call : Call) (rule : Nested ResultMap) : Prop :=
  rule.columnPrefix.isSome = true ∧ anyCarries call.rows (innerStart call.start rule) = false

theorem Call.Associates.isLeftOut_iff {call : Call} {rule : Nested ResultMap} {inner : ResultMap}
    (associates : call.Associates registry rule inner) :
    isLeftOut call.within call.rows rule inner (innerStart call.start rule) = true ↔
      call.PassesOver rule := by
  have notUsed : call.within.contains (inner.qualifiedId, innerStart call.start rule) = false :=
    Bool.eq_false_iff.2 fun used => associates.fresh (List.contains_iff_mem.1 used)
  unfold isLeftOut Call.PassesOver
  rw [notUsed, Bool.or_false, Bool.and_eq_true, Bool.not_eq_true']

/-- What the value of an association is, in the record of a call whose first row is given: null or
a record, and null exactly if the association is passed over or its own result map has no value.
Where columns have names the second alone decides, since a value is then found behind the prefix.
Being null is the same as having nothing in it, to any depth, on one condition: whenever something
in it has a value, so has its own result map, and it is not passed over. -/
structure Call.Presents (registry : Registry) (call : Call) (first : Row) (rule : Nested ResultMap)
    (inner : ResultMap) (value : Value) : Prop where
  isRecord : value = .null ∨ ∃ fields, value = .record inner.typeName fields
  isNull_iff : value = .null ↔
    call.PassesOver rule ∨ ¬ HasValue inner (innerStart call.start rule) first
  isNull_iff_of_named : (∀ own ∈ inner.mappings, own.column ≠ "") →
    (value = .null ↔ ¬ HasValue inner (innerStart call.start rule) first)
  isEmpty_iff :
    (value = .null ↔ ¬ (call.deeper rule inner (call.rows.take 1)).HoldsValue registry first) ↔
      ((call.deeper rule inner (call.rows.take 1)).HoldsValue registry first →
        ¬ call.PassesOver rule ∧ HasValue inner (innerStart call.start rule) first)

/-- All of it follows from when the value is null. -/
theorem Call.Presents.of_isNull_iff {call : Call} {first : Row} {rest : List Row}
    {rule : Nested ResultMap} {inner : ResultMap} {value : Value}
    (isRows : call.rows = first :: rest)
    (isRecord : value = .null ∨ ∃ fields, value = .record inner.typeName fields)
    (isNull_iff : value = .null ↔
      call.PassesOver rule ∨ ¬ HasValue inner (innerStart call.start rule) first) :
    call.Presents registry first rule inner value := by
  have holds : HasValue inner (innerStart call.start rule) first →
      (call.deeper rule inner (call.rows.take 1)).HoldsValue registry first :=
    fun hasValue => ⟨_, .refl, hasValue⟩
  refine ⟨isRecord, isNull_iff, fun named => ?_, ?_⟩
  · rw [isNull_iff]
    refine or_iff_right_of_imp fun ⟨_, notCarried⟩ hasValue => ?_
    have carried := anyCarries_of_hasValue (isRows ▸ List.mem_cons_self) named hasValue
    rw [carried] at notCarried
    cases notCarried
  · rw [isNull_iff]
    constructor
    · intro nothingIn something
      have notNull := mt nothingIn.1 (not_not_intro something)
      exact ⟨fun passed => notNull (.inl passed), not_not.1 fun without => notNull (.inr without)⟩
    · intro whenSomething
      constructor
      · rintro (passed | without) something
        · exact (whenSomething something).1 passed
        · exact without (whenSomething something).2
      · exact fun nothingIn => .inr (mt holds nothingIn)

/-- The property of an association in the record of a call, if no later mapping is for it. -/
theorem exists_presents {rows : List Row} {top : ResultMap} {shape : Trail → Shaping}
    (unlimited : Unlimited registry rows top shape) {call : Call}
    (comesUp : ComesUp registry rows top call) {first : Row} {rest : List Row}
    (isRows : call.rows = first :: rest) {used : List String} {record : OpenRecord}
    (done : call.record shape used = .ok record) {rule : Nested ResultMap} {inner : ResultMap}
    (associates : call.Associates registry rule inner)
    (isLast : lastLeading? registry rule.property call.map.nested = some (rule, inner))
    (notAuto : inner.autoMapping = false) :
    ∃ value, Fields.get? rule.property record.fields = some value ∧
      call.Presents registry first rule inner value := by
  rw [unlimited call comesUp, isRows] at done
  obtain ⟨value, isValue, gives⟩ :=
    (gives_of_shapeRecord rule.property done).exists_nestedGives isLast
  refine ⟨value, isValue, ?_⟩
  rw [← isRows] at gives
  cases gives with
  | leftOut isLeft =>
    have passed := associates.isLeftOut_iff.1 isLeft
    rw [associates.isAssociation]
    exact .of_isNull_iff isRows (.inl rfl) (iff_of_true rfl (.inl passed))
  | shaped notLeft isShaped =>
    have notPassed : ¬ call.PassesOver rule := by
      rw [← associates.isLeftOut_iff, Bool.not_eq_true]
      exact notLeft
    rw [associates.isAssociation, isRows] at isShaped
    unfold shapeNested at isShaped
    simp only at isShaped
    split at isShaped
    · cases isShaped
    · next part isPart =>
      obtain ⟨rfl, -⟩ := Prod.mk.inj (Except.ok.inj isShaped)
      have nests : Nests registry call (call.deeper rule inner [first]) := by
        refine ⟨rfl, rule, associates.isRule, associates.found, rfl, notLeft, ?_⟩
        rw [associates.isAssociation, isRows]
        exact List.mem_cons_self
      have isDeeper : (call.deeper rule inner [first]).record shape _ = .ok part := isPart
      rw [unlimited _ (comesUp.nests nests)] at isDeeper
      have isPresent : part.present = true ↔
          HasValue inner (innerStart call.start rule) first :=
        (present_of_shapeRecord isDeeper).2 notAuto
      split
      · next present =>
        refine .of_isNull_iff isRows (.inr ⟨part.fields, rfl⟩) (iff_of_false nofun ?_)
        rintro (passed | without)
        · exact notPassed passed
        · exact without (isPresent.1 present)
      · next absent =>
        exact .of_isNull_iff isRows (.inl rfl) (iff_of_true rfl (.inr (mt isPresent.2 absent)))

/-! ### Nulls -/

/-- In every record that comes up while rows are shaped, at the top or nested to any depth, an
association without auto-mapping is null exactly if no column carries its prefix or its own result
map has no value. That is not the same as having nothing in it, unless its own result map has a
value whenever anything in it has. So it is in the record of a single row in particular. -/
theorem association_isNull_iff (registry : Registry) (id : String) (map : ResultMap)
    (resolved : registry.resultMap id = .ok map) :
    (∀ rows call, ComesUp registry rows map call →
      ∀ first rest used record rule inner, call.rows = first :: rest →
      call.record (shapeBehind registry rows) used = .ok record →
      call.Associates registry rule inner →
      lastLeading? registry rule.property call.map.nested = some (rule, inner) →
      inner.autoMapping = false →
      ∃ value, Fields.get? rule.property record.fields = some value ∧
        call.Presents registry first rule inner value) ∧
    ∀ row record, registry.project id row = .ok record →
      ∃ fields, record = .record map.typeName fields ∧ ∀ rule inner,
        (Call.ofGroup map [row]).Associates registry rule inner →
        lastLeading? registry rule.property map.nested = some (rule, inner) →
        inner.autoMapping = false →
        ∃ value, Fields.get? rule.property fields = some value ∧
          (Call.ofGroup map [row]).Presents registry row rule inner value := by
  constructor
  · intro rows call comesUp first rest used record rule inner isRows done associates isLast notAuto
    exact exists_presents (unlimited_shapeBehind resolved) comesUp isRows done associates isLast
      notAuto
  · intro row value projected
    have comesUp : ComesUp registry [row] map (.ofGroup map [row]) :=
      ⟨[row], by rw [groupRows_singleton]; exact List.mem_cons_self, .refl⟩
    rw [Registry.project_of_resolved resolved] at projected
    obtain ⟨record, done, rfl⟩ := exists_of_map_eq_ok projected
    refine ⟨record.fields, rfl, fun rule inner associates isLast notAuto => ?_⟩
    exact exists_presents (unlimited_shapeBehind resolved) comesUp rfl done associates isLast
      notAuto

/-! ### The house of a guest -/

/-- A city. -/
def cityMap : ResultMap where
  namespaceName := "space"
  id := "city"
  typeName := some "city"
  extended := none
  autoMapping := false
  ids := []
  results := [⟨"name", "city_name", none, none⟩]
  nested := []

/-- A house with its city. -/
def houseMap : ResultMap where
  namespaceName := "space"
  id := "house"
  typeName := some "house"
  extended := none
  autoMapping := false
  ids := []
  results := [⟨"number", "house_number", none, none⟩]
  nested := [⟨.association, "city", .reference "space.city", none, none⟩]

/-- A guest with the guest's house. -/
def guestMap : ResultMap where
  namespaceName := "space"
  id := "guest"
  typeName := some "guest"
  extended := none
  autoMapping := false
  ids := [⟨"id", "guest_id", none, none⟩]
  results := []
  nested := [⟨.association, "house", .reference "space.house", none, none⟩]

/-- A registry of the three result maps. -/
def guests : Registry :=
  ⟨.standard, [⟨"space", [], [cityMap, houseMap, guestMap], []⟩]⟩

/-- A guest of whose house the number and the city are known. -/
def fullGuest : Row :=
  [("guest_id", .int64 1), ("house_number", .int64 7), ("city_name", .int64 5)]

/-- A guest of whose house only the city is known. -/
def vagueGuest : Row :=
  [("guest_id", .int64 2), ("house_number", .null), ("city_name", .int64 5)]

theorem guests_guest : guests.resultMap "space.guest" = .ok guestMap :=
  Registry.resultMap_of_declared rfl rfl

theorem associates_house (row : Row) : (Call.ofGroup guestMap [row]).Associates guests
    ⟨.association, "house", .reference "space.house", none, none⟩ houseMap := by
  refine ⟨List.mem_cons_self, rfl, Registry.nestedMap?_of_declared rfl rfl, ?_⟩
  show (houseMap.qualifiedId, "") ∉ [(guestMap.qualifiedId, "")]
  decide

theorem lastLeading?_house : lastLeading? guests "house" guestMap.nested =
    some (⟨.association, "house", .reference "space.house", none, none⟩, houseMap) :=
  lastLeading?_of_nodup (by decide) List.mem_cons_self (associates_house fullGuest).found

theorem hasValue_house : HasValue houseMap "" fullGuest :=
  ⟨_, List.mem_cons_self, _, rfl, rfl⟩

theorem not_hasValue_house : ¬ HasValue houseMap "" vagueGuest := by
  rintro ⟨rule, isRule, column, found, notNull⟩
  obtain rfl := List.mem_singleton.1 isRule
  obtain rfl := Option.some.inj found
  cases notNull

theorem association_isNull_iff_guests : ∃ full vague house,
    guests.project "space.guest" fullGuest = .ok (.record (some "guest") full) ∧
      Fields.get? "house" full = some (.record (some "house") house) ∧
    guests.project "space.guest" vagueGuest = .ok (.record (some "guest") vague) ∧
      Fields.get? "house" vague = some .null := by
  have doneFull : (guests.project "space.guest" fullGuest).isOk = true := by decide +kernel
  have doneVague : (guests.project "space.guest" vagueGuest).isOk = true := by decide +kernel
  obtain ⟨-, ofRow⟩ := association_isNull_iff guests "space.guest" guestMap guests_guest
  obtain ⟨first, isFull⟩ := isOk_iff_exists.1 doneFull
  obtain ⟨second, isVague⟩ := isOk_iff_exists.1 doneVague
  have named : ∀ own ∈ houseMap.mappings, own.column ≠ "" := by decide
  obtain ⟨full, rfl, ofFull⟩ := ofRow _ _ isFull
  obtain ⟨vague, rfl, ofVague⟩ := ofRow _ _ isVague
  obtain ⟨value, isValue, presents⟩ := ofFull _ _ (associates_house _) lastLeading?_house rfl
  obtain ⟨other, isOther, presentsOther⟩ :=
    ofVague _ _ (associates_house _) lastLeading?_house rfl
  obtain rfl := (presentsOther.isNull_iff_of_named named).2 not_hasValue_house
  rcases presents.isRecord with rfl | ⟨house, rfl⟩
  · exact absurd hasValue_house ((presents.isNull_iff_of_named named).1 rfl)
  · exact ⟨full, vague, house, isFull, isValue, isVague, isOther⟩

/-- Whether a property is null. -/
def isNullAt (name : String) (record : Value) : Option Bool :=
  (record.get? name).map Value.isNull

/-- An association can be null although there is something in it: the city of a house whose number
is not known is lost. -/
theorem not_association_isNull_iff_empty :
    ¬ ∀ (registry : Registry) (id : String) (map : ResultMap) (row : Row)
      (typeName : Option String) (fields : Fields Value) (rule : Nested ResultMap)
      (inner : ResultMap), NeverAutoMaps registry → registry.resultMap id = .ok map →
      (map.nested.map Nested.property).Nodup →
      registry.project id row = .ok (.record typeName fields) →
      (Call.ofGroup map [row]).Associates registry rule inner →
      (Fields.get? rule.property fields = some .null ↔
        ¬ ((Call.ofGroup map [row]).deeper rule inner [row]).HoldsValue registry row) := by
  intro nullIfEmpty
  have isNull : (guests.project "space.guest" vagueGuest).toOption.bind (isNullAt "house") =
      some true := by
    decide +kernel
  have holds : ((Call.ofGroup guestMap [vagueGuest]).deeper
      ⟨.association, "house", .reference "space.house", none, none⟩ houseMap
      [vagueGuest]).HoldsValue guests vagueGuest := by
    refine ⟨_, .single ⟨_, cityMap, ⟨List.mem_cons_self, rfl,
      Registry.nestedMap?_of_declared rfl rfl, by decide⟩, rfl⟩, ?_⟩
    exact ⟨_, List.mem_cons_self, _, rfl, rfl⟩
  have never : NeverAutoMaps guests := by
    unfold NeverAutoMaps
    decide +kernel
  obtain ⟨record, isResult, nullAtHouse⟩ := Option.bind_eq_some_iff.1 isNull
  have projected := toOption_eq_some_iff.1 isResult
  have ofRow := projected
  rw [Registry.project_of_resolved guests_guest] at ofRow
  obtain ⟨part, -, rfl⟩ := exists_of_map_eq_ok ofRow
  have isIff := nullIfEmpty guests _ guestMap vagueGuest _ part.fields _ _ never guests_guest
    (by decide) projected (associates_house vagueGuest)
  obtain ⟨value, isValue, valueNull⟩ := Option.map_eq_some_iff.1 nullAtHouse
  obtain rfl : value = .null := by
    cases value with
    | null => rfl
    | _ => cases valueNull
  exact isIff.1 isValue holds

end DynamicSql.Projection
