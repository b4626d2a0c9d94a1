/-
This file says what the parts of a computation have done that has ended well: each step of a
sequence gave a result, and what is changed or renamed afterwards was there before. One that has
failed has failed in one of its steps. How a computation ends can be found out by running it; there
is a result or a fault then.
-/

import DynamicSql.Error

namespace DynamicSql

variable {Fault Renamed Result Next : Type}

theorem exists_of_bind_eq_ok {outcome : Except Fault Result} {next : Result → Except Fault Next}
    {last : Next} (done : outcome >>= next = .ok last) :
    ∃ result, outcome = .ok result ∧ next result = .ok last := by
  cases outcome with
  | error fault => cases done
  | ok result => exact ⟨result, rfl, done⟩

theorem bind_of_eq_ok {outcome : Except Fault Result} {result : Result}
    (done : outcome = .ok result) (next : Result → Except Fault Next) :
    outcome >>= next = next result := by
  rw [done]
  rfl

theorem exists_of_map_eq_ok {outcome : Except Fault Result} {change : Result → Next} {last : Next}
    (done : outcome.map change = .ok last) :
    ∃ result, outcome = .ok result ∧ change result = last := by
  cases outcome with
  | error fault => cases done
  | ok result => exact ⟨result, rfl, Except.ok.inj done⟩

theorem eq_error_of_map_eq_error {outcome : Except Fault Result} {change : Result → Next}
    {fault : Fault} (failed : outcome.map change = .error fault) : outcome = .error fault := by
  cases outcome with
  | error other => exact congrArg _ (Except.error.inj failed)
  | ok result => cases failed

theorem eq_ok_of_mapError_eq_ok {outcome : Except Fault Result} {rename : Fault → Renamed}
    {last : Result} (done : outcome.mapError rename = .ok last) : outcome = .ok last := by
  cases outcome with
  | error fault => cases done
  | ok result => exact congrArg _ (Except.ok.inj done)

theorem error_or_exists_of_bind_eq_error {outcome : Except Fault Result}
    {next : Result → Except Fault Next} {fault : Fault}
    (failed : outcome >>= next = .error fault) :
    outcome = .error fault ∨ ∃ result, outcome = .ok result ∧ next result = .error fault := by
  cases outcome with
  | error other => exact .inl (congrArg _ (Except.error.inj failed))
  | ok result => exact .inr ⟨result, rfl, failed⟩

theorem exists_of_mapError_eq_error {outcome : Except Fault Result} {rename : Fault → Renamed}
    {renamed : Renamed} (failed : outcome.mapError rename = .error renamed) :
    ∃ fault, outcome = .error fault ∧ rename fault = renamed := by
  cases outcome with
  | error fault => exact ⟨fault, rfl, Except.error.inj failed⟩
  | ok result => cases failed

/-! ### How a computation ends -/

theorem isOk_iff_exists {outcome : Except Fault Result} :
    outcome.isOk = true ↔ ∃ result, outcome = .ok result := by
  cases outcome with
  | error fault => exact iff_of_false nofun (by rintro ⟨_, ⟨⟩⟩)
  | ok result => exact iff_of_true rfl ⟨result, rfl⟩

theorem isOk_eq_false_iff_exists {outcome : Except Fault Result} :
    outcome.isOk = false ↔ ∃ fault, outcome = .error fault := by
  cases outcome with
  | error fault => exact iff_of_true rfl ⟨fault, rfl⟩
  | ok result => exact iff_of_false nofun (by rintro ⟨_, ⟨⟩⟩)

@[simp]
theorem toOption_eq_some_iff {outcome : Except Fault Result} {result : Result} :
    outcome.toOption = some result ↔ outcome = .ok result := by
  cases outcome with
  | error fault => exact iff_of_false nofun nofun
  | ok other => exact ⟨fun same => congrArg _ (Option.some.inj same),
      fun same => congrArg _ (Except.ok.inj same)⟩

/-! ### The same results -/

/-- Two computations have the same results; they may fail in different ways. -/
def SameResult (first second : Except Fault Result) : Prop :=
  ∀ result, first = .ok result ↔ second = .ok result

theorem SameResult.refl (outcome : Except Fault Result) : SameResult outcome outcome :=
  fun _ => Iff.rfl

/-- Failures have the same results, which are none. -/
theorem sameResult_error (fault other : Fault) :
    SameResult (.error fault : Except Fault Result) (.error other) :=
  fun _ => ⟨fun done => (nomatch done), fun done => (nomatch done)⟩

theorem SameResult.bind {first second : Except Fault Result}
    {next other : Result → Except Fault Next} (same : SameResult first second)
    (later : ∀ result, SameResult (next result) (other result)) :
    SameResult (first >>= next) (second >>= other) := by
  intro last
  constructor
  · intro done
    obtain ⟨result, isResult, done⟩ := exists_of_bind_eq_ok done
    rw [bind_of_eq_ok ((same result).1 isResult)]
    exact (later result last).1 done
  · intro done
    obtain ⟨result, isResult, done⟩ := exists_of_bind_eq_ok done
    rw [bind_of_eq_ok ((same result).2 isResult)]
    exact (later result last).2 done

theorem SameResult.map {first second : Except Fault Result} (same : SameResult first second)
    (change : Result → Next) : SameResult (first.map change) (second.map change) :=
  same.bind fun result => .refl (.ok (change result))

end DynamicSql
