/-
Module: Abacus.Proofs.Restored
Purpose: What a record has become when it is read back from its JSON.
Main exports: Outcome.restored, Outcome.ofJson_toJson, Outcome.restored_eq_self_iff,
  Outcome.ofJson_tryEvaluate, Outcome.found_again_iff
-/
import Abacus.Outcome

namespace Abacus.Outcome

/-!
A record leaves out what it can do without: a success has no error, a failure no value.  What is
left out is filled in with what a missing field counts as, so a record is found again exactly if
it had nothing else there.  Read back once, it has lost all that it can lose.
-/

/-- The record that is found in the JSON of a record.  The kind of a success says nothing, but only
one kind that says nothing is left: the empty text. -/
def restored (outcome : Outcome) : Outcome :=
  if outcome.ok then { expression := outcome.expression, value := outcome.value }
  else { outcome with value := .null }

section Restoring

variable {outcome : Outcome}

theorem restored_of_ok (succeeded : outcome.ok = true) :
    outcome.restored = { expression := outcome.expression, value := outcome.value } := by
  rw [restored, succeeded]
  rfl

theorem restored_of_not_ok (failed : outcome.ok = false) :
    outcome.restored = { outcome with value := .null } := by
  rw [restored, failed]
  rfl

/-- Reading a record back restores it. -/
theorem ofJson_toJson (outcome : Outcome) : ofJson outcome.toJson = .ok outcome.restored := by
  rw [toJson]
  cases status : outcome.ok with
  | true =>
      rw [restored_of_ok status]
      rfl
  | false =>
      rw [restored_of_not_ok status]
      rfl

/-- A record is a success when it is restored if and only if it was one before. -/
theorem ok_restored (outcome : Outcome) : outcome.restored.ok = outcome.ok := by
  cases status : outcome.ok with
  | true =>
      rw [restored_of_ok status]
      rfl
  | false =>
      rw [restored_of_not_ok status]
      exact status

/-- Nothing that is written gets lost. -/
theorem toJson_restored (outcome : Outcome) : outcome.restored.toJson = outcome.toJson := by
  rw [toJson, toJson, ok_restored]
  cases status : outcome.ok with
  | true =>
      rw [restored_of_ok status]
      rfl
  | false =>
      rw [restored_of_not_ok status]
      rfl

/-- A record that has been restored stays as it is. -/
theorem restored_restored (outcome : Outcome) : outcome.restored.restored = outcome.restored := by
  cases status : outcome.ok with
  | true => rw [restored_of_ok (by rw [ok_restored, status]), restored_of_ok status]
  | false => rw [restored_of_not_ok (by rw [ok_restored, status]), restored_of_not_ok status]

/-- What a record can lose is the error of a success and the value of a failure. -/
theorem restored_eq_self_iff :
    outcome.restored = outcome ↔
      (outcome.kind = .text "" ∧ outcome.error = .text "" ∧ outcome.position = .null) ∨
        (outcome.kind.isVacant = false ∧ outcome.value = .null) := by
  cases status : outcome.ok with
  | true =>
      have silent : outcome.kind.isVacant = true := status
      rw [restored_of_ok status]
      constructor
      · intro same
        rw [← same]
        exact .inl ⟨rfl, rfl, rfl⟩
      · rintro (⟨noKind, noError, noPosition⟩ | ⟨spoken, -⟩)
        · obtain ⟨expression, value, error, kind, position⟩ := outcome
          cases noKind
          cases noError
          cases noPosition
          rfl
        · rw [silent] at spoken
          cases spoken
  | false =>
      have spoken : outcome.kind.isVacant = false := status
      rw [restored_of_not_ok status]
      constructor
      · intro same
        rw [← same]
        exact .inr ⟨spoken, rfl⟩
      · rintro (⟨noKind, -, -⟩ | ⟨-, noValue⟩)
        · rw [noKind] at spoken
          cases spoken
        · obtain ⟨expression, value, error, kind, position⟩ := outcome
          cases noValue
          rfl

theorem ofJson_toJson_eq_self_iff :
    ofJson outcome.toJson = .ok outcome ↔
      (outcome.kind = .text "" ∧ outcome.error = .text "" ∧ outcome.position = .null) ∨
        (outcome.kind.isVacant = false ∧ outcome.value = .null) := by
  rw [ofJson_toJson, Except.ok.injEq, restored_eq_self_iff]

end Restoring

/-! ### Records that are found again -/

theorem ofJson_success (expression : String) (value : Int) :
    ofJson (success expression value).toJson = .ok (success expression value) :=
  ofJson_toJson_eq_self_iff.2 (.inl ⟨rfl, rfl, rfl⟩)

/-- Every category has a name. -/
theorem isVacant_name (category : Category) : (Json.text category.name).isVacant = false := by
  cases category <;> rfl

theorem ofJson_failure (expression : String) (diagnostic : Diagnostic) :
    ofJson (failure expression diagnostic).toJson = .ok (failure expression diagnostic) :=
  ofJson_toJson_eq_self_iff.2 (.inr ⟨isVacant_name diagnostic.category, rfl⟩)

/-- The record of an evaluation is read back, whatever came of it. -/
theorem ofJson_tryEvaluate (text : String) (limits : Limits) :
    ofJson (tryEvaluate text limits).toJson = .ok (tryEvaluate text limits) := by
  rw [tryEvaluate]
  cases evaluate text limits with
  | ok value => exact ofJson_success text value
  | error failure => exact ofJson_failure text failure.diagnostic

/-- The JSON of a record says whether the record that is found in it is a success. -/
theorem field?_ok (outcome : Outcome) :
    ∃ fields, outcome.toJson = .object fields ∧
      Json.field? fields "ok" = some (.bool outcome.restored.ok) := by
  rw [ok_restored, toJson]
  cases outcome.ok with
  | true => exact ⟨_, rfl, rfl⟩
  | false => exact ⟨_, rfl, rfl⟩

/-- **Which records survive.**  Whatever its fields hold, a record is found again in its JSON if and
only if it is a success without any error, its kind being the empty text, or a failure without a
value.  In any case the record that is found has the same JSON, is a success if that says so, and
is itself found again.  So is every record of a value, of a diagnostic and of an evaluation. -/
theorem found_again_iff (outcome : Outcome) :
    (ofJson outcome.toJson = .ok outcome ↔
      (outcome.kind = .text "" ∧ outcome.error = .text "" ∧ outcome.position = .null) ∨
        (outcome.kind.isVacant = false ∧ outcome.value = .null)) ∧
    (∃ found : Outcome, ofJson outcome.toJson = .ok found ∧
      found.toJson = outcome.toJson ∧ ofJson found.toJson = .ok found ∧
        ∃ fields, outcome.toJson = .object fields ∧
          Json.field? fields "ok" = some (.bool found.ok)) ∧
    (∀ (expression : String) (value : Int),
      ofJson (success expression value).toJson = .ok (success expression value)) ∧
    (∀ (expression : String) (diagnostic : Diagnostic),
      ofJson (failure expression diagnostic).toJson = .ok (failure expression diagnostic)) ∧
    ∀ (text : String) (limits : Limits),
      ofJson (tryEvaluate text limits).toJson = .ok (tryEvaluate text limits) := by
  refine ⟨ofJson_toJson_eq_self_iff, ⟨outcome.restored, ofJson_toJson outcome,
    toJson_restored outcome, ?_, field?_ok outcome⟩, ofJson_success, ofJson_failure,
    ofJson_tryEvaluate⟩
  rw [ofJson_toJson, restored_restored]

end Abacus.Outcome
