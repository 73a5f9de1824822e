/-
Module: Abacus.Proofs.Reports
Purpose: Which failures can be reported, and which evaluations leave a record.
Main exports: Failure.report_eq_ok_iff, Failure.report_eq_error_iff, report_of_writable,
  attempt_of_writable, eq_of_mapM_attempt_eq_ok
-/
import Abacus.Proofs.Positions

namespace Abacus

/-!
The report of a failure names a limit at most, and this is one of the limits that were kept.  So
where both limits can be written, every failure is reported and every evaluation leaves a record.
-/

/-! ### Reports -/

namespace Failure

variable {failure : Failure} {diagnostic : Diagnostic} {unwritable : Unwritable}

/-- A failure is reported as its diagnostic, unless this names a limit that cannot be written. -/
theorem report_eq_ok_iff :
    failure.report = .ok diagnostic ↔
      diagnostic = failure.diagnostic ∧ ∀ limit ∈ failure.limit?, Numeral.Writable limit := by
  rw [report]
  cases named : failure.limit? with
  | none => simp [eq_comm]
  | some limit =>
      by_cases writable : Numeral.Writable limit
      · simp [writable, eq_comm]
      · simp [writable]

end Failure

/-! ### Evaluations -/

section Evaluations

variable {limits : Limits} {text : String} {failure : Failure} {outcome : Outcome}

/-- What a cause says of the text is said of the limits that were kept. -/
theorem Cause.PointsAt.eq_of_mem_limit? {cause : Cause} {head part rest : List Char}
    (points : cause.PointsAt limits head part rest) :
    ∀ limit ∈ cause.limit?, limit = limits.digits ∨ limit = limits.depth := by
  intro limit named
  cases cause with
  | numberExpected | closingExpected | trailing | zeroDivisor => cases named
  | literalTooLong count found =>
      obtain ⟨-, -, ⟨rfl, -⟩ | ⟨rfl, -⟩⟩ := points
      · cases named
        exact .inl rfl
      · cases named
  | nestedTooDeep found =>
      obtain ⟨-, rfl, -⟩ := points
      cases named
      exact .inr rfl

/-- A failure names no limit but those that the evaluation kept to. -/
theorem eq_of_mem_limit? (failed : evaluate text limits = .error failure) :
    ∀ limit ∈ failure.limit?, limit = limits.digits ∨ limit = limits.depth := by
  cases failure with
  | exhausted => exact nofun
  | fault cause position =>
      obtain ⟨taken, left, last, halts⟩ := exists_halts limits text.toList
      rw [evaluate_eq_verdict halts] at failed
      obtain ⟨head, part, -, -, points⟩ := halts.pointsAt failed
      exact points.eq_of_mem_limit?

/-- Under limits that can be written, every failure is reported. -/
theorem report_of_writable (writable : limits.Writable)
    (failed : evaluate text limits = .error failure) : failure.report = .ok failure.diagnostic := by
  refine Failure.report_eq_ok_iff.2 ⟨rfl, fun limit named => ?_⟩
  rcases eq_of_mem_limit? failed limit named with rfl | rfl
  · exact writable.digits
  · exact writable.depth

/-- Under limits that can be written, every evaluation is recorded. -/
theorem attempt_of_writable (writable : limits.Writable) (text : String) :
    attempt text limits = .ok (tryEvaluate text limits) := by
  rw [attempt, tryEvaluate]
  cases evaluated : evaluate text limits with
  | ok value => rfl
  | error failure =>
      dsimp only
      rw [report_of_writable writable evaluated]
      rfl

-- A limit of 4301 digits cannot be named, so no record tells of the literal that exceeds it.
example : attempt "1" { digits := -(10 ^ 4300 : Nat) } =
    .error { number := -(10 ^ 4300 : Nat) } := by
  decide +kernel

end Evaluations

end Abacus
