/-
Module: Abacus.Proofs.Locality
Purpose: A failed evaluation has looked one character ahead and no further.
Main exports: Cause.requote, Halts.of_agreeing, evaluate_fails_alike
-/
import Abacus.Proofs.Faults

namespace Abacus

/-- The same cause in a text that goes on differently: only trailing characters are quoted. -/
def Cause.requote (rest : List Char) : Cause → Cause
  | trailing _ => trailing rest
  | cause => cause

@[simp] theorem Cause.category_requote (rest : List Char) (cause : Cause) :
    (cause.requote rest).category = cause.category := by
  cases cause <;> rfl

theorem Cause.requote_of_category_ne {cause : Cause} (inner : cause.category ≠ .malformed)
    (rest : List Char) : cause.requote rest = cause := by
  cases cause with
  | trailing old => exact absurd rfl inner
  | _ => rfl

/-- An evaluation that stops in front of a character stops there in every text that agrees up to
that character. -/
theorem Halts.of_agreeing {limits : Limits} {text other taken rest : List Char} {c : Char}
    {last : State} (halts : Halts limits text taken (c :: rest) last)
    (agree : other.take (taken.length + 1) = text.take (taken.length + 1)) :
    ∃ more, other.drop taken.length = c :: more ∧ Halts limits other taken (c :: more) last := by
  have atStop : text.take (taken.length + 1) = taken ++ [c] := by
    have parts : text = (taken ++ [c]) ++ rest := by simp [halts.split]
    rw [parts]
    exact List.take_left' (by simp)
  have split : other = taken ++ c :: other.drop (taken.length + 1) := by
    have parts := List.take_append_drop (taken.length + 1) other
    rw [agree, atStop] at parts
    simpa using parts.symm
  refine ⟨other.drop (taken.length + 1), ?_, split, halts.walked, halts.refused⟩
  calc
    other.drop taken.length = (taken ++ c :: other.drop (taken.length + 1)).drop taken.length := by
      rw [← split]
    _ = c :: other.drop (taken.length + 1) := List.drop_left

/-- A state quotes nothing of the text that follows it. -/
theorem Halts.requote_of_answer {limits : Limits} {text taken left : List Char} {last : State}
    (halts : Halts limits text taken left last) {cause : Cause} {position : Nat}
    (answered : (last.closeLiteral limits.task).answer = .error (.fault cause position))
    (others : List Char) : cause.requote others = cause := by
  rcases halts.answer_cases answered with failed | ⟨_, ⟨_, rfl⟩ | ⟨_, rfl⟩⟩
  · have inner := ((anchored_closeLiteral halts.anchored).failed _ _ failed).2
    exact Cause.requote_of_category_ne inner others
  · rfl
  · rfl

/-- In front of another text the same state sees the same fault. -/
theorem Halts.verdict_requote {limits : Limits} {text taken left others : List Char}
    {last : State} (halts : Halts limits text taken left last) (nonempty : left ≠ [])
    (nonemptyToo : others ≠ []) {cause : Cause} {position : Nat}
    (failed : last.verdict limits left = .error (.fault cause position)) :
    last.verdict limits others = .error (.fault (cause.requote others) position) := by
  rw [State.verdict] at failed ⊢
  cases answered : (last.closeLiteral limits.task).answer with
  | ok value =>
      rw [answered] at failed
      simp only [nonempty, if_false] at failed
      cases failed
      simp only [nonemptyToo, if_false]
      rfl
  | error failure =>
      rw [answered] at failed
      cases failed
      rw [halts.requote_of_answer answered]

/-- **One character of lookahead.**  Where an evaluation fails in front of a character, every
text that agrees with this one up to and including that character fails in the same way: for the
same cause, at the same position, with the cursor and the depth left where they were.  Only
trailing characters are quoted as they stand in the other text. -/
theorem evaluate_fails_alike (text other : String) (limits : Limits) (cause : Cause)
    (position : Nat)
    (failed : (Session.start text limits).evaluate.1 = .error (.fault cause position))
    (inside : (Session.start text limits).evaluate.2.cursor.position < text.toList.length)
    (agree :
      other.toList.take ((Session.start text limits).evaluate.2.cursor.position + 1) =
        text.toList.take ((Session.start text limits).evaluate.2.cursor.position + 1)) :
    let stop := (Session.start text limits).evaluate.2
    let stopToo := (Session.start other limits).evaluate.2
    let causeToo := cause.requote (other.toList.drop stop.cursor.position)
    (Session.start other limits).evaluate.1 = .error (.fault causeToo position) ∧
      causeToo.category = cause.category ∧
        ((∀ rest, cause ≠ .trailing rest) → causeToo.message = cause.message) ∧
          stopToo.cursor.position = stop.cursor.position ∧ stopToo.depth = stop.depth := by
  obtain ⟨taken, left, last, halts⟩ := exists_halts limits text.toList
  rw [evaluate_of_halts halts] at failed inside agree ⊢
  dsimp only at failed inside agree ⊢
  cases leftEq : left with
  | nil =>
      rw [halts.split, leftEq, List.append_nil] at inside
      exact absurd inside (Nat.lt_irrefl _)
  | cons c rest =>
      -- Both evaluations halt in the same state, in front of the same character.
      rw [leftEq] at halts
      obtain ⟨more, dropped, haltsToo⟩ := halts.of_agreeing agree
      rw [evaluate_of_halts haltsToo, dropped]
      rw [leftEq] at failed
      refine ⟨halts.verdict_requote (by simp) (by simp) failed, cause.category_requote _, ?_,
        rfl, rfl⟩
      intro notTrailing
      cases cause with
      | trailing old => exact absurd rfl (notTrailing old)
      | _ => rfl

/-- A zero divisor that is a group, found behind its closing parenthesis. -/
theorem evaluate_fails_alike_behind_group :
    (Session.start "8/(2-2)+1").evaluate.1 = .error (.fault .zeroDivisor 2) ∧
      (Session.start "8/(2-2)+1").evaluate.2.cursor.position < "8/(2-2)+1".toList.length ∧
        "8/(2-2)+)(".toList.take ((Session.start "8/(2-2)+1").evaluate.2.cursor.position + 1) =
          "8/(2-2)+1".toList.take ((Session.start "8/(2-2)+1").evaluate.2.cursor.position + 1) ∧
          (Session.start "8/(2-2)+)(").evaluate.1 = .error (.fault .zeroDivisor 2) := by
  have failed : (Session.start "8/(2-2)+1").evaluate.1 = .error (.fault .zeroDivisor 2) := by rfl
  have stopped : (Session.start "8/(2-2)+1").evaluate.2.cursor.position = 7 := by rfl
  have inside : (Session.start "8/(2-2)+1").evaluate.2.cursor.position <
      "8/(2-2)+1".toList.length := by
    rw [stopped]
    decide
  have agree :
      "8/(2-2)+)(".toList.take ((Session.start "8/(2-2)+1").evaluate.2.cursor.position + 1) =
        "8/(2-2)+1".toList.take ((Session.start "8/(2-2)+1").evaluate.2.cursor.position + 1) := by
    rw [stopped]
    decide
  exact ⟨failed, inside, agree, (evaluate_fails_alike _ _ {} _ _ failed inside agree).1⟩

end Abacus
