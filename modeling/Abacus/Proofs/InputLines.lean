/-
Module: Abacus.Proofs.InputLines
Purpose: The lines of a text, from their ends.
Main exports: linesBy_append_end, linesBy_last, linesBy_append, mem_intercalate, linesOf,
  linesOf_eq, unifyLineEnds_append, linesOf_append_newline, exists_unifyLineEnds_append
-/
import Abacus.Text.Lines

namespace Abacus.Text

/-!
A text is read off in lines from its front: the characters up to the first end are a line, and
what stands behind the end has the other lines.  Splitting at newlines goes the same way, and
differs only where the text ends.
-/

section Ends

variable {isEnd : Char → Bool}

theorem linesBy_cons_end {c : Char} (ends : isEnd c = true) (cs : List Char) :
    linesBy isEnd (c :: cs) = [] :: linesBy isEnd cs := by
  simp [linesBy, ends]

/-- A character that ends no line belongs to the first line, or it is a line alone. -/
theorem linesBy_cons {c : Char} (inside : isEnd c = false) (cs : List Char) :
    linesBy isEnd (c :: cs) =
      (c :: (linesBy isEnd cs).headD []) :: (linesBy isEnd cs).tail := by
  rw [linesBy, List.foldr_cons, if_neg (by simp [inside]), ← linesBy.eq_1]
  cases linesBy isEnd cs <;> rfl

theorem linesBy_eq_nil {cs : List Char} (none : linesBy isEnd cs = []) : cs = [] := by
  cases cs with
  | nil => rfl
  | cons c cs =>
      cases ending : isEnd c with
      | true => rw [linesBy_cons_end ending] at none; cases none
      | false => rw [linesBy_cons ending] at none; cases none

/-- A line with its end stands in front of the other lines. -/
theorem linesBy_append_end {line : List Char} (inside : ∀ c ∈ line, isEnd c = false) {e : Char}
    (ends : isEnd e = true) (rest : List Char) :
    linesBy isEnd (line ++ e :: rest) = line :: linesBy isEnd rest := by
  induction line with
  | nil => exact linesBy_cons_end ends rest
  | cons c line ih =>
      obtain ⟨first, others⟩ := List.forall_mem_cons.1 inside
      rw [List.cons_append, linesBy_cons first, ih others]
      rfl

/-- A last line needs no end, unless it is empty. -/
theorem linesBy_last {line : List Char} (inside : ∀ c ∈ line, isEnd c = false)
    (nonempty : line ≠ []) : linesBy isEnd line = [line] := by
  induction line with
  | nil => exact absurd rfl nonempty
  | cons c line ih =>
      obtain ⟨first, others⟩ := List.forall_mem_cons.1 inside
      rw [linesBy_cons first]
      by_cases last : line = []
      · subst last
        rfl
      · rw [ih others last]
        rfl

/-- Text behind a line end has lines of its own. -/
theorem linesBy_append {e : Char} (ends : isEnd e = true) (cs ds : List Char) :
    linesBy isEnd (cs ++ e :: ds) = linesBy isEnd (cs ++ [e]) ++ linesBy isEnd ds := by
  induction cs with
  | nil => rw [List.nil_append, List.nil_append, linesBy_cons_end ends, linesBy_cons_end ends]; rfl
  | cons c cs ih =>
      rw [List.cons_append, List.cons_append]
      cases ending : isEnd c with
      | true => rw [linesBy_cons_end ending, linesBy_cons_end ending, ih, List.cons_append]
      | false =>
          rw [linesBy_cons ending, linesBy_cons ending, ih]
          cases front : linesBy isEnd (cs ++ [e]) with
          | nil =>
              have nothing := linesBy_eq_nil front
              simp at nothing
          | cons line lines => rfl

end Ends

/-! ### Parts between newlines -/

theorem splitAtNewlines_newline (cs : List Char) :
    splitAtNewlines ('\n' :: cs) = [] :: splitAtNewlines cs := by
  simp [splitAtNewlines, splitOnChar]

theorem splitAtNewlines_cons {c : Char} (inside : c ≠ '\n') (cs : List Char) :
    splitAtNewlines (c :: cs) =
      (c :: (splitAtNewlines cs).headD []) :: (splitAtNewlines cs).tail := by
  rw [splitAtNewlines, splitOnChar, List.foldr_cons, if_neg inside, ← splitOnChar.eq_1,
    ← splitAtNewlines]
  cases splitAtNewlines cs <;> rfl

/-- In joined parts there is nothing else than marks and the parts. -/
theorem mem_intercalate {mark : List Char} {parts : List (List Char)} {c : Char}
    (mem : c ∈ mark.intercalate parts) : c ∈ mark ∨ ∃ part ∈ parts, c ∈ part := by
  induction parts with
  | nil => cases mem
  | cons part parts ih =>
      cases parts with
      | nil => exact .inr ⟨part, List.mem_cons_self, by rwa [List.intercalate_singleton] at mem⟩
      | cons next rest =>
          rw [List.intercalate_cons_cons, List.append_assoc, List.mem_append,
            List.mem_append] at mem
          rcases mem with first | between | others
          · exact .inr ⟨part, List.mem_cons_self, first⟩
          · exact .inl between
          · obtain between | ⟨other, found, inside⟩ := ih others
            · exact .inl between
            · exact .inr ⟨other, List.mem_cons_of_mem part found, inside⟩

/-- The parts without a last one that is empty. -/
def withoutEmptyEnd (parts : List (List Char)) : List (List Char) :=
  if parts.getLast? = some [] then parts.dropLast else parts

theorem withoutEmptyEnd_cons (part : List Char) {parts : List (List Char)} (more : parts ≠ []) :
    withoutEmptyEnd (part :: parts) = part :: withoutEmptyEnd parts := by
  obtain ⟨next, others, rfl⟩ := List.exists_cons_of_ne_nil more
  rw [withoutEmptyEnd, withoutEmptyEnd, List.getLast?_cons_cons]
  split <;> rfl

/-- The lines of an input: what stands between its newlines, however these are written.  Behind a
last newline there is no further line. -/
def linesOf (input : List Char) : List (List Char) :=
  withoutEmptyEnd (splitAtNewlines (unifyLineEnds input))

/-- Reading line by line finds the parts between the newlines. -/
theorem linesBy_newline (cs : List Char) :
    linesBy (· = '\n') cs = withoutEmptyEnd (splitAtNewlines cs) := by
  induction cs with
  | nil => rfl
  | cons c cs ih =>
      by_cases newline : c = '\n'
      · rw [newline, linesBy_cons_end (by simp), splitAtNewlines_newline, ih,
          withoutEmptyEnd_cons [] (splitAtNewlines_ne_nil cs)]
      · rw [linesBy_cons (by simpa using newline), splitAtNewlines_cons newline, ih]
        obtain ⟨part, parts, split⟩ := List.exists_cons_of_ne_nil (splitAtNewlines_ne_nil cs)
        rw [split]
        cases parts with
        | nil => cases part <;> rfl
        | cons next others =>
            have more : next :: others ≠ [] := List.cons_ne_nil next others
            rw [List.headD_cons, List.tail_cons, withoutEmptyEnd_cons part more,
              withoutEmptyEnd_cons (c :: part) more]
            rfl

theorem linesOf_eq (input : List Char) :
    linesOf input = linesBy (· = '\n') (unifyLineEnds input) := by
  rw [linesOf, linesBy_newline]

/-! ### Longer inputs -/

theorem unifyLineEnds_cons (c : Char) {cs : List Char} (apart : c = '\r' → cs.head? ≠ some '\n') :
    unifyLineEnds (c :: cs) = (if c = '\r' then '\n' else c) :: unifyLineEnds cs := by
  rw [unifyLineEnds]
  rintro rest rfl rfl
  exact apart rfl rfl

theorem unifyLineEnds_newline (cs : List Char) :
    unifyLineEnds ('\n' :: cs) = '\n' :: unifyLineEnds cs :=
  unifyLineEnds_cons '\n' (by simp)

/-- A front without carriage returns stays as it is. -/
theorem unifyLineEnds_append {front : List Char} (noReturn : '\r' ∉ front) (rest : List Char) :
    unifyLineEnds (front ++ rest) = front ++ unifyLineEnds rest := by
  induction front with
  | nil => rfl
  | cons c front ih =>
      rw [List.mem_cons, not_or] at noReturn
      have other : c ≠ '\r' := Ne.symm noReturn.1
      rw [List.cons_append, unifyLineEnds_cons c (fun same => absurd same other), if_neg other,
        ih noReturn.2, List.cons_append]

/-- Without carriage returns the line ends are newlines already. -/
theorem unifyLineEnds_eq_self {cs : List Char} (noReturn : '\r' ∉ cs) : unifyLineEnds cs = cs := by
  simpa [unifyLineEnds] using unifyLineEnds_append noReturn []

/-- A carriage return would end the line. -/
theorem return_not_mem {line : List Char} (inside : ∀ c ∈ line, isLineEnd c = false) :
    '\r' ∉ line := by
  intro mem
  have other := inside '\r' mem
  revert other
  decide

theorem unifyLineEnds_eq_nil {cs : List Char} (none : unifyLineEnds cs = []) : cs = [] := by
  revert none
  fun_cases unifyLineEnds cs with
  | case1 => exact fun _ => rfl
  | case2 cs => exact nofun
  | case3 c cs other => exact nofun

/-- Text behind a further newline adds lines, and leaves those in front of it as they are. -/
theorem linesOf_append_newline (input more : List Char) :
    linesOf input <+: linesOf (input ++ '\n' :: more) := by
  rw [linesOf_eq, linesOf_eq]
  fun_induction unifyLineEnds input with
  | case1 => exact List.nil_prefix
  | case2 cs ih =>
      rw [List.cons_append, List.cons_append, unifyLineEnds, linesBy_cons_end (by simp),
        linesBy_cons_end (by simp)]
      exact List.cons_prefix_cons.2 ⟨rfl, ih⟩
  | case3 c cs other ih =>
      by_cases last : c = '\r' ∧ cs = []
      · obtain ⟨rfl, rfl⟩ := last
        exact List.cons_prefix_cons.2 ⟨rfl, List.nil_prefix⟩
      · have apart : c = '\r' → (cs ++ '\n' :: more).head? ≠ some '\n' := by
          rintro rfl newline
          cases cs with
          | nil => exact last ⟨rfl, rfl⟩
          | cons d cs => exact other cs rfl (by rw [Option.some.inj newline])
        rw [List.cons_append, unifyLineEnds_cons c apart]
        generalize (if c = '\r' then '\n' else c) = first
        by_cases newline : first = '\n'
        · rw [newline, linesBy_cons_end (by simp), linesBy_cons_end (by simp)]
          exact List.cons_prefix_cons.2 ⟨rfl, ih⟩
        · rw [linesBy_cons (by simpa using newline), linesBy_cons (by simpa using newline)]
          obtain ⟨behind, lines⟩ := ih
          rw [← lines]
          cases front : linesBy (· = '\n') (unifyLineEnds cs) with
          | nil =>
              -- Then the character is the last of the input, and a newline follows it.
              have empty := unifyLineEnds_eq_nil (linesBy_eq_nil front)
              rw [front, empty, List.nil_append, List.nil_append, unifyLineEnds_newline,
                linesBy_cons_end (by simp)] at lines
              rw [List.nil_append, lines]
              exact List.cons_prefix_cons.2 ⟨rfl, List.nil_prefix⟩
          | cons line others =>
              exact List.cons_prefix_cons.2 ⟨rfl, List.prefix_append others behind⟩

/-- What stands behind a newline has its line ends unified for itself. -/
theorem exists_unifyLineEnds_append (cs : List Char) :
    ∃ front, ∀ ds, unifyLineEnds (cs ++ '\n' :: ds) = front ++ '\n' :: unifyLineEnds ds := by
  fun_induction unifyLineEnds cs with
  | case1 => exact ⟨[], unifyLineEnds_newline⟩
  | case2 cs ih =>
      obtain ⟨front, split⟩ := ih
      refine ⟨'\n' :: front, fun ds => ?_⟩
      rw [List.cons_append, List.cons_append, unifyLineEnds, split, List.cons_append]
  | case3 c cs other ih =>
      by_cases last : c = '\r' ∧ cs = []
      · obtain ⟨rfl, rfl⟩ := last
        exact ⟨[], fun ds => rfl⟩
      · obtain ⟨front, split⟩ := ih
        refine ⟨(if c = '\r' then '\n' else c) :: front, fun ds => ?_⟩
        rw [List.cons_append, unifyLineEnds_cons c ?_, split, List.cons_append]
        rintro rfl newline
        cases cs with
        | nil => exact last ⟨rfl, rfl⟩
        | cons d cs => exact other cs rfl (by rw [Option.some.inj newline])

end Abacus.Text
