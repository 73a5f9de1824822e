/-
Module: Abacus.Proofs.SourceLine
Purpose: The line that is found for a position is the one between the newlines around it.
Main exports: IsLine, splitAtNewlines_append, getElem?_splitAtNewlines, Report.Holds,
  Report.sourceLine_holds
-/
import Mathlib.Data.List.TakeWhile
import Abacus.Proofs.Caret
import Abacus.Proofs.InputLines

namespace Abacus

/-!
A line is cut out of a text by the newlines on either side of it, or by the ends of the text.  The
newlines before it are its number.  A position belongs to the line whose start is the last one not
behind it, also where the position is that of a newline or lies behind the end.
-/

namespace Text

/-- A text cut into what stands before one of its lines, the line, and what stands behind it. -/
structure IsLine (cs before line after : List Char) : Prop where
  split : cs = before ++ line ++ after
  starts : before = [] ∨ ∃ earlier, before = earlier ++ ['\n']
  ends : after = [] ∨ ∃ later, after = '\n' :: later
  noNewline : '\n' ∉ line

/-! ### The lines between newlines -/

theorem splitAtNewlines_of_noNewline {line : List Char} (noNewline : '\n' ∉ line) :
    splitAtNewlines line = [line] := by
  induction line with
  | nil => rfl
  | cons c line ih =>
      obtain ⟨first, others⟩ := not_or.1 (fun mem => noNewline (List.mem_cons.2 mem))
      rw [splitAtNewlines_cons (fun same => first same.symm), ih others]
      rfl

/-- A newline parts the lines before it from those behind it. -/
theorem splitAtNewlines_append (cs ds : List Char) :
    splitAtNewlines (cs ++ '\n' :: ds) = splitAtNewlines cs ++ splitAtNewlines ds := by
  induction cs with
  | nil => exact splitAtNewlines_newline ds
  | cons c cs ih =>
      by_cases newline : c = '\n'
      · rw [newline, List.cons_append, splitAtNewlines_newline, splitAtNewlines_newline, ih,
          List.cons_append]
      · obtain ⟨part, parts, split⟩ := List.exists_cons_of_ne_nil (splitAtNewlines_ne_nil cs)
        rw [List.cons_append, splitAtNewlines_cons newline, splitAtNewlines_cons newline, ih, split]
        rfl

/-- There is one more line than there are newlines. -/
theorem length_splitAtNewlines (cs : List Char) :
    (splitAtNewlines cs).length = cs.count '\n' + 1 := by
  induction cs with
  | nil => rfl
  | cons c cs ih =>
      by_cases newline : c = '\n'
      · rw [newline, splitAtNewlines_newline, List.length_cons, ih, List.count_cons_self]
      · have some : 0 < (splitAtNewlines cs).length := by omega
        rw [splitAtNewlines_cons newline, List.length_cons, List.length_tail,
          List.count_cons_of_ne newline, ← ih]
        omega

section Cuts

variable {cs before line after : List Char}

/-- Of what starts at a line, the first line is that line. -/
theorem IsLine.head? (isLine : IsLine cs before line after) :
    (splitAtNewlines (line ++ after)).head? = some line := by
  rcases isLine.ends with rfl | ⟨later, rfl⟩
  · rw [List.append_nil, splitAtNewlines_of_noNewline isLine.noNewline]
    rfl
  · rw [splitAtNewlines_append, splitAtNewlines_of_noNewline isLine.noNewline]
    rfl

/-- The number of a line is the number of newlines before it. -/
theorem IsLine.getElem?_splitAtNewlines (isLine : IsLine cs before line after) :
    (splitAtNewlines cs)[before.count '\n']? = some line := by
  have head := isLine.head?
  rw [isLine.split, List.append_assoc]
  rcases isLine.starts with rfl | ⟨earlier, rfl⟩
  · rw [List.nil_append, List.count_nil, ← List.head?_eq_getElem?, head]
  · have number : (earlier ++ ['\n']).count '\n' = (splitAtNewlines earlier).length := by
      rw [length_splitAtNewlines, List.count_append]
      rfl
    rw [List.append_assoc, List.singleton_append, splitAtNewlines_append, number,
      List.getElem?_append_right (Nat.le_refl _), Nat.sub_self, ← List.head?_eq_getElem?, head]

end Cuts

end Text

namespace Report

open Text

/-- The line holds the position in that column.  A position behind the end of the text is held by
the last line. -/
def Holds (cs : List Char) (position : Nat) (line : List Char) (column : Nat) : Prop :=
  ∃ before after, IsLine cs before line after ∧ before.length + column = position ∧
    if position ≤ cs.length then column ≤ line.length else after = []

section Lines

variable {cs before line after : List Char} {position column : Nat}

/-- What is left from the first newline on. -/
theorem dropWhile_ne_newline (cs : List Char) :
    cs.dropWhile (· ≠ '\n') = [] ∨ ∃ later, cs.dropWhile (· ≠ '\n') = '\n' :: later := by
  cases left : cs.dropWhile (· ≠ '\n') with
  | nil => exact .inl rfl
  | cons c later =>
      have stops := List.head?_dropWhile_not (· ≠ '\n') cs
      rw [left] at stops
      obtain rfl : c = '\n' := by simpa using stops
      exact .inr ⟨later, rfl⟩

theorem take_lineStart (cs : List Char) (position : Nat) :
    cs.take (lineStart cs position) =
      ((cs.take position).reverse.dropWhile (· ≠ '\n')).reverse := by
  have parts := congrArg List.reverse
    (List.takeWhile_append_dropWhile (p := (· ≠ '\n')) (l := (cs.take position).reverse))
  rw [List.reverse_append, List.reverse_reverse, ← lineBefore_eq] at parts
  exact List.append_cancel_right ((take_append_lineBefore cs position).trans parts.symm)

theorem lineStart_le_length (cs : List Char) (position : Nat) :
    lineStart cs position ≤ (cs.take position).length := by
  rw [← length_take_lineStart]
  exact Nat.sub_le _ _

/-- The line around a position is a line. -/
theorem isLine_lineAround (cs : List Char) (position : Nat) :
    IsLine cs (cs.take (lineStart cs position)) (lineAround cs position)
      ((cs.drop (lineStart cs position)).dropWhile (· ≠ '\n')) where
  split := by
    rw [lineAround, List.append_assoc, List.takeWhile_append_dropWhile, List.take_append_drop]
  starts := by
    rw [take_lineStart]
    rcases dropWhile_ne_newline (cs.take position).reverse with nothing | ⟨later, newline⟩
    · exact .inl (by rw [nothing]; rfl)
    · exact .inr ⟨later.reverse, by rw [newline, List.reverse_cons]⟩
  ends := dropWhile_ne_newline _
  noNewline := noNewline_lineAround cs position

/-- The line that is found holds the position. -/
theorem holds_lineAround (cs : List Char) (position : Nat) :
    Holds cs position (lineAround cs position) (position - lineStart cs position) := by
  have start := lineStart_le_length cs position
  rw [List.length_take] at start
  refine ⟨_, _, isLine_lineAround cs position, ?_, ?_⟩
  · rw [List.length_take]
    omega
  · split
    · rename_i inside
      rw [← length_lineBefore cs inside, lineAround_eq, List.length_append]
      exact Nat.le_add_right _ _
    · rename_i behind
      -- Everything is in front of the position, and so nothing is left of its line.
      have whole : lineBefore cs position = cs.drop (lineStart cs position) := by
        rw [lineBefore, List.take_of_length_le (by omega)]
      rw [← whole]
      apply List.dropWhile_eq_nil_iff.2
      intro c mem
      exact decide_eq_true (ne_newline_of_mem_lineBefore cs position mem)

/-- Between the start of its line and a position there are no newlines. -/
theorem exists_take_of_isLine (isLine : IsLine cs before line after)
    (place : before.length + column = position)
    (column_le : if position ≤ cs.length then column ≤ line.length else after = []) :
    ∃ shown, cs.take position = before ++ shown ∧ '\n' ∉ shown := by
  refine ⟨line.take column, ?_, fun mem => isLine.noNewline (List.mem_of_mem_take mem)⟩
  have taken : (line ++ after).take column = line.take column := by
    split at column_le
    · exact List.take_append_of_le_length column_le
    · rw [column_le, List.append_nil]
  rw [isLine.split, ← place, List.append_assoc, List.take_length_add_append, taken]

theorem decide_of_noNewline (noNewline : '\n' ∉ line) : ∀ c ∈ line, decide (c ≠ '\n') = true := by
  intro c mem
  refine decide_eq_true ?_
  rintro rfl
  exact noNewline mem

/-- The line of a position starts where there are no more newlines on the way back. -/
theorem lineStart_of_isLine (isLine : IsLine cs before line after) {shown : List Char}
    (taken : cs.take position = before ++ shown) (noNewline : '\n' ∉ shown) :
    lineStart cs position = before.length := by
  have passed := decide_of_noNewline (fun mem => noNewline (List.mem_reverse.1 mem))
  have stops : before.reverse.dropWhile (· ≠ '\n') = before.reverse := by
    rcases isLine.starts with rfl | ⟨earlier, rfl⟩
    · rfl
    · simp
  rw [lineStart, taken, List.reverse_append, List.dropWhile_append_of_pos passed, stops,
    List.length_reverse]

theorem lineAround_of_isLine (isLine : IsLine cs before line after)
    (start : lineStart cs position = before.length) : lineAround cs position = line := by
  have passed := decide_of_noNewline isLine.noNewline
  have stops : after.takeWhile (· ≠ '\n') = [] := by
    rcases isLine.ends with rfl | ⟨later, rfl⟩
    · rfl
    · simp
  rw [lineAround, start, isLine.split, List.append_assoc, List.drop_left,
    List.takeWhile_append_of_pos passed, stops, List.append_nil]

/-- No other line holds the position. -/
theorem sourceLine_of_holds (holds : Holds cs position line column) :
    sourceLine cs position = (line, column) := by
  obtain ⟨before, after, isLine, place, column_le⟩ := holds
  obtain ⟨shown, taken, noNewline⟩ := exists_take_of_isLine isLine place column_le
  have start := lineStart_of_isLine isLine taken noNewline
  rw [sourceLine_eq, lineAround_of_isLine isLine start, start, ← place, Nat.add_sub_cancel_left]

/-- The number of the line that holds a position is the number of newlines before it. -/
theorem getElem?_of_holds (holds : Holds cs position line column) :
    (splitAtNewlines cs)[(cs.take position).count '\n']? = some line := by
  obtain ⟨before, after, isLine, place, column_le⟩ := holds
  obtain ⟨shown, taken, noNewline⟩ := exists_take_of_isLine isLine place column_le
  rw [taken, List.count_append, List.count_eq_zero_of_not_mem noNewline, Nat.add_zero,
    isLine.getElem?_splitAtNewlines]

end Lines

/-- **The line of a position.**  The line and the column that are found for a position are those
that cut the text: the line lies between two newlines or ends of the text, without newlines in it,
and the position as far behind its start as the column says, within the line or right at its end.
The line is the one whose number is the number of newlines before the position.  Behind the end of
the text it is the last one. -/
theorem sourceLine_holds (cs : List Char) (position : Nat) (line : List Char) (column : Nat) :
    (sourceLine cs position = (line, column) ↔ Holds cs position line column) ∧
      ((∃ column, Holds cs position line column) ↔
        (splitAtNewlines cs)[(cs.take position).count '\n']? = some line) ∧
      (cs.length < position →
        (splitAtNewlines cs).getLast? = some (sourceLine cs position).1) := by
  have holds := holds_lineAround cs position
  refine ⟨⟨?_, sourceLine_of_holds⟩, ⟨?_, ?_⟩, ?_⟩
  · intro found
    rw [sourceLine_eq] at found
    cases found
    exact holds
  · rintro ⟨column, there⟩
    exact getElem?_of_holds there
  · intro numbered
    rw [getElem?_of_holds holds] at numbered
    cases numbered
    exact ⟨_, holds⟩
  · intro behind
    have last := getElem?_of_holds holds
    rw [List.take_of_length_le (Nat.le_of_lt behind)] at last
    rw [List.getLast?_eq_getElem?, length_splitAtNewlines, Nat.add_sub_cancel, last, sourceLine_eq]

/-- A position two characters behind a text that ends in a newline is in an empty line. -/
theorem sourceLine_behind_end :
    "1 +\n".toList.length < 6 ∧
      (splitAtNewlines "1 +\n".toList).getLast? = some (sourceLine "1 +\n".toList 6).1 ∧
      Holds "1 +\n".toList 6 [] 2 := by
  have behind : "1 +\n".toList.length < 6 := by decide
  have found : sourceLine "1 +\n".toList 6 = ([], 2) := by decide
  obtain ⟨held, _, last⟩ := sourceLine_holds "1 +\n".toList 6 [] 2
  exact ⟨behind, last behind, held.1 found⟩

end Report

end Abacus
