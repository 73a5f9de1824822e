/-
Module: Abacus.Proofs.Caret
Purpose: The line that holds a position, and the caret under a column of it.
Main exports: lineStart, sourceLine_eq, prefix_expandTabs, cells_expandTabs_padding, CutAt,
  caretLine_pads, cells_shown_padding
-/
import Abacus.Display.Line
import Abacus.Report.Caret

namespace Abacus.Report

open Display Text

/-!
What a tab is worth depends on the column it stands in, so a text and its padding are expanded
side by side, and after every character both have come to the same column.  A blank is copied and
does the same to both.  Any other character leaves its cells to spaces.
-/

/-! ### The line of a position -/

/-- Where the line of a position starts: behind the last newline before it. -/
def lineStart (cs : List Char) (position : Nat) : Nat :=
  ((cs.take position).reverse.dropWhile (· ≠ '\n')).length

/-- What stands on the line in front of a position. -/
def lineBefore (cs : List Char) (position : Nat) : List Char :=
  (cs.take position).drop (lineStart cs position)

/-- The line of a position. -/
def lineAround (cs : List Char) (position : Nat) : List Char :=
  (cs.drop (lineStart cs position)).takeWhile (· ≠ '\n')

section Lines

variable (cs : List Char) (position : Nat)

theorem lineBefore_eq : lineBefore cs position =
    ((cs.take position).reverse.takeWhile (· ≠ '\n')).reverse := by
  have parts := congrArg List.reverse
    (List.takeWhile_append_dropWhile (p := (· ≠ '\n')) (l := (cs.take position).reverse))
  rw [List.reverse_append, List.reverse_reverse] at parts
  rw [lineBefore, lineStart]
  generalize (cs.take position).reverse.dropWhile (· ≠ '\n') = earlier at parts ⊢
  rw [← parts, List.drop_left' List.length_reverse, parts]

/-- In front of a position stand the lines before its own and the start of its own. -/
theorem take_append_lineBefore :
    cs.take (lineStart cs position) ++ lineBefore cs position = cs.take position := by
  have within : lineStart cs position ≤ position := by
    have shorter := (List.dropWhile_suffix (l := (cs.take position).reverse) (· ≠ '\n')).length_le
    rw [List.length_reverse, List.length_take] at shorter
    exact Nat.le_trans shorter (Nat.min_le_left _ _)
  have start : (cs.take position).take (lineStart cs position) =
      cs.take (lineStart cs position) := by
    rw [List.take_take, Nat.min_eq_left within]
  rw [lineBefore, ← start, List.take_append_drop]

/-- There are no newlines between the start of a line and a position on it. -/
theorem ne_newline_of_mem_lineBefore {c : Char} (mem : c ∈ lineBefore cs position) :
    c ≠ '\n' := by
  rw [lineBefore_eq, List.mem_reverse] at mem
  simpa using List.all_eq_true.1 List.all_takeWhile c mem

theorem noNewline_lineAround : '\n' ∉ lineAround cs position := by
  intro mem
  have other := List.all_eq_true.1 List.all_takeWhile _ mem
  simp at other

theorem length_take_lineStart :
    (cs.take position).length - (lineBefore cs position).length = lineStart cs position := by
  have parts := List.takeWhile_append_dropWhile (p := (· ≠ '\n')) (l := (cs.take position).reverse)
  have lengths := congrArg List.length parts
  rw [List.length_append, List.length_reverse] at lengths
  rw [lineBefore_eq, List.length_reverse, lineStart]
  omega

/-- A line is what stands on it in front of a position, and what follows up to the next newline. -/
theorem lineAround_eq : lineAround cs position =
    lineBefore cs position ++ (cs.drop position).takeWhile (· ≠ '\n') := by
  have whole := List.take_append_drop position cs
  rw [← take_append_lineBefore, List.append_assoc] at whole
  have onward : lineBefore cs position ++ cs.drop position = cs.drop (lineStart cs position) :=
    List.append_cancel_left (whole.trans (List.take_append_drop _ cs).symm)
  have inner : ∀ c ∈ lineBefore cs position, decide (c ≠ '\n') = true :=
    fun c mem => decide_eq_true (ne_newline_of_mem_lineBefore cs position mem)
  rw [lineAround, ← onward, List.takeWhile_append_of_pos inner]

/-- The line that is shown, and the column of the position in it. -/
theorem sourceLine_eq :
    sourceLine cs position = (lineAround cs position, position - lineStart cs position) := by
  rw [sourceLine, lineAround_eq, ← lineBefore_eq, length_take_lineStart]

variable {position}

/-- A position in the text lies as far behind the start of its line as there are characters in
front of it. -/
theorem length_lineBefore (inside : position ≤ cs.length) :
    (lineBefore cs position).length = position - lineStart cs position := by
  rw [lineBefore, List.length_drop, List.length_take, Nat.min_eq_left inside]

/-- Of its line, the caret for a position sees what stands in front of the position. -/
theorem caretLine_lineAround (inside : position ≤ cs.length) :
    caretLine (lineAround cs position) (position - lineStart cs position : Nat) =
      (lineBefore cs position).flatMap padChar ++ ['^'] := by
  have column : placeOf (lineAround cs position).length (position - lineStart cs position : Nat) =
      (lineBefore cs position).length := by
    rw [placeOf, if_pos (Int.natCast_nonneg _), Int.toNat_natCast, length_lineBefore cs inside]
  rw [caretLine, column, lineAround_eq, List.take_left]

end Lines

/-! ### Tabs -/

theorem expandTabs_other {c : Char} (noNewline : c ≠ '\n') (noTab : c ≠ '\t')
    (tabSize column : Nat) (cs : List Char) :
    expandTabs tabSize column (c :: cs) = c :: expandTabs tabSize (column + cellWidth c) cs := by
  rw [expandTabs, if_neg noNewline, if_neg noTab]

/-- Expanding tabs adds nothing but spaces. -/
theorem mem_expandTabs {c : Char} {tabSize column : Nat} {cs : List Char}
    (mem : c ∈ expandTabs tabSize column cs) : c = ' ' ∨ c ∈ cs := by
  induction cs generalizing column with
  | nil => cases mem
  | cons d cs ih =>
      have later : ∀ {start : Nat}, c ∈ expandTabs tabSize start cs → c = ' ' ∨ c ∈ d :: cs :=
        fun found => (ih found).imp_right (List.mem_cons_of_mem d)
      rw [expandTabs] at mem
      split at mem
      · rcases List.mem_cons.1 mem with rfl | found
        · exact .inr List.mem_cons_self
        · exact later found
      · split at mem
        · rcases List.mem_append.1 mem with space | found
          · exact .inl (List.eq_of_mem_replicate space)
          · exact later found
        · rcases List.mem_cons.1 mem with rfl | found
          · exact .inr List.mem_cons_self
          · exact later found

/-- What comes first in a text is expanded to what comes first. -/
theorem prefix_expandTabs (tabSize column : Nat) (cs ds : List Char) :
    expandTabs tabSize column cs <+: expandTabs tabSize column (cs ++ ds) := by
  induction cs generalizing column with
  | nil => exact List.nil_prefix
  | cons c cs ih =>
      rw [List.cons_append, expandTabs, expandTabs]
      split
      · exact List.cons_prefix_cons.2 ⟨rfl, ih 0⟩
      · split
        · exact (List.prefix_append_right_inj _).2 (ih _)
        · exact List.cons_prefix_cons.2 ⟨rfl, ih _⟩

/-- A character other than a tab stays the last one, whatever the column. -/
theorem expandTabs_append_singleton {c : Char} (noNewline : c ≠ '\n') (noTab : c ≠ '\t')
    (tabSize column : Nat) (cs : List Char) :
    expandTabs tabSize column (cs ++ [c]) = expandTabs tabSize column cs ++ [c] := by
  induction cs generalizing column with
  | nil =>
      rw [List.nil_append, expandTabs_other noNewline noTab]
      rfl
  | cons d cs ih =>
      rw [List.cons_append, expandTabs, expandTabs]
      split
      · rw [ih, List.cons_append]
      · split
        · rw [ih, List.append_assoc]
        · rw [ih, List.cons_append]

/-! ### Padding -/

/-- Spaces are expanded to themselves. -/
theorem expandTabs_spaces_append (tabSize column count : Nat) (cs : List Char) :
    expandTabs tabSize column (List.replicate count ' ' ++ cs) =
      List.replicate count ' ' ++ expandTabs tabSize (column + count) cs := by
  induction count generalizing column with
  | zero => rfl
  | succ count ih =>
      rw [List.replicate_succ, List.cons_append, List.cons_append,
        expandTabs_other (by decide) (by decide), ih, cellWidth_space, Nat.add_assoc,
        Nat.add_comm 1]

/-- The padding consists of spaces and of the blanks of the text. -/
theorem mem_padding {c : Char} {cs : List Char} (mem : c ∈ cs.flatMap padChar) :
    c = ' ' ∨ c ∈ cs ∧ isBlank c = true := by
  obtain ⟨d, inText, padded⟩ := List.mem_flatMap.1 mem
  rw [padChar] at padded
  split at padded
  · rename_i blank
    rw [List.mem_singleton.1 padded]
    exact .inr ⟨inText, blank⟩
  · exact .inl (List.eq_of_mem_replicate padded)

theorem isBlank_of_mem_padding {c : Char} {cs : List Char} (mem : c ∈ cs.flatMap padChar) :
    isBlank c = true := by
  rcases mem_padding mem with rfl | ⟨_, blank⟩
  · decide
  · exact blank

theorem padChar_of_blank {c : Char} (blank : isBlank c = true) : padChar c = [c] :=
  if_pos blank

theorem padChar_of_other {c : Char} (other : isBlank c = false) :
    padChar c = List.replicate (cellWidth c) ' ' := by
  rw [padChar, other]
  rfl

/-- From whatever column both start, a text and its padding take as many cells. -/
theorem cells_expandTabs_padding (tabSize column : Nat) (cs : List Char) :
    cells (expandTabs tabSize column (cs.flatMap padChar)) =
      cells (expandTabs tabSize column cs) := by
  induction cs generalizing column with
  | nil => rfl
  | cons c cs ih =>
      rw [List.flatMap_cons]
      cases blank : isBlank c with
      | false =>
          have noNewline : c ≠ '\n' := by
            rintro rfl
            revert blank
            decide
          have noTab : c ≠ '\t' := by
            rintro rfl
            revert blank
            decide
          rw [padChar_of_other blank, expandTabs_spaces_append, expandTabs_other noNewline noTab,
            cells_append, cells_replicate, cellWidth_space, Nat.mul_one, cells_cons, ih]
      | true =>
          rw [padChar_of_blank blank, List.singleton_append, expandTabs, expandTabs]
          split
          · rw [cells_cons, cells_cons, ih]
          · split
            · rw [cells_append, cells_append, ih]
            · rw [cells_cons, cells_cons, ih]

/-- The first text is what the line has in front of the column.  A negative column counts from the
end of the line, and no column reaches beyond the line. -/
structure CutAt (line : List Char) (column : Int) (kept : List Char) : Prop where
  starts : kept <+: line
  length : (kept.length : Int) =
    if 0 ≤ column then min column line.length else max 0 (line.length + column)

theorem cutAt_take (line : List Char) (column : Int) :
    CutAt line column (line.take (placeOf line.length column)) where
  starts := List.take_prefix _ line
  length := by
    rw [List.length_take, placeOf]
    split
    · omega
    · omega

/-- **The padding has the width of what it replaces.**  The line with the caret is blank up to the
caret.  With tab stops at any distance, and from whatever column both start, as many cells are in
front of the caret as in front of the column of the line. -/
theorem caretLine_pads (line : List Char) (column : Int) :
    ∃ kept pad, CutAt line column kept ∧ caretLine line column = pad ++ ['^'] ∧
      (∀ c ∈ pad, isBlank c = true) ∧
        ∀ tabSize start : Nat,
          cells (expandTabs tabSize start pad) = cells (expandTabs tabSize start kept) := by
  refine ⟨_, _, cutAt_take line column, rfl, fun c mem => isBlank_of_mem_padding mem, ?_⟩
  intro tabSize start
  exact cells_expandTabs_padding tabSize start _

/-- Two characters from the end of the line there is a tab behind a wide character. -/
example : caretLine "你\t1+".toList (-2) = "  \t^".toList := by decide +kernel

/-- A control character that is no blank takes no cells. -/
theorem padChar_of_control {c : Char} (control : isControl c = true)
    (other : isBlank c = false) : padChar c = [] := by
  have bell : c = '\x07' ∨ c = '\x08' := by
    simp only [isControl, List.contains_iff_mem, List.mem_cons, List.not_mem_nil, or_false]
      at control
    rcases control with rfl | rfl | rfl | rfl | rfl
    · exact .inl rfl
    · exact .inr rfl
    all_goals
      revert other
      decide
  rcases bell with rfl | rfl <;> decide

/-- Dropping the control characters of a text drops those of its padding. -/
theorem dropControls_padding (cs : List Char) :
    dropControls (cs.flatMap padChar) = (dropControls cs).flatMap padChar := by
  induction cs with
  | nil => rfl
  | cons c cs ih =>
      have first : dropControls (padChar c) = (dropControls [c]).flatMap padChar := by
        cases control : isControl c with
        | true =>
            cases blank : isBlank c with
            | true => simp [dropControls, padChar_of_blank blank, control]
            | false => simp [dropControls, padChar_of_control control blank, control]
        | false =>
            have space : isControl ' ' = false := by decide
            cases blank : isBlank c with
            | true => simp [dropControls, padChar_of_blank blank, control]
            | false => simp [dropControls, padChar_of_other blank, control, space]
      have parts : dropControls (c :: cs) = dropControls [c] ++ dropControls cs :=
        List.filter_append [c] cs
      rw [List.flatMap_cons, parts, List.flatMap_append, ← first, ← ih]
      exact List.filter_append _ _

/-- On a display a text and its padding take as many cells. -/
theorem cells_shown_padding (tabSize : Nat) (cs : List Char) :
    cells (expandTabs tabSize 0 (dropControls (cs.flatMap padChar))) =
      cells (expandTabs tabSize 0 (dropControls cs)) := by
  rw [dropControls_padding, cells_expandTabs_padding]

end Abacus.Report
