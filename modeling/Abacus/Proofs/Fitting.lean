/-
Module: Abacus.Proofs.Fitting
Purpose: What is set in a column of a table, and that it is shown whole where it has room.
Main exports: expandTabs_of_noTab, breakLine_of_room, Lined, cells_le_contentWidth, ShowsLine,
  showsLine_fit, fitCell_of_room, cells_of_mem_fitCell, noNewline_of_mem_fitCell
-/
import Mathlib.Data.List.Forall2
import Mathlib.Data.List.SplitBy
import Abacus.Display.Fit
import Abacus.Proofs.Caret
import Abacus.Proofs.InputLines
import Abacus.Proofs.Trimming

namespace Abacus.Display

open Text

/-!
A column is as wide as the widest line in it, so a line has room in it unless there are line ends
other than newlines, which count when the column is measured but not when its text is set.  A line
that has room is neither broken nor cut: only blanks at its end may be replaced by spaces.
-/

/-! ### Breaking -/

/-- There is nothing to expand in a text without tabs. -/
theorem expandTabs_of_noTab {cs : List Char} (noTab : '\t' ∉ cs) (tabSize column : Nat) :
    expandTabs tabSize column cs = cs := by
  induction cs generalizing column with
  | nil => rfl
  | cons c cs ih =>
      obtain ⟨other, others⟩ := not_or.1 (fun mem => noTab (List.mem_cons.2 mem))
      rw [expandTabs]
      split
      · rw [ih others]
      · rw [if_neg (fun same => other same.symm), ih others]

theorem cells_trimEnd_le (cs : List Char) : cells (trimEnd cs) ≤ cells cs := by
  obtain ⟨behind, _, split⟩ := exists_blanks_behind_trimEnd cs
  have sum := congrArg cells split
  rw [cells_append] at sum
  omega

/-- The words of a line are all of it. -/
theorem flatten_spacedWords (line : List Char) : (spacedWords line).flatten = line := by
  have joined := List.flatten_splitBy (fun c d => !(isBlank c && !isBlank d))
    (line.dropWhile isBlank)
  rw [spacedWords]
  split
  · simp
  · rename_i word words split
    rw [split, List.flatten_cons] at joined
    rw [List.flatten_cons, List.append_assoc, joined, List.takeWhile_append_dropWhile]

/-- Words that all have room stay in one line. -/
theorem setWords_of_room {width column : Nat} {line : List Char} {words : List (List Char)}
    (room : column + cells words.flatten ≤ width) :
    setWords width column line words = [line ++ words.flatten] := by
  induction words generalizing column line with
  | nil => rw [setWords, List.flatten_nil, List.append_nil]
  | cons word words ih =>
      rw [List.flatten_cons, cells_append] at room
      have shorter := cells_trimEnd_le word
      rw [setWords, if_pos (by omega), ih (by omega), List.flatten_cons, List.append_assoc]

theorem breakLine_of_room {width : Nat} {line : List Char} (room : cells line ≤ width) :
    breakLine width line = [line] := by
  rw [breakLine, setWords_of_room, flatten_spacedWords, List.nil_append]
  rw [flatten_spacedWords, Nat.zero_add]
  exact room

theorem mem_setWords {width column : Nat} {line : List Char} {words : List (List Char)}
    {set : List Char} (isSet : set ∈ setWords width column line words) {c : Char} (mem : c ∈ set) :
    c ∈ line ∨ c ∈ words.flatten := by
  induction words generalizing column line with
  | nil =>
      rw [setWords, List.mem_singleton] at isSet
      exact .inl (isSet ▸ mem)
  | cons word words ih =>
      rw [setWords] at isSet
      rw [List.flatten_cons, List.mem_append]
      split at isSet
      · rcases ih isSet with inLine | later
        · exact (List.mem_append.1 inLine).imp_right .inl
        · exact .inr (.inr later)
      · split at isSet
        · exact .inr (ih isSet)
        · rcases List.mem_cons.1 isSet with rfl | later
          · exact .inl mem
          · exact .inr (ih later)

/-- Breaking a line adds nothing to it. -/
theorem mem_breakLine {width : Nat} {line set : List Char} (isSet : set ∈ breakLine width line)
    {c : Char} (mem : c ∈ set) : c ∈ line := by
  rcases mem_setWords isSet mem with none | inWords
  · cases none
  · rwa [flatten_spacedWords] at inWords

/-! ### Measuring -/

/-- The text has no tabs, and its lines end with newlines only. -/
def Lined (text : List Char) : Prop :=
  ∀ c ∈ text, c ≠ '\t' ∧ (isLineEnd c = true → c = '\n')

theorem mem_of_mem_splitAtNewlines {text line : List Char} (isLine : line ∈ splitAtNewlines text)
    {c : Char} (mem : c ∈ line) : c ∈ text ∧ c ≠ '\n' := by
  induction text generalizing line with
  | nil =>
      obtain rfl := List.mem_singleton.1 isLine
      cases mem
  | cons d text ih =>
      by_cases newline : d = '\n'
      · rw [newline, splitAtNewlines_newline] at isLine
        rcases List.mem_cons.1 isLine with rfl | later
        · cases mem
        · exact (ih later mem).imp_left (List.mem_cons_of_mem d)
      · obtain ⟨part, parts, split⟩ := List.exists_cons_of_ne_nil (splitAtNewlines_ne_nil text)
        rw [splitAtNewlines_cons newline, split] at isLine
        rcases List.mem_cons.1 isLine with rfl | later
        · rcases List.mem_cons.1 mem with rfl | inPart
          · exact ⟨List.mem_cons_self, newline⟩
          · have first : part ∈ splitAtNewlines text := by simp [split]
            exact (ih first inPart).imp_left (List.mem_cons_of_mem d)
        · have inRest : line ∈ splitAtNewlines text := by
            rw [split]
            exact List.mem_cons_of_mem part later
          exact (ih inRest mem).imp_left (List.mem_cons_of_mem d)

theorem linesBy_congr {isEnd isEndToo : Char → Bool} {cs : List Char}
    (same : ∀ c ∈ cs, isEnd c = isEndToo c) : linesBy isEnd cs = linesBy isEndToo cs := by
  induction cs with
  | nil => rfl
  | cons c cs ih =>
      obtain ⟨here, later⟩ := List.forall_mem_cons.1 same
      cases ends : isEndToo c with
      | true => rw [linesBy_cons_end (here.trans ends), linesBy_cons_end ends, ih later]
      | false => rw [linesBy_cons (here.trans ends), linesBy_cons ends, ih later]

theorem cells_le_widest {line : List Char} {lines : List (List Char)} (mem : line ∈ lines) :
    cells line ≤ widest lines := by
  induction lines with
  | nil => cases mem
  | cons first lines ih =>
      rw [widest, List.foldr_cons, ← widest]
      rcases List.mem_cons.1 mem with rfl | later
      · exact Nat.le_max_left _ _
      · exact Nat.le_trans (ih later) (Nat.le_max_right _ _)

/-- A column that is as wide as a text asks for has room for each of its lines. -/
theorem cells_le_contentWidth {text line : List Char} (lined : Lined text)
    (isLine : line ∈ splitAtNewlines text) : cells line ≤ contentWidth text := by
  have ends : ∀ c ∈ text, isLineEnd c = decide (c = '\n') := by
    intro c mem
    rw [Bool.eq_iff_iff, decide_eq_true_eq]
    refine ⟨(lined c mem).2, ?_⟩
    rintro rfl
    rfl
  rw [contentWidth, linesBy_congr ends, linesBy_newline, withoutEmptyEnd]
  split
  · rename_i last
    -- Only an empty line can be missing when the text is measured.
    rw [← List.dropLast_append_getLast? [] last, List.mem_append, List.mem_singleton] at isLine
    rcases isLine with counted | rfl
    · exact cells_le_widest counted
    · exact Nat.zero_le _
  · exact cells_le_widest isLine

/-! ### Filling up -/

/-- How a line is shown in a column.  At the left it is followed by spaces, and blanks at its end
may be spaces as well.  At the right it follows spaces and has no blanks at its end. -/
def ShowsLine (justify : Justify) (line shown : List Char) : Prop :=
  match justify with
  | .left => trimEnd shown = trimEnd line
  | .right => ∃ count, shown = spaces count ++ trimEnd line

theorem isBlank_of_mem_spaces {count : Nat} {c : Char} (mem : c ∈ spaces count) :
    isBlank c = true := by
  rw [List.eq_of_mem_replicate mem]
  decide

/-- A line without its overhang has lost blanks from its end only. -/
theorem exists_blanks_behind_dropOverhang (length : Nat) (line : List Char) :
    ∃ behind, (∀ c ∈ behind, isBlank c = true) ∧ line = dropOverhang length line ++ behind := by
  have split : line = trimEnd line ++ (line.reverse.takeWhile isBlank).reverse := by
    rw [trimEnd, trimStart, ← List.reverse_append, List.takeWhile_append_dropWhile,
      List.reverse_reverse]
  have lengths := congrArg List.length split
  rw [List.length_append, List.length_reverse] at lengths
  refine ⟨_, ?_, (List.take_append_drop _ line).symm⟩
  -- No more is dropped than the run of blanks at the end.
  have late : (trimEnd line).length ≤
      line.length - min (line.reverse.takeWhile isBlank).length (line.length - length) := by
    omega
  intro c mem
  generalize line.length - min (line.reverse.takeWhile isBlank).length (line.length - length) =
    place at late mem
  rw [split, List.drop_append, List.drop_of_length_le late, List.nil_append] at mem
  exact List.all_eq_true.1 List.all_takeWhile c (List.mem_reverse.1 (List.mem_of_mem_drop mem))

theorem shorten_of_room {width : Nat} {line : List Char} (room : cells line ≤ width) :
    shorten width line = line :=
  if_pos room

/-- A line that has room is shown whole. -/
theorem showsLine_fit (justify : Justify) {width : Nat} {line : List Char}
    (room : cells line ≤ width) : ShowsLine justify line (fit justify width line) := by
  cases justify with
  | left =>
      obtain ⟨behind, blank, split⟩ := exists_blanks_behind_dropOverhang width line
      have sum := congrArg cells split
      rw [cells_append] at sum
      have kept := trimEnd_append_blanks (dropOverhang width line) blank
      rw [← split] at kept
      rw [ShowsLine, fit, shorten_of_room (by omega), kept]
      exact trimEnd_append_blanks _ fun c mem => isBlank_of_mem_spaces mem
  | right =>
      have shorter := cells_trimEnd_le line
      rw [ShowsLine, fit, shorten_of_room (by omega)]
      exact ⟨_, rfl⟩

/-- The lines of a text that has room are set as they are. -/
theorem fitCell_of_room (tabSize : Nat) (justify : Justify) {width : Nat} {text : List Char}
    (lined : Lined text) (room : contentWidth text ≤ width) :
    fitCell tabSize justify width text = (splitAtNewlines text).map (fit justify width) := by
  rw [fitCell, List.map_eq_flatMap]
  apply List.flatMap_congr
  intro line isLine
  have noTab : '\t' ∉ line := fun mem => (lined _ (mem_of_mem_splitAtNewlines isLine mem).1).1 rfl
  have fits := Nat.le_trans (cells_le_contentWidth lined isLine) room
  rw [expandTabs_of_noTab noTab, breakLine_of_room fits]
  rfl

/-! ### What is set -/

theorem cells_of_mem_fitCell {tabSize width : Nat} {justify : Justify} {text line : List Char}
    (isSet : line ∈ fitCell tabSize justify width text) : cells line = width := by
  obtain ⟨source, _, broken⟩ := List.mem_flatMap.1 isSet
  obtain ⟨part, _, rfl⟩ := List.mem_map.1 broken
  exact cells_fit justify width part

theorem mem_searchCut {width : Nat} {line : List Char} {c : Char} :
    ∀ {fuel first last : Nat}, c ∈ searchCut width line fuel first last → c = ' ' ∨ c ∈ line
  | 0, _, _, mem => by cases mem
  | fuel + 1, first, last, mem => by
      simp only [searchCut] at mem
      split at mem
      · exact .inr (List.mem_of_mem_take mem)
      · split at mem
        · rcases List.mem_append.1 mem with inLine | space
          · exact .inr (List.mem_of_mem_take inLine)
          · exact .inl (List.mem_singleton.1 space)
        · split at mem
          · exact mem_searchCut mem
          · exact mem_searchCut mem

theorem mem_shorten {width : Nat} {line : List Char} {c : Char} (mem : c ∈ shorten width line) :
    c = ' ' ∨ c = '…' ∨ c ∈ line := by
  unfold shorten at mem
  split at mem
  · exact .inr (.inr mem)
  · split at mem
    · cases mem
    · rcases List.mem_append.1 mem with found | ellipsis
      · unfold cut at found
        split at found
        · cases found
        · exact (mem_searchCut found).imp_right .inr
      · exact .inr (.inl (List.mem_singleton.1 ellipsis))

/-- Setting a line adds spaces to it, or an ellipsis. -/
theorem mem_fit {justify : Justify} {width : Nat} {line : List Char} {c : Char}
    (mem : c ∈ fit justify width line) : c = ' ' ∨ c = '…' ∨ c ∈ line := by
  cases justify with
  | left =>
      rcases List.mem_append.1 mem with shown | space
      · exact (mem_shorten shown).imp_right (.imp_right fun inLine => List.mem_of_mem_take inLine)
      · exact .inl (List.eq_of_mem_replicate space)
  | right =>
      rcases List.mem_append.1 mem with space | shown
      · exact .inl (List.eq_of_mem_replicate space)
      · obtain ⟨behind, _, split⟩ := exists_blanks_behind_trimEnd line
        refine (mem_shorten shown).imp_right (.imp_right fun inLine => ?_)
        rw [split]
        exact List.mem_append_left behind inLine

/-- What is set of a text stands on lines of its own. -/
theorem noNewline_of_mem_fitCell {tabSize width : Nat} {justify : Justify} {text line : List Char}
    (isSet : line ∈ fitCell tabSize justify width text) : '\n' ∉ line := by
  obtain ⟨source, isLine, broken⟩ := List.mem_flatMap.1 isSet
  obtain ⟨part, isPart, rfl⟩ := List.mem_map.1 broken
  intro mem
  rcases mem_fit mem with space | ellipsis | inPart
  · exact absurd space (by decide)
  · exact absurd ellipsis (by decide)
  · rcases Report.mem_expandTabs (mem_breakLine isPart inPart) with space | inSource
    · exact absurd space (by decide)
    · exact (mem_of_mem_splitAtNewlines isLine inSource).2 rfl

end Abacus.Display
