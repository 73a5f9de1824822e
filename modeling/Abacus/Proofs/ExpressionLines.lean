/-
Module: Abacus.Proofs.ExpressionLines
Purpose: The expressions of a text hold all that can be seen in its lines but for the comments.
Main exports: LineBreak, BrokenInto, brokenInto_iff, plain_of_mem_expressionsOf,
  visible_filterMap_expressionIn, expressionsOf_conserves
-/
import Abacus.Proofs.Batch
import Abacus.Proofs.Trimming

namespace Abacus

/-!
The lines of a text are described here without a function that finds them: a line is a run of
characters none of which ends a line, and behind it stands a line break, or the text is over.
Every text is broken into lines in exactly one way, and this is the way in which a batch reads it.
Of each line nothing is lost but its blanks, unless it is a comment.
-/

namespace Text

/-! ### Line breaks -/

/-- A line break in front of the rest of a text: a carriage return with its newline, or any other
character that ends a line. -/
inductive LineBreak (rest : List Char) : List Char → Prop where
  | pair : LineBreak rest ['\r', '\n']
  | single {c : Char} (ends : isLineEnd c = true) (alone : c = '\r' → rest.head? ≠ some '\n') :
      LineBreak rest [c]

/-- The text consists of these lines.  Behind the last break there is no further line if nothing
stands there. -/
inductive BrokenInto : List Char → List (List Char) → Prop where
  | nothing : BrokenInto [] []
  | last {line : List Char} (inside : ∀ c ∈ line, isLineEnd c = false) (nonempty : line ≠ []) :
      BrokenInto line [line]
  | line {line mark rest : List Char} {lines : List (List Char)}
      (inside : ∀ c ∈ line, isLineEnd c = false) (ended : LineBreak rest mark)
      (others : BrokenInto rest lines) : BrokenInto (line ++ (mark ++ rest)) (line :: lines)

/-- However a break is written, one character that ends a line is left of it. -/
theorem unifyLineEnds_break {rest mark : List Char} (ended : LineBreak rest mark) :
    ∃ e, isLineEnd e = true ∧ unifyLineEnds (mark ++ rest) = e :: unifyLineEnds rest := by
  cases ended with
  | pair => exact ⟨'\n', rfl, by rw [List.cons_append, List.singleton_append, unifyLineEnds]⟩
  | @single c ends alone =>
      refine ⟨if c = '\r' then '\n' else c, ?_, unifyLineEnds_cons c alone⟩
      split
      · rfl
      · exact ends

/-! ### Lines -/

/-- The lines that a text is broken into are those that are found in it. -/
theorem linesBy_of_brokenInto {text : List Char} {lines : List (List Char)}
    (broken : BrokenInto text lines) : linesBy isLineEnd (unifyLineEnds text) = lines := by
  induction broken with
  | nothing => rfl
  | last inside nonempty =>
      rw [unifyLineEnds_eq_self (return_not_mem inside), linesBy_last inside nonempty]
  | line inside ended others ih =>
      obtain ⟨e, ends, unified⟩ := unifyLineEnds_break ended
      rw [unifyLineEnds_append (return_not_mem inside), unified, linesBy_append_end inside ends, ih]

/-- A further character that ends no line belongs to the first line. -/
theorem exists_brokenInto_cons {c : Char} (inside : isLineEnd c = false) {text : List Char}
    {lines : List (List Char)} (broken : BrokenInto text lines) :
    ∃ longer, BrokenInto (c :: text) longer := by
  cases broken with
  | nothing =>
      exact ⟨[[c]], .last (List.forall_mem_cons.2 ⟨inside, nofun⟩) (List.cons_ne_nil c [])⟩
  | last others nonempty =>
      exact ⟨_, .last (List.forall_mem_cons.2 ⟨inside, others⟩) (List.cons_ne_nil c text)⟩
  | line others ended rest =>
      rw [← List.cons_append]
      exact ⟨_, .line (List.forall_mem_cons.2 ⟨inside, others⟩) ended rest⟩

/-- A further break in front ends an empty line. -/
theorem BrokenInto.break {mark rest : List Char} (ended : LineBreak rest mark)
    {lines : List (List Char)} (broken : BrokenInto rest lines) :
    BrokenInto (mark ++ rest) ([] :: lines) := by
  have none : ∀ c ∈ ([] : List Char), isLineEnd c = false := List.forall_mem_nil _
  exact .line none ended broken

theorem exists_brokenInto (text : List Char) : ∃ lines, BrokenInto text lines := by
  fun_induction unifyLineEnds text with
  | case1 => exact ⟨[], .nothing⟩
  | case2 rest ih =>
      obtain ⟨lines, broken⟩ := ih
      exact ⟨[] :: lines, .break .pair broken⟩
  | case3 c rest other ih =>
      obtain ⟨lines, broken⟩ := ih
      by_cases ends : isLineEnd c = true
      · -- A carriage return is alone here: with a newline behind it, the case before applies.
        refine ⟨[] :: lines, .break (.single ends ?_) broken⟩
        intro return' newline
        obtain ⟨behind, split⟩ := List.head?_eq_some_iff.1 newline
        exact other behind return' split
      · exact exists_brokenInto_cons (Bool.eq_false_iff.2 ends) broken

/-- A text is broken into exactly the lines that are found in it. -/
theorem brokenInto_iff {text : List Char} {lines : List (List Char)} :
    BrokenInto text lines ↔ linesBy isLineEnd (unifyLineEnds text) = lines := by
  refine ⟨linesBy_of_brokenInto, fun found => ?_⟩
  obtain ⟨others, broken⟩ := exists_brokenInto text
  rwa [← found, linesBy_of_brokenInto broken]

theorem BrokenInto.inside {text : List Char} {lines : List (List Char)}
    (broken : BrokenInto text lines) : ∀ line ∈ lines, ∀ c ∈ line, isLineEnd c = false := by
  induction broken with
  | nothing => exact nofun
  | last inside nonempty => exact List.forall_mem_cons.2 ⟨inside, nofun⟩
  | line inside ended others ih => exact List.forall_mem_cons.2 ⟨inside, ih⟩

end Text

namespace CommandLine

open Text

/-! ### One line -/

/-- What is taken from a line is an expression as it stands. -/
theorem plain_of_expressionIn {line : List Char} (inside : ∀ c ∈ line, isLineEnd c = false)
    {expression : String} (found : expressionIn line = some expression) : Plain expression := by
  obtain ⟨-, none⟩ | ⟨-, none⟩ | ⟨nonempty, noComment, taken⟩ := expressionIn_cases line
  · rw [none] at found
    cases found
  · rw [none] at found
    cases found
  · obtain rfl := Option.some.inj (taken.symm.trans found)
    constructor
    · simpa using nonempty
    · rw [trimmed, String.toList_ofList, trim_trim]
    · rwa [String.toList_ofList]
    · intro c mem
      rw [String.toList_ofList] at mem
      exact inside c (mem_of_mem_trim mem)

/-- Of a line that is no comment all that can be seen is taken. -/
theorem visible_filterMap_expressionIn (lines : List (List Char)) :
    (lines.filterMap expressionIn).flatMap (visible ·.toList) =
      (lines.filter fun line => (visible line).head? ≠ some '#').flatMap visible := by
  induction lines with
  | nil => rfl
  | cons line lines ih =>
      obtain ⟨blank, none⟩ | ⟨comment, none⟩ | ⟨-, noComment, taken⟩ := expressionIn_cases line
      · have unseen : visible line = [] := by rw [← visible_trim, blank]; rfl
        rw [List.filterMap_cons_none none, ih, List.filter_cons_of_pos (by simp [unseen]),
          List.flatMap_cons, unseen, List.nil_append]
      · rw [List.filterMap_cons_none none, ih,
          List.filter_cons_of_neg (by simp [head?_visible_eq, comment])]
      · rw [List.filterMap_cons_some taken, List.flatMap_cons, ih, String.toList_ofList,
          visible_trim, List.filter_cons_of_pos (by simp [head?_visible_eq, noComment]),
          List.flatMap_cons]

/-! ### All lines -/

theorem plain_of_mem_expressionsOf (text : List Char) :
    ∀ expression ∈ expressionsOf text, Plain expression := by
  intro expression mem
  rw [expressionsOf_eq] at mem
  obtain ⟨line, among, found⟩ := List.mem_filterMap.1 mem
  exact plain_of_expressionIn ((brokenInto_iff.2 rfl).inside line among) found

/-- **Reading expressions loses nothing and adds nothing.**  Each expression of a text is an
expression as it stands.  The text is broken into lines in one way, and what can be seen of its
expressions is what can be seen of those lines whose first visible character is not a hash sign.
The expressions, joined by newlines, are the expressions of the joined text. -/
theorem expressionsOf_conserves (text : List Char) :
    (∀ expression ∈ expressionsOf text, Plain expression) ∧
      (∃ lines, (∀ others, BrokenInto text others ↔ others = lines) ∧
        (expressionsOf text).flatMap (visible ·.toList) =
          (lines.filter fun line => (visible line).head? ≠ some '#').flatMap visible) ∧
      expressionsOf ("\n".intercalate (expressionsOf text)).toList = expressionsOf text := by
  have plain := plain_of_mem_expressionsOf text
  refine ⟨plain, ⟨linesBy isLineEnd (unifyLineEnds text), ?_, ?_⟩, ?_⟩
  · exact fun others => brokenInto_iff.trans eq_comm
  · rw [expressionsOf_eq, visible_filterMap_expressionIn]
  · exact expressionsOf_padded (Pads.refl _) plain

example : expressionsOf "1 +\t1\r\n # no\u0085\u00a02\r".toList = ["1 +\t1", "2"] := by decide

end CommandLine

end Abacus
