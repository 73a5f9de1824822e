/-
Module: Abacus.Proofs.Batch
Purpose: A batch prints what its lines print when each is evaluated for itself.
Main exports: Plain, Skipped, Pads, expressionsOf_padded, batch_agrees_with_eval
-/
import Abacus.Proofs.FileBytes
import Abacus.Proofs.InputLines
import Abacus.Proofs.JsonRoundTrip
import Abacus.Proofs.OptionWords

namespace Abacus.CommandLine

open Text

/-!
A batch sees of its text only the expressions that stand in the lines.  Lines that hold none may
stand anywhere between the others, so every text that is padded with them gets the same output, and
this output is put together from the outputs for the single lines.
-/

/-! ### Padding -/

/-- A line as it comes in a text that is split: no character of it ends a line. -/
def OneLine (line : String) : Prop :=
  ∀ c ∈ line.toList, isLineEnd c = false

instance (line : String) : Decidable (OneLine line) :=
  decidable_of_iff (line.toList.any isLineEnd = false) (by simp [OneLine])

/-- A line that is an expression as it stands: not empty, with no blanks around it, and not a
comment. -/
structure Plain (line : String) : Prop where
  nonempty : line ≠ ""
  trimmed : trimmed line = line
  noComment : line.toList.head? ≠ some '#'
  oneLine : OneLine line

/-- A line that is blank or a comment. -/
structure Skipped (line : String) : Prop where
  idle : trimmed line = "" ∨ (trimmed line).toList.head? = some '#'
  oneLine : OneLine line

/-- Blank lines and comments are inserted between the lines, any number of them anywhere. -/
inductive Pads : List String → List String → Prop where
  | nothing : Pads [] []
  | line (line : String) {padded lines : List String} (others : Pads padded lines) :
      Pads (line :: padded) (line :: lines)
  | skipped {line : String} (skipped : Skipped line) {padded lines : List String}
      (others : Pads padded lines) : Pads (line :: padded) lines

/-- Nothing needs to be inserted. -/
theorem Pads.refl (lines : List String) : Pads lines lines := by
  induction lines with
  | nil => exact .nothing
  | cons line lines ih => exact .line line ih

/-- Every line of a padded text is one line. -/
theorem oneLine_of_pads {padded lines : List String} (pads : Pads padded lines)
    (plain : ∀ line ∈ lines, Plain line) : ∀ line ∈ padded, OneLine line := by
  induction pads with
  | nothing => exact fun line mem => (plain line mem).oneLine
  | line line others ih =>
      obtain ⟨first, rest⟩ := List.forall_mem_cons.1 plain
      exact List.forall_mem_cons.2 ⟨first.oneLine, ih rest⟩
  | skipped skipped others ih => exact List.forall_mem_cons.2 ⟨skipped.oneLine, ih plain⟩

/-! ### Expressions -/

/-- The expression in a line, if there is one. -/
def expressionIn (line : List Char) : Option String :=
  match trim line with
  | [] => none
  | '#' :: _ => none
  | line => some (String.ofList line)

theorem expressionsOf_eq (text : List Char) :
    expressionsOf text = (linesBy isLineEnd (unifyLineEnds text)).filterMap expressionIn := by
  rw [expressionsOf, List.filterMap_map]
  rfl

theorem trim_toList (line : String) : trim line.toList = (trimmed line).toList := by
  rw [trimmed, String.toList_ofList]

/-- A line is blank, or it is a comment, or what is left of it without the blanks at its ends is an
expression. -/
theorem expressionIn_cases (line : List Char) :
    (trim line = [] ∧ expressionIn line = none) ∨
      ((trim line).head? = some '#' ∧ expressionIn line = none) ∨
      (trim line ≠ [] ∧ (trim line).head? ≠ some '#' ∧
        expressionIn line = some (String.ofList (trim line))) := by
  rw [expressionIn]
  split
  · next blank => exact .inl ⟨blank, rfl⟩
  · next comment => exact .inr (.inl ⟨by rw [comment]; rfl, rfl⟩)
  · next nonempty noComment =>
      refine .inr (.inr ⟨nonempty, fun hash => ?_, rfl⟩)
      obtain ⟨rest, split⟩ := List.head?_eq_some_iff.1 hash
      exact noComment rest split

theorem expressionIn_plain {line : String} (plain : Plain line) :
    expressionIn line.toList = some line := by
  have tight : trim line.toList = line.toList := by rw [trim_toList, plain.trimmed]
  obtain ⟨blank, -⟩ | ⟨comment, -⟩ | ⟨-, -, taken⟩ := expressionIn_cases line.toList
  · exact absurd (String.toList_eq_nil_iff.1 (tight.symm.trans blank)) plain.nonempty
  · exact absurd (tight ▸ comment) plain.noComment
  · rw [taken, tight, String.ofList_toList]

theorem expressionIn_skipped {line : String} (skipped : Skipped line) :
    expressionIn line.toList = none := by
  obtain ⟨-, none⟩ | ⟨-, none⟩ | ⟨nonempty, noComment, -⟩ := expressionIn_cases line.toList
  · exact none
  · exact none
  · rw [trim_toList] at nonempty noComment
    rcases skipped.idle with blank | comment
    · exact absurd (String.toList_eq_nil_iff.2 blank) nonempty
    · exact absurd comment noComment

theorem filterMap_pads {padded lines : List String} (pads : Pads padded lines)
    (plain : ∀ line ∈ lines, Plain line) :
    (padded.map String.toList).filterMap expressionIn = lines := by
  induction pads with
  | nothing => rfl
  | line line others ih =>
      obtain ⟨first, rest⟩ := List.forall_mem_cons.1 plain
      rw [List.map_cons, List.filterMap_cons_some (expressionIn_plain first), ih rest]
  | skipped skipped others ih =>
      rw [List.map_cons, List.filterMap_cons_none (expressionIn_skipped skipped), ih plain]

/-- An empty last line holds no expression. -/
theorem filterMap_withoutEmptyEnd (parts : List (List Char)) :
    (withoutEmptyEnd parts).filterMap expressionIn = parts.filterMap expressionIn := by
  rw [withoutEmptyEnd]
  split
  · next last =>
      obtain ⟨front, rfl⟩ := List.getLast?_eq_some_iff.1 last
      rw [List.dropLast_concat, List.filterMap_append, List.filterMap_cons_none rfl]
      exact (List.append_nil _).symm
  · rfl

/-- Lines that are joined by newlines are found again. -/
theorem linesBy_intercalate {parts : List (List Char)}
    (inside : ∀ part ∈ parts, ∀ c ∈ part, isLineEnd c = false) :
    linesBy isLineEnd (['\n'].intercalate parts) = withoutEmptyEnd parts := by
  induction parts with
  | nil => rfl
  | cons part parts ih =>
      obtain ⟨first, others⟩ := List.forall_mem_cons.1 inside
      cases parts with
      | nil =>
          by_cases empty : part = []
          · rw [empty]
            rfl
          · rw [List.intercalate_singleton, linesBy_last first empty, withoutEmptyEnd,
              if_neg (by simpa using empty)]
      | cons next rest =>
          rw [List.intercalate_cons_cons, List.append_assoc, List.singleton_append,
            linesBy_append_end first (by decide), ih others,
            withoutEmptyEnd_cons part (List.cons_ne_nil next rest)]

/-- The expressions of a padded text are the lines that it was padded around. -/
theorem expressionsOf_padded {padded lines : List String} (pads : Pads padded lines)
    (plain : ∀ line ∈ lines, Plain line) :
    expressionsOf ("\n".intercalate padded).toList = lines := by
  have inside : ∀ part ∈ padded.map String.toList, ∀ c ∈ part, isLineEnd c = false := by
    intro part mem
    obtain ⟨line, padding, rfl⟩ := List.mem_map.1 mem
    exact oneLine_of_pads pads plain line padding
  have noReturn : '\r' ∉ ['\n'].intercalate (padded.map String.toList) := by
    intro mem
    obtain newline | ⟨part, found, return'⟩ := mem_intercalate mem
    · revert newline
      decide
    · exact return_not_mem (inside part found) return'
  rw [expressionsOf_eq, String.toList_intercalate]
  change (linesBy isLineEnd (unifyLineEnds (['\n'].intercalate _))).filterMap _ = _
  rw [unifyLineEnds_eq_self noReturn, linesBy_intercalate inside, filterMap_withoutEmptyEnd,
    filterMap_pads pads plain]

/-! ### Batches -/

section Batches

variable (limits : Limits)

/-- A batch is about the expressions of its text, not about the text. -/
theorem batchCommand_congr {text other : List Char} (json : Bool)
    (same : expressionsOf text = expressionsOf other) :
    batchCommand limits json text = batchCommand limits json other := by
  rw [batchCommand, batchCommand, same]

theorem newline_isSpace : ∀ c ∈ ['\n'], Json.isSpace c = true :=
  List.all_eq_true.1 rfl

/-- The object that is printed for an expression is read back. -/
theorem read?_evalCommand (expression : String) :
    Json.read? (evalCommand limits true expression).stdout =
      some (tryEvaluate expression limits).toJson :=
  Json.read?_toText _ none newline_isSpace

/-- The list that is printed for a batch is read back. -/
theorem read?_batchCommand {text : List Char} {lines : List String}
    (found : expressionsOf text = lines) :
    Json.read? (batchCommand limits true text).stdout =
      some (.list (lines.map fun line => (tryEvaluate line limits).toJson)) := by
  have printed : (batchCommand limits true text).stdout =
      ((Json.list (((expressionsOf text).map (tryEvaluate · limits)).map (·.toJson))).toText
        (some 2)).toList ++ ['\n'] := rfl
  rw [printed, Json.read?_toText _ _ newline_isSpace, found, List.map_map]
  rfl

/-- An evaluation exits with 1 if and only if it fails. -/
theorem exit_evalCommand_eq_one_iff (expression : String) :
    (evalCommand limits true expression).exit = 1 ↔ (tryEvaluate expression limits).ok = false := by
  have exit : (evalCommand limits true expression).exit =
      if (tryEvaluate expression limits).ok then 0 else 1 := rfl
  rw [exit]
  cases (tryEvaluate expression limits).ok <;> simp

/-- A batch exits with 1 if one of its evaluations does. -/
theorem exit_batchCommand (json : Bool) {text : List Char} {lines : List String}
    (found : expressionsOf text = lines) :
    (batchCommand limits json text).exit =
      if ∃ line ∈ lines, (evalCommand limits true line).exit = 1 then 1 else 0 := by
  have exit : (batchCommand limits json text).exit =
      if (lines.map (tryEvaluate · limits)).all (·.ok) then 0 else 1 := by
    rw [← found]
    cases json <;> rfl
  have fails : (lines.map (tryEvaluate · limits)).all (·.ok) = true ↔
      ¬ ∃ line ∈ lines, (evalCommand limits true line).exit = 1 := by
    simp [exit_evalCommand_eq_one_iff]
  rw [exit]
  by_cases failure : ∃ line ∈ lines, (evalCommand limits true line).exit = 1
  · rw [if_pos failure, if_neg (fun good => fails.1 good failure)]
  · rw [if_neg failure, if_pos (fails.2 failure)]

end Batches

/-- **A batch agrees with single evaluations.**  With valid settings, however its lines are padded
with blank lines and comments and wherever its text is read from, a batch prints as JSON the list of
the objects that `eval` prints for the lines, and nothing else; it exits with 1 if one of these
evaluations does, and with 0 otherwise.  Without JSON the channel of the list stays empty, and the
exit status is the same.  Every such text can stand in a file. -/
theorem batch_agrees_with_eval {environment : Environment} {words : List String} {limits : Limits}
    (settles : Settles environment words limits) {lines : List String}
    (plain : ∀ line ∈ lines, Plain line) :
    ∃ (evals : String → Output) (listing summary : Output),
      (∀ surroundings : Surroundings, surroundings.environment = environment →
        ∀ line : String,
          answer surroundings ("eval" :: "--json" :: (words ++ ["--", line])) =
            .ok (evals line)) ∧
      (∀ padded : List String, Pads padded lines →
        (∃ bytes : List UInt8, Utf8.decode bytes = .ok ("\n".intercalate padded).toList) ∧
        ∀ surroundings : Surroundings, surroundings.environment = environment →
          (surroundings.input = ("\n".intercalate padded).toList →
            answer surroundings ("batch" :: "--json" :: words) = .ok listing ∧
              answer surroundings ("batch" :: words) = .ok summary) ∧
          ∀ (name : String) (bytes : List UInt8), name ≠ "-" →
            surroundings.file name = some bytes →
            Utf8.decode bytes = .ok ("\n".intercalate padded).toList →
              answer surroundings ("batch" :: "--json" :: (words ++ ["--", name])) = .ok listing ∧
                answer surroundings ("batch" :: (words ++ ["--", name])) = .ok summary) ∧
      (∃ objects : String → Json,
        (∀ line ∈ lines, Json.read? (evals line).stdout = some (objects line)) ∧
          Json.read? listing.stdout = some (.list (lines.map objects))) ∧
      listing.stderr = [] ∧
      listing.exit = (if ∃ line ∈ lines, (evals line).exit = 1 then 1 else 0) ∧
      summary.stdout = [] ∧ summary.exit = listing.exit := by
  have found := expressionsOf_padded (Pads.refl lines) plain
  refine ⟨evalCommand limits true,
    batchCommand limits true ("\n".intercalate lines).toList,
    batchCommand limits false ("\n".intercalate lines).toList, ?_, ?_, ?_, rfl,
    exit_batchCommand limits true found, rfl, rfl⟩
  · rintro surroundings rfl line
    exact answer_eval surroundings settles true line
  · intro padded pads
    refine ⟨⟨Utf8.encode _, Utf8.decode_encode _⟩, ?_⟩
    rintro surroundings rfl
    have same (json : Bool) :
        batchCommand limits json ("\n".intercalate padded).toList =
          batchCommand limits json ("\n".intercalate lines).toList :=
      batchCommand_congr limits json ((expressionsOf_padded pads plain).trans found.symm)
    constructor
    · intro input
      rw [← same true, ← same false, ← input]
      exact ⟨answer_batch surroundings settles true, answer_batch surroundings settles false⟩
    · intro name bytes named present decoded
      rw [← same true, ← same false]
      exact ⟨answer_batch_file surroundings settles true named present decoded,
        answer_batch_file surroundings settles false named present decoded⟩
  · exact ⟨fun line => (tryEvaluate line limits).toJson,
      fun line _ => read?_evalCommand limits line, read?_batchCommand limits found⟩

/-- A sum and a division by zero, once between other lines and once from a file. -/
theorem batch_agrees_with_eval_of_failure :
    Settles (fun _ => none) [] {} ∧ (∀ line ∈ ["1+1", "1/0"], Plain line) ∧
      ∃ listing : Output,
        answer { environment := fun _ => none, input := "# sums\n1+1\n \n1/0\n".toList,
                 file := fun _ => none } ["batch", "--json"] = .ok listing ∧
          answer { environment := fun _ => none, input := [],
                   file := fun _ => some (Utf8.encode "1+1\n1/0".toList) }
              ["batch", "--json", "--", "sums"] = .ok listing ∧
            listing.exit = 1 := by
  have settles : Settles (fun _ => none) [] {} := ⟨[], {}, {}, .nothing, rfl, rfl, rfl⟩
  have plain : ∀ line ∈ ["1+1", "1/0"], Plain line := by
    have sum : Plain "1+1" := ⟨by decide, by decide +kernel, by decide, by decide⟩
    have quotient : Plain "1/0" := ⟨by decide, by decide +kernel, by decide, by decide⟩
    simp only [List.forall_mem_cons, sum, quotient, true_and]
    exact nofun
  have comment : Skipped "# sums" := ⟨by decide +kernel, by decide⟩
  have blank : Skipped " " := ⟨by decide +kernel, by decide⟩
  have final : Skipped "" := ⟨by decide +kernel, by decide⟩
  have pads : Pads ["# sums", "1+1", " ", "1/0", ""] ["1+1", "1/0"] :=
    .skipped comment (.line _ (.skipped blank (.line _ (.skipped final .nothing))))
  obtain ⟨evals, listing, summary, each, whole, -, -, exit, -⟩ :=
    batch_agrees_with_eval settles plain
  refine ⟨settles, plain, listing, ?_, ?_, ?_⟩
  · exact (((whole _ pads).2 ⟨fun _ => none, _, fun _ => none⟩ rfl).1 (by decide +kernel)).1
  · have content : ("\n".intercalate ["1+1", "1/0"]).toList = "1+1\n1/0".toList := by
      decide +kernel
    have decoded : Utf8.decode (Utf8.encode "1+1\n1/0".toList) =
        .ok ("\n".intercalate ["1+1", "1/0"]).toList := by
      rw [Utf8.decode_encode, content]
    exact (((whole _ (.refl _)).2
      ⟨fun _ => none, [], fun _ => some (Utf8.encode "1+1\n1/0".toList)⟩ rfl).2
        "sums" _ (by decide) rfl decoded).1
  · have failed : (evals "1/0").exit = 1 := by
      have evaluated := each ⟨fun _ => none, [], fun _ => none⟩ rfl "1/0"
      have answered := answer_eval ⟨fun _ => none, [], fun _ => none⟩ settles true "1/0"
      have fails : (evalCommand {} true "1/0").exit = 1 := by decide +kernel
      rw [← fails, Except.ok.inj (evaluated.symm.trans answered)]
    rw [exit, if_pos ⟨"1/0", by simp, failed⟩]

end Abacus.CommandLine
