/-
Module: Abacus.Proofs.Dialogue
Purpose: A dialogue prints, line by line, what the lines print when each is evaluated for itself.
Main exports: Ends, entered, transcript, dialogue_eq, replCommand_flatten, repl_prints_evals
-/
import Abacus.Proofs.InputLines
import Abacus.Proofs.OptionWords

namespace Abacus.CommandLine

open Text

/-!
A dialogue goes through its lines and keeps nothing in between: what a line adds to the two channels
depends on this line only, and the lines behind the one that ends the dialogue are never looked at.
-/

/-- Whether a line without blanks around it ends the dialogue. -/
def Ends (line : List Char) : Prop :=
  line = "quit".toList ∨ line = "exit".toList

instance (line : List Char) : Decidable (Ends line) :=
  inferInstanceAs (Decidable (_ ∨ _))

/-- The lines up to the first that ends the dialogue, this one included. -/
def untilEnd : List (List Char) → List (List Char)
  | [] => []
  | line :: lines => if Ends line then [line] else line :: untilEnd lines

/-- Lines behind the one that ends the dialogue are not reached. -/
theorem untilEnd_of_prefix {lines others : List (List Char)} (start : lines <+: others)
    (ended : ∃ line ∈ lines, Ends line) : untilEnd others = untilEnd lines := by
  induction lines generalizing others with
  | nil =>
      obtain ⟨line, mem, -⟩ := ended
      cases mem
  | cons line lines ih =>
      obtain ⟨behind, rfl⟩ := start
      rw [List.cons_append, untilEnd, untilEnd]
      by_cases ends : Ends line
      · rw [if_pos ends, if_pos ends]
      · simp only [List.mem_cons, exists_eq_or_imp, ends, false_or] at ended
        rw [if_neg ends, if_neg ends, ih (List.prefix_append lines behind) ended]

/-- The lines that are entered, without blanks around them. -/
def entered (input : List Char) : List (List Char) :=
  untilEnd ((linesOf input).map trim)

/-- What the line adds to a channel if `result` is what evaluating it prints there: nothing if it is
blank or ends the dialogue. -/
def replyTo (line result : List Char) : List Char :=
  if line = [] ∨ Ends line then [] else result

/-- What the lines print if this is what each of them prints by itself.  A prompt stands before
every line, and one where no line is left. -/
def transcript (evals : List Char → Output) (lines : List (List Char)) : Output :=
  { stdout := lines.flatMap (fun line => "> ".toList ++ replyTo line (evals line).stdout) ++
      if ∃ line ∈ lines, Ends line then [] else "> ".toList
    stderr := lines.flatMap fun line => replyTo line (evals line).stderr
    exit := 0 }

theorem leaves_iff (line : List Char) : leaves line = true ↔ Ends (trim line) := by
  rw [leaves, decide_eq_true_eq, Ends]

/-- The reply to a line is what evaluating it prints, if there is something to evaluate. -/
theorem reply_eq (limits : Limits) {line : List Char} (stays : ¬ Ends (trim line)) :
    reply limits line =
      { stdout := replyTo (trim line)
          (evalCommand limits false (String.ofList (trim line))).stdout
        stderr := replyTo (trim line)
          (evalCommand limits false (String.ofList (trim line))).stderr
        exit := 0 } := by
  rw [reply]
  cases content : trim line with
  | nil => rfl
  | cons c cs =>
      rw [content] at stays
      have spoken : ¬ (c :: cs = [] ∨ Ends (c :: cs)) := by
        rintro (empty | ends)
        · cases empty
        · exact stays ends
      rw [replyTo, replyTo, if_neg spoken, if_neg spoken]

/-- A line that does not end the dialogue prints its reply in front of the rest. -/
theorem transcript_cons (evals : List Char → Output) {line : List Char} (stays : ¬ Ends line)
    (lines : List (List Char)) :
    transcript evals (line :: lines) =
      (prompt.followedBy
        { stdout := replyTo line (evals line).stdout
          stderr := replyTo line (evals line).stderr }).followedBy (transcript evals lines) := by
  have ending : (∃ other ∈ line :: lines, Ends other) ↔ ∃ other ∈ lines, Ends other := by
    simp only [List.mem_cons, exists_eq_or_imp, stays, false_or]
  simp only [transcript, ending, Output.followedBy, prompt, List.flatMap_cons, List.nil_append,
    List.append_assoc]

theorem followedBy_assoc (one two three : Output) :
    (one.followedBy two).followedBy three = one.followedBy (two.followedBy three) := by
  simp [Output.followedBy]

/-- A dialogue goes from line to line. -/
theorem dialogue_cons (limits : Limits) (line : List Char) (lines : List (List Char)) :
    dialogue limits (line :: lines) =
      if leaves line then prompt
      else (prompt.followedBy (reply limits line)).followedBy (dialogue limits lines) := by
  rw [dialogue, talk]
  split
  · rfl
  · dsimp only
    rw [dialogue, followedBy_assoc, followedBy_assoc]

/-- The dialogue over some lines, from what each of them prints by itself. -/
theorem dialogue_eq (limits : Limits) (lines : List (List Char)) :
    dialogue limits lines =
      transcript (fun line => evalCommand limits false (String.ofList line))
        (untilEnd (lines.map trim)) := by
  induction lines with
  | nil => rfl
  | cons line lines ih =>
      rw [dialogue_cons, List.map_cons, untilEnd]
      by_cases ends : Ends (trim line)
      · rw [if_pos ((leaves_iff line).2 ends), if_pos ends]
        simp [transcript, replyTo, prompt, ends]
      · rw [if_neg (fun leaving => ends ((leaves_iff line).1 leaving)), if_neg ends,
          transcript_cons _ ends, ih, reply_eq limits ends]

/-- Behind a line that ends the dialogue nothing is entered. -/
theorem entered_append {input : List Char} (ended : ∃ line ∈ linesOf input, Ends (trim line))
    (more : List Char) : entered (input ++ '\n' :: more) = entered input := by
  obtain ⟨line, mem, ends⟩ := ended
  exact untilEnd_of_prefix ((linesOf_append_newline input more).map trim)
    ⟨trim line, List.mem_map_of_mem mem, ends⟩

/-- What is printed before the first prompt. -/
def banner : List Char :=
  "exprcalc: enter an expression, 'quit' to leave\n".toList

theorem greeting_eq : greeting = { stderr := banner } := by
  decide +kernel

/-- The dialogue over an input, from what each line prints by itself. -/
theorem replCommand_eq (limits : Limits) (input : List Char) :
    replCommand limits input =
      greeting.followedBy
        (transcript (fun line => evalCommand limits false (String.ofList line))
          (entered input)) := by
  rw [replCommand, dialogue_eq, inputLines, ← linesOf_eq, entered]

/-! ### Portions of an input -/

/-- A dialogue behind its first prompt, over an input that comes in portions: each is answered
before the next is asked for. -/
def talkOver (limits : Limits) : List (List Char) → Output
  | [] => {}
  | portion :: portions =>
      let answered := talk limits (inputLines portion)
      if answered.2 then answered.1.followedBy (talkOver limits portions) else answered.1

theorem exit_talk (limits : Limits) (lines : List (List Char)) :
    (talk limits lines).1.exit = 0 := by
  induction lines with
  | nil => rfl
  | cons line lines ih =>
      rw [talk]
      split
      · rfl
      · exact ih

theorem followedBy_nothing {output : Output} (exit : output.exit = 0) :
    output.followedBy {} = output := by
  cases output
  cases exit
  simp [Output.followedBy]

/-- Lines that come in later are answered as if they had been there, if the dialogue goes on. -/
theorem talk_append (limits : Limits) (lines more : List (List Char)) :
    talk limits (lines ++ more) =
      if (talk limits lines).2 then
        ((talk limits lines).1.followedBy (talk limits more).1, (talk limits more).2)
      else talk limits lines := by
  induction lines with
  | nil => simp [talk, Output.followedBy]
  | cons line lines ih =>
      rw [List.cons_append, talk, talk]
      by_cases leaving : leaves line = true
      · rw [if_pos leaving, if_pos leaving]
        rfl
      · rw [if_neg leaving, if_neg leaving, ih]
        cases goesOn : (talk limits lines).2 with
        | true => simp [followedBy_assoc]
        | false => simp [goesOn]

/-- A portion that ends with a newline has its lines for itself. -/
theorem inputLines_append (front rest : List Char) :
    inputLines (front ++ '\n' :: rest) = inputLines (front ++ ['\n']) ++ inputLines rest := by
  obtain ⟨unified, split⟩ := exists_unifyLineEnds_append front
  rw [inputLines, inputLines, inputLines, split, split, linesBy_append (by simp), unifyLineEnds]

/-- It makes no difference in which portions the input comes, if they are made of whole lines. -/
theorem talkOver_eq (limits : Limits) {portions : List (List Char)}
    (whole : ∀ portion ∈ portions.dropLast, portion.getLast? = some '\n') :
    talkOver limits portions = (talk limits (inputLines portions.flatten)).1 := by
  induction portions with
  | nil => rfl
  | cons portion portions ih =>
      rw [talkOver]
      cases portions with
      | nil =>
          rw [talkOver, List.flatten_singleton, followedBy_nothing (exit_talk limits _)]
          simp
      | cons next others =>
          rw [List.dropLast_cons_cons] at whole
          obtain ⟨ended, wholeToo⟩ := List.forall_mem_cons.1 whole
          obtain ⟨front, rfl⟩ := List.getLast?_eq_some_iff.1 ended
          rw [List.flatten_cons, List.append_assoc, List.singleton_append,
            inputLines_append front (next :: others).flatten, talk_append, ih wholeToo]
          split
          · rfl
          · rfl

/-- **A dialogue may be held portion by portion**, as its input comes in. -/
theorem replCommand_flatten (limits : Limits) {portions : List (List Char)}
    (whole : ∀ portion ∈ portions.dropLast, portion.getLast? = some '\n') :
    replCommand limits portions.flatten =
      (greeting.followedBy prompt).followedBy (talkOver limits portions) := by
  rw [replCommand, dialogue, talkOver_eq limits whole, followedBy_assoc]

/-! ### Whole dialogues -/

/-- **A dialogue is a sequence of independent evaluations.**  With valid settings it exits with 0,
and what it prints is made of what `eval` prints for each line that is entered, in order: behind a
prompt on the one channel, behind the banner on the other.  What stands behind the line that ends
the dialogue changes nothing. -/
theorem repl_prints_evals {environment : Environment} {words : List String} {limits : Limits}
    (settles : Settles environment words limits) :
    ∃ evals : List Char → Output,
      (∀ surroundings : Surroundings, surroundings.environment = environment →
        ∀ line : List Char,
          answer surroundings ("eval" :: (words ++ ["--", String.ofList line])) =
            .ok (evals line)) ∧
      (∀ surroundings : Surroundings, surroundings.environment = environment →
        answer surroundings ("repl" :: words) =
          .ok {
            stdout :=
              (entered surroundings.input).flatMap (fun line =>
                "> ".toList ++ if line = [] ∨ Ends line then [] else (evals line).stdout) ++
              if ∃ line ∈ entered surroundings.input, Ends line then [] else "> ".toList
            stderr :=
              "exprcalc: enter an expression, 'quit' to leave\n".toList ++
              (entered surroundings.input).flatMap fun line =>
                if line = [] ∨ Ends line then [] else (evals line).stderr
            exit := 0 }) ∧
      ∀ surroundings : Surroundings, surroundings.environment = environment →
        (∃ line ∈ linesOf surroundings.input, Ends (trim line)) → ∀ more : List Char,
          answer { surroundings with input := surroundings.input ++ '\n' :: more }
              ("repl" :: words) =
            answer surroundings ("repl" :: words) := by
  refine ⟨fun line => evalCommand limits false (String.ofList line), ?_, ?_, ?_⟩
  · rintro surroundings rfl line
    exact answer_eval surroundings settles false (String.ofList line)
  · rintro surroundings rfl
    rw [answer_repl surroundings settles, replCommand_eq, greeting_eq]
    rfl
  · rintro surroundings rfl ended more
    have longer := answer_repl
      { surroundings with input := surroundings.input ++ '\n' :: more } settles
    rw [longer, answer_repl surroundings settles, replCommand_eq, replCommand_eq,
      entered_append ended]

/-- A limit of three digits for two lines and a third one that is not looked at. -/
theorem repl_prints_evals_of_two_lines :
    Settles (fun _ => none) ["--max-digits=3"] { digits := 3 } ∧
      answer { environment := fun _ => none, input := "1+ 1\n quit\r\n1000".toList,
               file := fun _ => none } ["repl", "--max-digits=3"] =
        .ok {
          stdout := "> 2\n> ".toList
          stderr := "exprcalc: enter an expression, 'quit' to leave\n".toList
          exit := 0 } := by
  have settles : Settles (fun _ => none) ["--max-digits=3"] { digits := 3 } :=
    ⟨[(.maxDigits, "3")], { maxDigits := some 3 }, {},
      .joined .maxDigits rfl "3" .nothing, by rfl, by rfl, by rfl⟩
  obtain ⟨evals, each, whole, -⟩ := repl_prints_evals settles
  refine ⟨settles, ?_⟩
  have printed : evals ['1', '+', ' ', '1'] = { stdout := ['2', '\n'] } := by
    have evaluated : evalCommand { digits := 3 } false (String.ofList ['1', '+', ' ', '1']) =
        { stdout := ['2', '\n'] } := by
      decide +kernel
    have first := each ⟨fun _ => none, [], fun _ => none⟩ rfl ['1', '+', ' ', '1']
    have second := answer_eval ⟨fun _ => none, [], fun _ => none⟩ settles false
      (String.ofList ['1', '+', ' ', '1'])
    rw [evaluated] at second
    exact Except.ok.inj (first.symm.trans second)
  have lines : entered "1+ 1\n quit\r\n1000".toList = ["1+ 1".toList, "quit".toList] := by
    decide +kernel
  have answered := whole ⟨fun _ => none, "1+ 1\n quit\r\n1000".toList, fun _ => none⟩ rfl
  rw [lines] at answered
  rw [answered]
  simp [printed, Ends]

end Abacus.CommandLine
