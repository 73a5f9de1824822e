/-
Module: Abacus.Proofs.LosslessCursor
Purpose: Whatever a cursor is asked, it passes exactly the characters that it replies for.
Main exports: Longest, Cursor.Takes, takes_ask, Cursor.Reaches, Cursor.Exchange, Cursor.after,
  loses_nothing
-/
import Abacus.Cursor

namespace Abacus

open Text

/-!
A query takes the blanks that come next, or the digits, and perhaps one more character.  `Takes`
says which, by the text alone: blanks and digits are taken as far as they go, and a symbol is taken
whole or not at all.  Everything else that holds of a cursor follows from what one query takes.
-/

/-- The text starts with the first list, all of whose characters have the property, and goes on
with the second one, whose first character does not. -/
structure Longest (p : Char → Bool) (cs run left : List Char) : Prop where
  split : cs = run ++ left
  inside : ∀ c ∈ run, p c = true
  ends : ∀ c ∈ left.head?, p c = false

section Longest

variable {p : Char → Bool} {cs run left : List Char}

theorem longest_takeWhile (p : Char → Bool) (cs : List Char) :
    Longest p cs (cs.takeWhile p) (cs.dropWhile p) where
  split := List.takeWhile_append_dropWhile.symm
  inside := List.all_eq_true.1 List.all_takeWhile
  ends := by
    intro c head
    have stops := List.head?_dropWhile_not p cs
    rw [Option.mem_def.1 head] at stops
    simpa using stops

theorem Longest.drop (longest : Longest p cs run left) : cs.drop run.length = left := by
  rw [longest.split, List.drop_left]

/-- A text has one longest run only. -/
theorem Longest.unique (longest : Longest p cs run left) {other rest : List Char}
    (longestToo : Longest p cs other rest) : run = other ∧ left = rest := by
  have taken {run left : List Char} (longest : Longest p cs run left) : cs.takeWhile p = run := by
    rw [longest.split, List.takeWhile_append_of_pos longest.inside]
    cases left with
    | nil => simp
    | cons c left => simp [longest.ends c rfl]
  obtain rfl : run = other := (taken longest).symm.trans (taken longestToo)
  exact ⟨rfl, List.append_cancel_left (longest.split.symm.trans longestToo.split)⟩

theorem Longest.left_eq_nil_iff (longest : Longest p cs run left) :
    left = [] ↔ ∀ c ∈ cs, p c = true := by
  constructor
  · rintro rfl
    rw [longest.split, List.append_nil]
    exact longest.inside
  · intro all
    cases left with
    | nil => rfl
    | cons c left =>
        have inText : c ∈ cs := by simp [longest.split]
        have outside := longest.ends c rfl
        rw [all c inText] at outside
        cases outside

end Longest

namespace Cursor

/-! ### One query -/

/-- What a query takes from the text that remains, the reply to it, and the text that it leaves. -/
inductive Takes (remainder : List Char) : Query → Reply → (taken left : List Char) → Prop where
  | skipBlanks {blanks left : List Char} (run : Longest isBlank remainder blanks left) :
      Takes remainder .skipBlanks .done blanks left
  /-- The next significant character is shown and left where it is. -/
  | peek {blanks left : List Char} (run : Longest isBlank remainder blanks left) :
      Takes remainder .peek (.text (String.ofList left.head?.toList)) blanks left
  | accepted {blanks left : List Char} {c : Char}
      (run : Longest isBlank remainder blanks (c :: left)) :
      Takes remainder (.accept (String.singleton c)) (.flag true) (blanks ++ [c]) left
  /-- Nothing remains, or something other than the symbol comes next. -/
  | refused {blanks left : List Char} {symbol : String}
      (run : Longest isBlank remainder blanks left)
      (other : ∀ c ∈ left.head?, symbol ≠ String.singleton c) :
      Takes remainder (.accept symbol) (.flag false) blanks left
  | atEnd : Takes remainder .atEnd (.flag remainder.isEmpty) [] remainder
  | takeDigits {digits left : List Char} (run : Longest isDigit remainder digits left) :
      Takes remainder .takeDigits (.text (String.ofList digits)) digits left
  | remainder : Takes remainder .remainder (.text (String.ofList remainder)) [] remainder

/-- Nothing is lost between what is taken and what is left. -/
theorem Takes.split {remainder taken left : List Char} {query : Query} {reply : Reply}
    (takes : Takes remainder query reply taken left) : remainder = taken ++ left := by
  cases takes with
  | skipBlanks run => exact run.split
  | peek run => exact run.split
  | accepted run => rw [run.split, List.append_assoc, List.singleton_append]
  | refused run other => exact run.split
  | atEnd => rfl
  | takeDigits run => exact run.split
  | remainder => rfl

section Queries

variable (cursor : Cursor)

/-- The blanks that come next, as a longest run. -/
theorem longest_blanks :
    Longest isBlank cursor.rest (cursor.rest.takeWhile isBlank) cursor.skipBlanks.rest := by
  rw [rest_skipBlanks]
  exact longest_takeWhile isBlank cursor.rest

theorem sees_iff {symbol : String} :
    cursor.sees symbol = true ↔
      ∃ c ∈ cursor.skipBlanks.rest.head?, symbol = String.singleton c := by
  rw [sees, beq_iff_eq, Option.map_eq_some_iff, significant?]
  simp only [Option.mem_def, eq_comm]

theorem ask_accept_of_sees {symbol : String} (seen : cursor.sees symbol = true) :
    cursor.ask (.accept symbol) = (.flag true, cursor.skipBlanks.forward 1) := by
  rw [ask, if_pos seen]

theorem ask_accept_of_not_sees {symbol : String} (unseen : cursor.sees symbol = false) :
    cursor.ask (.accept symbol) = (.flag false, cursor.skipBlanks) := by
  rw [ask, unseen]
  rfl

theorem forward_forward (first second : Nat) :
    (cursor.forward first).forward second = cursor.forward (first + second) := by
  simp [forward, Nat.add_assoc]

/-- A query takes what it should, and moves the cursor by as much. -/
theorem takes_ask (query : Query) :
    ∃ taken, Takes cursor.rest query (cursor.ask query).1 taken (cursor.ask query).2.rest ∧
      (cursor.ask query).2 = cursor.forward taken.length := by
  cases query with
  | skipBlanks => exact ⟨_, .skipBlanks cursor.longest_blanks, rfl⟩
  | peek => exact ⟨_, .peek cursor.longest_blanks, rfl⟩
  | atEnd =>
      have ends : cursor.atEnd = cursor.rest.isEmpty := by
        rw [Bool.eq_iff_iff, atEnd_iff, List.isEmpty_iff]
      refine ⟨[], ?_, rfl⟩
      rw [ask, ends]
      exact .atEnd
  | remainder => exact ⟨[], .remainder, rfl⟩
  | takeDigits =>
      have run := longest_takeWhile isDigit cursor.rest
      refine ⟨cursor.digits, ?_, rfl⟩
      rw [ask, rest_forward, digits, run.drop]
      exact .takeDigits run
  | accept symbol =>
      have run := cursor.longest_blanks
      cases seen : cursor.sees symbol with
      | true =>
          obtain ⟨c, head, rfl⟩ := cursor.sees_iff.1 seen
          obtain ⟨left, next⟩ := List.head?_eq_some_iff.1 head
          refine ⟨cursor.rest.takeWhile isBlank ++ [c], ?_, ?_⟩
          · rw [ask_accept_of_sees cursor seen, rest_forward, next]
            rw [next] at run
            exact .accepted run
          · rw [ask_accept_of_sees cursor seen, skipBlanks, forward_forward, List.length_append]
            rfl
      | false =>
          refine ⟨cursor.rest.takeWhile isBlank, ?_, ?_⟩
          · rw [ask_accept_of_not_sees cursor seen]
            refine .refused run ?_
            intro c head same
            rw [cursor.sees_iff.2 ⟨c, head, same⟩] at seen
            cases seen
          · rw [ask_accept_of_not_sees cursor seen]
            rfl

/-- Behind the blanks there are none to skip. -/
theorem skipBlanks_skipBlanks : cursor.skipBlanks.skipBlanks = cursor.skipBlanks := by
  have run := longest_takeWhile isBlank cursor.rest
  have none : Longest isBlank (cursor.rest.dropWhile isBlank) [] (cursor.rest.dropWhile isBlank) :=
    ⟨rfl, by simp, run.ends⟩
  have length : (cursor.skipBlanks.rest.takeWhile isBlank).length = 0 := by
    rw [rest_skipBlanks, ((longest_takeWhile isBlank _).unique none).1]
    rfl
  rw [skipBlanks, length]
  rfl

/-- Whether a symbol comes next does not depend on the blanks before it. -/
theorem sees_skipBlanks (symbol : String) : cursor.skipBlanks.sees symbol = cursor.sees symbol := by
  rw [sees, sees, significant?, significant?, skipBlanks_skipBlanks]

end Queries

/-- A query with its reply and the cursor after it, as they should be. -/
structure Exchange (cursor : Cursor) (query : Query) (reply : Reply) (next : Cursor) : Prop where
  /-- What remained is what is taken, followed by what remains now. -/
  lossless : ∃ taken, Takes cursor.rest query reply taken next.rest ∧
    cursor.rest = taken ++ next.rest ∧ next = cursor.forward taken.length
  /-- A symbol is accepted if it is the next significant character, and only then. -/
  accepts : ∀ symbol, query = .accept symbol → (reply = .flag true ↔
    ∃ c blanks left, Longest isBlank cursor.rest blanks (c :: left) ∧ symbol = String.singleton c)
  /-- A peek shows nothing if nothing but blanks remains, and only then. -/
  peeks : query = .peek → (reply = .text "" ↔ ∀ c ∈ cursor.rest, isBlank c = true)
  /-- A peek, or a symbol that has been refused, gets the same reply once more, and the cursor
  stays. -/
  again : (query = .peek ∨ (∃ symbol, query = .accept symbol) ∧ reply = .flag false) →
    next.ask query = (reply, next)

theorem exchange_ask (cursor : Cursor) (query : Query) :
    cursor.Exchange query (cursor.ask query).1 (cursor.ask query).2 where
  lossless := by
    obtain ⟨taken, takes, moved⟩ := cursor.takes_ask query
    exact ⟨taken, takes, takes.split, moved⟩
  accepts := by
    rintro symbol rfl
    cases seen : cursor.sees symbol with
    | true =>
        obtain ⟨c, head, same⟩ := cursor.sees_iff.1 seen
        obtain ⟨left, next⟩ := List.head?_eq_some_iff.1 head
        have run := cursor.longest_blanks
        rw [next] at run
        rw [ask_accept_of_sees cursor seen]
        exact ⟨fun _ => ⟨c, _, left, run, same⟩, fun _ => rfl⟩
    | false =>
        rw [ask_accept_of_not_sees cursor seen]
        constructor
        · intro accepted
          cases accepted
        · rintro ⟨c, blanks, left, run, same⟩
          have next := (cursor.longest_blanks.unique run).2
          have head : c ∈ cursor.skipBlanks.rest.head? := by rw [next]; rfl
          rw [cursor.sees_iff.2 ⟨c, head, same⟩] at seen
          cases seen
  peeks := by
    rintro rfl
    rw [← cursor.longest_blanks.left_eq_nil_iff, ask, significant?]
    cases cursor.skipBlanks.rest with
    | nil => simp
    | cons c left => simp
  again := by
    rintro (rfl | ⟨⟨symbol, rfl⟩, refused⟩)
    · rw [ask, ask, significant?, significant?, skipBlanks_skipBlanks]
    · cases seen : cursor.sees symbol with
      | true =>
          rw [ask_accept_of_sees cursor seen] at refused
          cases refused
      | false =>
          have unseen : cursor.skipBlanks.sees symbol = false := by rw [sees_skipBlanks, seen]
          rw [ask_accept_of_not_sees cursor seen, ask_accept_of_not_sees _ unseen,
            skipBlanks_skipBlanks]

/-! ### Many queries -/

/-- The first cursor may come to be the second one, which reads the same text and stands no further
back.  From a place in the text it has not left the text, and from behind the end it has not
moved. -/
structure Reaches (start cursor : Cursor) : Prop where
  text : cursor.text = start.text
  onward : start.position ≤ cursor.position
  inside : start.position ≤ start.text.length → cursor.position ≤ start.text.length
  beyond : start.text.length < start.position → cursor = start

theorem Reaches.refl (start : Cursor) : start.Reaches start :=
  ⟨rfl, Nat.le_refl _, id, fun _ => rfl⟩

theorem Reaches.trans {start middle cursor : Cursor} (first : start.Reaches middle)
    (second : middle.Reaches cursor) : start.Reaches cursor where
  text := second.text.trans first.text
  onward := Nat.le_trans first.onward second.onward
  inside := by
    intro inText
    have onward := second.inside
    rw [first.text] at onward
    exact onward (first.inside inText)
  beyond := by
    intro behind
    obtain rfl := first.beyond behind
    exact second.beyond behind

/-- A cursor moves over what remains, and no further. -/
theorem reaches_ask (cursor : Cursor) (query : Query) : cursor.Reaches (cursor.ask query).2 := by
  obtain ⟨taken, takes, moved⟩ := cursor.takes_ask query
  have fits := congrArg List.length takes.split
  rw [List.length_append, rest, List.length_drop] at fits
  rw [moved]
  refine ⟨rfl, Nat.le_add_right _ _, ?_, ?_⟩
  · intro inText
    rw [forward]
    dsimp only
    omega
  · intro behind
    have none : taken.length = 0 := by omega
    rw [none]
    rfl

/-- The cursor after the last of some queries. -/
def after (cursor : Cursor) (queries : List Query) : Cursor :=
  ((cursor.askAll queries).getLast?.map Prod.snd).getD cursor

theorem after_cons (cursor : Cursor) (query : Query) (queries : List Query) :
    cursor.after (query :: queries) = (cursor.ask query).2.after queries := by
  rw [after, askAll, List.getLast?_cons, after]
  cases askAll (cursor.ask query).2 queries |>.getLast? with
  | none => rfl
  | some answer => rfl

/-- The last of some queries is put to the cursor that the others lead to. -/
theorem askAll_append_singleton (cursor : Cursor) (history : List Query) (query : Query) :
    cursor.askAll (history ++ [query]) =
      cursor.askAll history ++ [(cursor.after history).ask query] := by
  induction history generalizing cursor with
  | nil => rfl
  | cons earlier history ih =>
      rw [List.cons_append, askAll, askAll, after_cons, ih]
      rfl

theorem reaches_after (cursor : Cursor) (queries : List Query) :
    cursor.Reaches (cursor.after queries) := by
  induction queries generalizing cursor with
  | nil => exact .refl cursor
  | cons query queries ih =>
      rw [after_cons]
      exact (cursor.reaches_ask query).trans (ih _)

/-- **A cursor loses nothing.**  Whatever it has been asked before, and wherever it started, the
cursor never goes back.  From a place in the text it never gets behind the end, and from behind the
end it never moves.  The next query takes what it should and leaves the rest. -/
theorem loses_nothing (start : Cursor) (history : List Query) (query : Query) :
    let cursor := start.after history
    let answer := cursor.ask query
    (start.askAll (history ++ [query])).getLast? = some answer ∧
      start.Reaches cursor ∧ start.Reaches answer.2 ∧ cursor.position ≤ answer.2.position ∧
        cursor.Exchange query answer.1 answer.2 := by
  have reached := start.reaches_after history
  have moved := (start.after history).reaches_ask query
  refine ⟨?_, reached, reached.trans moved, moved.onward, exchange_ask _ query⟩
  rw [askAll_append_singleton, List.getLast?_concat]

/-- A peek skips the blank, a refused symbol leaves the digits alone, and then they are taken. -/
example : (askAll { text := "1 23+".toList, position := 1 }
    [.peek, .accept "23", .takeDigits]).map (fun answer => (answer.1, answer.2.position)) =
      [(.text "2", 2), (.flag false, 2), (.text "23", 4)] := by
  rfl

end Cursor

end Abacus
