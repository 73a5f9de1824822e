/-
Module: Abacus.Proofs.Verbatim
Purpose: Which texts are shown as they were written when they are escaped, and where the program
  shows escaped text.
Main exports: Markup.Verbatim, Markup.render_escape_eq_iff, Markup.render_closing_append, Template,
  Template.fill_shows_verbatim_iff
-/
import Abacus.CommandLine.Answer
import Abacus.Proofs.Diagnosis

namespace Abacus

namespace Display.Markup

/-!
Escaping doubles the backslashes before a tag and adds one, and rendering halves them again and
shows the tag.  Two kinds of backslashes do not come out of this as they went in: one that stands
before a bracket without a tag is dropped, and one that ends the text alone is doubled.  The
induction is on the pieces of the text, which are those of the escaped text but for backslashes.
-/

/-! ### Texts that survive -/

/-- The text starts with something like a tag: a bracket, what a tag may start with, and other
characters than opening brackets up to a closing one. -/
def TagLike (cs : List Char) : Prop :=
  ∃ c name rest, startsTag c = true ∧ '[' ∉ name ∧ cs = '[' :: c :: (name ++ ']' :: rest)

/-- The text ends in a backslash, but not in two. -/
def EndsInOneSlash (cs : List Char) : Prop :=
  ['\\'] <:+ cs ∧ ¬ ['\\', '\\'] <:+ cs

/-- No backslash of the text is lost or added when it is escaped and rendered. -/
structure Verbatim (cs : List Char) : Prop where
  ending : ¬ EndsInOneSlash cs
  brackets : ∀ before after, cs = before ++ '\\' :: '[' :: after → TagLike ('[' :: after)

/-- Without backslashes there is nothing to lose. -/
theorem verbatim_of_no_slash {cs : List Char} (noSlash : '\\' ∉ cs) : Verbatim cs where
  ending := fun ends => noSlash (ends.1.subset List.mem_cons_self)
  brackets := by
    rintro before after rfl
    exact absurd (by simp) noSlash

/-- A tag is the shortest thing of its kind: the first closing bracket ends it. -/
theorem isSome_tagAt?_iff {cs : List Char} : (tagAt? cs).isSome = true ↔ TagLike cs := by
  constructor
  · intro found
    obtain ⟨tag, isTag⟩ := Option.isSome_iff_exists.1 found
    obtain ⟨c, style, rest, starts, bracketless, _, split⟩ := exists_of_tagAt? isTag
    exact ⟨c, style, rest, starts, fun mem => (bracketless _ mem).1 rfl, split⟩
  · rintro ⟨c, name, rest, starts, noBracket, rfl⟩
    obtain ⟨style, bracketless, shape⟩ := exists_bracketless (name ++ [']'])
    have closes : ∃ more, name ++ ']' :: rest = style ++ ']' :: (more ++ rest) := by
      rcases shape with whole | ⟨more, whole⟩ | ⟨more, whole⟩
      · have bracket : ']' ∈ style := by simp [← whole]
        exact absurd rfl (bracketless _ bracket).2
      · have bracket : '[' ∈ name ++ [']'] := by simp [whole]
        exact absurd (by simpa using bracket) noBracket
      · exact ⟨more, by simpa using congrArg (· ++ rest) whole⟩
    obtain ⟨more, split⟩ := closes
    rw [split, tagAt?_tag starts bracketless]
    rfl

/-! ### Backslashes at the end -/

section Endings

variable {cs ds : List Char}

theorem take_append_congr {n : Nat} (same : cs.take n = ds.take n) (rest : List Char) :
    (cs ++ rest).take n = (ds ++ rest).take n := by
  have lengths : n - cs.length = n - ds.length := by
    have min := congrArg List.length same
    simp only [List.length_take] at min
    omega
  rw [List.take_append, List.take_append, same, lengths]

/-- The last two characters of a text stay the last two when it is escaped. -/
theorem take_reverse_escapePieces (cs : List Char) (slashes : Nat) :
    (escapePieces slashes (pieces cs)).reverse.take 2 = cs.reverse.take 2 := by
  induction cs using cut_induction generalizing slashes with
  | nil => rfl
  | plain c cs noTag ih =>
      rw [pieces_plain noTag, escapePieces, List.reverse_cons, List.reverse_cons]
      exact take_append_congr (ih _) [c]
  | tag tag rest isTag ih =>
      obtain ⟨c, style, _, _, _, rfl, _⟩ := exists_of_tagAt? isTag
      -- The tag has more than two characters, so what is written in front of it is out of reach.
      have long : 2 ≤ (rest.reverse ++ ('[' :: c :: (style ++ [']'])).reverse).length := by
        simp
        omega
      rw [pieces_tag isTag, escapePieces, List.reverse_append, List.reverse_append,
        List.reverse_append, ← List.append_assoc, ← List.take_append_of_le_length long]
      exact take_append_congr (take_append_congr (ih 0) _) _

theorem endsInOneSlash_congr (same : cs.reverse.take 2 = ds.reverse.take 2) :
    EndsInOneSlash cs ↔ EndsInOneSlash ds := by
  have sameLast : cs.reverse.take 1 = ds.reverse.take 1 := by
    simpa [List.take_take] using congrArg (List.take 1) same
  simp only [EndsInOneSlash, ← List.reverse_prefix, List.prefix_iff_eq_take]
  simp [same, sameLast]

/-- A second backslash is written behind a single one at the end, and nowhere else. -/
theorem exists_closeSlash (cs : List Char) :
    ∃ count, closeSlash cs = cs ++ List.replicate count '\\' ∧
      (count = 0 ↔ ¬ EndsInOneSlash cs) := by
  unfold EndsInOneSlash closeSlash
  simp only [← List.reverse_prefix]
  split
  · rename_i more ends
    refine ⟨0, by simp, ?_⟩
    simp [ends]
  · rename_i more notTwo ends
    refine ⟨1, rfl, ?_⟩
    have notSecond : ¬ ['\\'] <+: more := fun ⟨others, second⟩ => notTwo others second.symm
    simp [ends, notSecond]
  · rename_i notOne
    refine ⟨0, by simp, ?_⟩
    simp only [true_iff, not_and]
    rintro ⟨more, ends⟩
    exact absurd (by simpa using ends.symm) (notOne more)

end Endings

/-! ### Brackets behind backslashes -/

/-- No bracket among the pieces, after a run of so many backslashes, stands behind a backslash
unless it is part of a tag. -/
def Guarded (slashes : Nat) : List Piece → Prop
  | [] => True
  | .plain c :: rest => (c = '[' → slashes = 0) ∧ Guarded (if c = '\\' then slashes + 1 else 0) rest
  | .tag _ :: rest => Guarded 0 rest

/-- Backslashes are counted, and shown where none of them belongs to a bracket. -/
theorem renderPieces_slashes (slashes count : Nat) (parts : List Piece) :
    renderPieces slashes (List.replicate count (.plain '\\') ++ parts) =
      renderPieces (slashes + count) parts := by
  induction count generalizing slashes with
  | zero => rfl
  | succ count ih =>
      rw [List.replicate_succ, List.cons_append, renderPieces, if_pos rfl, ih, Nat.add_assoc,
        Nat.add_comm 1]

theorem backslashes_append_cons (count : Nat) (cs : List Char) :
    backslashes count ++ '\\' :: cs = backslashes (count + 1) ++ cs := by
  rw [backslashes, backslashes, List.replicate_succ', List.append_assoc, List.singleton_append]

/-- A run of backslashes is as long as what follows lets one see. -/
theorem backslashes_append_bracket_ne {count : Nat} (some : 0 < count) (cs ds : List Char) :
    backslashes (count - 1) ++ '[' :: cs ≠ backslashes count ++ ds := by
  intro same
  obtain ⟨less, rfl⟩ : ∃ less, count = less + 1 := ⟨count - 1, by omega⟩
  rw [← backslashes_append_cons, Nat.add_sub_cancel, List.append_cancel_left_eq] at same
  cases same

/-- Escaped pieces are rendered to the text of the pieces exactly where no bracket loses a
backslash and none is added at the end. -/
theorem renderPieces_escapedPieces (parts : List Piece) (slashes count : Nat) :
    renderPieces slashes (escapedPieces slashes parts ++ List.replicate count (.plain '\\')) =
        backslashes slashes ++ parts.flatMap Piece.text ↔
      Guarded slashes parts ∧ count = 0 := by
  induction parts generalizing slashes with
  | nil =>
      have rest := renderPieces_slashes slashes count []
      rw [List.append_nil] at rest
      rw [escapedPieces, List.nil_append, rest, renderPieces, List.flatMap_nil, List.append_nil,
        backslashes, backslashes, List.replicate_inj]
      simp [Guarded]
  | cons part parts ih =>
      cases part with
      | plain c =>
          rw [escapedPieces, List.cons_append, renderPieces, List.flatMap_cons, Piece.text,
            List.singleton_append, Guarded]
          by_cases slash : c = '\\'
          · have other : c ≠ '[' := by simp [slash]
            rw [if_pos slash, if_pos slash, slash, backslashes_append_cons, ih]
            simp
          · by_cases bracket : c = '['
            · by_cases some : 0 < slashes
              · have lost := backslashes_append_bracket_ne some
                simp [bracket, lost, Nat.ne_of_gt some]
              · obtain rfl : slashes = 0 := by omega
                simp [bracket, backslashes, ← ih 0]
            · simp [slash, bracket, backslashes, ← ih 0]
      | tag text =>
          -- The backslashes in front of the tag, as many again, and one more.
          have half : (slashes + (slashes + 1)) / 2 = slashes := by omega
          have odd : (slashes + (slashes + 1)) % 2 = 1 := by omega
          rw [escapedPieces, List.append_assoc, renderPieces_slashes, List.cons_append,
            renderPieces, half, if_pos odd, List.flatMap_cons, Piece.text, Guarded, ← ih 0]
          simp [backslashes]

/-- A backslash that stands before a bracket is in the text behind a tag, not in the tag. -/
theorem exists_behind_tag {tag rest before after : List Char}
    (isTag : tagAt? (tag ++ rest) = some tag)
    (split : tag ++ rest = before ++ '\\' :: '[' :: after) :
    ∃ between, rest = between ++ '\\' :: '[' :: after := by
  obtain ⟨c, style, _, starts, bracketless, rfl, _⟩ := exists_of_tagAt? isTag
  have single : '[' ∉ c :: (style ++ [']']) := by
    intro mem
    rcases List.mem_cons.1 mem with rfl | later
    · cases starts
    · rcases List.mem_append.1 later with inStyle | last
      · exact (bracketless _ inStyle).1 rfl
      · cases List.mem_singleton.1 last
  rcases List.append_eq_append_iff.1 split with ⟨between, _, found⟩ | ⟨left, whole, found⟩
  · exact ⟨between, found⟩
  · cases left with
    | nil => exact ⟨[], found.symm⟩
    | cons d left =>
        obtain ⟨same, inside⟩ := List.cons.inj found
        subst same
        cases left with
        | nil =>
            -- A tag does not end in a backslash,
            have tag : ('[' :: c :: style) ++ [']'] = before ++ ['\\'] := whole
            have last := (List.append_inj' tag rfl).2
            cases last
        | cons d left =>
            -- and its only bracket is the first character.
            obtain ⟨rfl, _⟩ := List.cons.inj inside
            cases before with
            | nil => cases (List.cons.inj whole).1
            | cons d before =>
                refine absurd ?_ single
                rw [(List.cons.inj whole).2]
                simp

/-- The brackets that keep their backslashes are those that start tags. -/
theorem guarded_pieces_iff (cs : List Char) (slashes : Nat) :
    Guarded slashes (pieces cs) ↔
      (0 < slashes → ∀ after, cs = '[' :: after → TagLike cs) ∧
        ∀ before after, cs = before ++ '\\' :: '[' :: after → TagLike ('[' :: after) := by
  induction cs using cut_induction generalizing slashes with
  | nil => simp [pieces, piecesFrom, Guarded]
  | plain c cs noTag ih =>
      have notLike : ¬ TagLike (c :: cs) := by
        rw [← isSome_tagAt?_iff, noTag]
        exact Bool.false_ne_true
      rw [pieces_plain noTag, Guarded, ih]
      constructor
      · rintro ⟨first, next, later⟩
        constructor
        · intro some after same
          exact absurd (first (List.cons.inj same).1) (Nat.ne_of_gt some)
        · intro before after split
          cases before with
          | nil =>
              obtain ⟨rfl, rfl⟩ := List.cons.inj split
              exact next (by simp) after rfl
          | cons d before => exact later before after (List.cons.inj split).2
      · rintro ⟨first, later⟩
        refine ⟨?_, ?_, ?_⟩
        · rintro rfl
          by_cases some : 0 < slashes
          · exact absurd (first some cs rfl) notLike
          · omega
        · intro some after same
          have slash : c = '\\' := by
            by_cases slash : c = '\\'
            · exact slash
            · simp [slash] at some
          rw [same]
          exact later [] after (by rw [slash, same]; rfl)
        · intro before after split
          exact later (c :: before) after (by rw [split]; rfl)
  | tag tag rest isTag ih =>
      rw [pieces_tag isTag, Guarded, ih]
      constructor
      · rintro ⟨_, later⟩
        constructor
        · intro _ _ _
          rw [← isSome_tagAt?_iff, isTag]
          rfl
        · intro before after split
          obtain ⟨between, behind⟩ := exists_behind_tag isTag split
          exact later between after behind
      · rintro ⟨_, later⟩
        constructor
        · intro none
          cases none
        · intro before after split
          exact later (tag ++ before) after (by rw [split, List.append_assoc])

/-- Escaped text is shown as it was written exactly if it is verbatim. -/
theorem render_escape_eq_iff (cs : List Char) : render (escape cs) = cs ↔ Verbatim cs := by
  have ends : EndsInOneSlash (escapePieces 0 (pieces cs)) ↔ EndsInOneSlash cs :=
    endsInOneSlash_congr (take_reverse_escapePieces cs 0)
  obtain ⟨count, closed, single⟩ := exists_closeSlash (escapePieces 0 (pieces cs))
  have shown := renderPieces_escapedPieces (pieces cs) 0 count
  rw [text_pieces, guarded_pieces_iff, single, ends] at shown
  rw [render, escape, closed, pieces_escapePieces]
  refine shown.trans ⟨?_, ?_⟩
  · rintro ⟨⟨_, brackets⟩, ending⟩
    exact ⟨ending, brackets⟩
  · rintro ⟨ending, brackets⟩
    exact ⟨⟨fun none => absurd none (Nat.lt_irrefl 0), brackets⟩, ending⟩

/-! ### Text in front -/

/-- The bracket that closes another one settles whether there is a tag, whatever comes behind. -/
theorem tagAt?_closed {cs : List Char} (bracketless : Bracketless cs) (rest other : List Char) :
    tagAt? ('[' :: (cs ++ ']' :: rest)) = tagAt? ('[' :: (cs ++ ']' :: other)) := by
  cases cs with
  | nil => rfl
  | cons c cs =>
      cases starts : startsTag c with
      | true =>
          rw [List.cons_append, List.cons_append, tagAt?_tag starts bracketless.of_cons,
            tagAt?_tag starts bracketless.of_cons]
      | false =>
          rw [List.cons_append, List.cons_append, tagAt?, tagAt?, starts]
          rfl

theorem tagAt?_append_closing (cs rest : List Char) :
    tagAt? (cs ++ ']' :: rest) = tagAt? (cs ++ [']']) := by
  cases cs with
  | nil => rfl
  | cons c cs =>
      by_cases bracket : c = '['
      · obtain ⟨before, bracketless, shape⟩ := exists_bracketless cs
        rw [bracket, List.cons_append, List.cons_append]
        rcases shape with rfl | ⟨more, rfl⟩ | ⟨more, rfl⟩
        · exact tagAt?_closed bracketless rest []
        · have open' (behind : List Char) : tagAt? ('[' :: (before ++ '[' :: behind)) = none :=
            tagAt?_unclosed bracketless (.inr ⟨behind, rfl⟩)
          rw [List.append_assoc, List.append_assoc, List.cons_append, List.cons_append, open',
            open']
        · rw [List.append_assoc, List.append_assoc]
          exact tagAt?_closed bracketless _ _
      · rw [List.cons_append, List.cons_append, tagAt?_of_ne bracket, tagAt?_of_ne bracket]

/-- Where a text ends in a closing bracket, what follows is rendered for itself: the bracket is the
end of a tag or of none, and no backslash waits behind it. -/
theorem renderPieces_append_closing {cs : List Char} {slashes : Nat}
    (closes : (cs = [] ∧ slashes = 0) ∨ ∃ before, cs = before ++ [']']) (rest : List Char) :
    renderPieces slashes (pieces (cs ++ rest)) =
      renderPieces slashes (pieces cs) ++ render rest := by
  induction cs using cut_induction generalizing slashes with
  | nil =>
      rcases closes with ⟨_, rfl⟩ | ⟨before, ends⟩
      · rfl
      · simp at ends
  | plain c cs noTag ih =>
      obtain ⟨before, ends⟩ := closes.resolve_left (by simp)
      have noTagThere : tagAt? (c :: (cs ++ rest)) = none := by
        have settled := tagAt?_append_closing before rest
        rw [← ends, noTag] at settled
        rw [← settled, ← List.cons_append, ends, List.append_assoc]
        rfl
      have next : ∀ count, (c ≠ ']' ∨ count = 0) →
          (cs = [] ∧ count = 0) ∨ ∃ before, cs = before ++ [']'] := by
        intro count reset
        cases before with
        | nil =>
            obtain ⟨rfl, rfl⟩ := List.cons.inj ends
            exact .inl ⟨rfl, reset.resolve_left (fun other => other rfl)⟩
        | cons d before => exact .inr ⟨before, (List.cons.inj ends).2⟩
      rw [List.cons_append, pieces_plain noTag, pieces_plain noTagThere, renderPieces, renderPieces]
      split
      · rename_i slash
        exact ih (next _ (.inl (by rw [slash]; decide)))
      · split
        · rw [ih (next 0 (.inr rfl)), List.append_assoc, List.cons_append]
        · rw [ih (next 0 (.inr rfl)), List.append_assoc, List.cons_append]
  | tag tag cs isTag ih =>
      have isTagThere := tagAt?_append isTag (cs ++ rest)
      have nonempty : tag ++ cs ≠ [] := by
        obtain ⟨_, _, _, _, _, rfl, _⟩ := exists_of_tagAt? isTag
        simp
      obtain ⟨before, ends⟩ := closes.resolve_left (fun nothing => nonempty nothing.1)
      have next : (cs = [] ∧ 0 = 0) ∨ ∃ before, cs = before ++ [']'] := by
        rcases List.append_eq_append_iff.1 ends with ⟨more, _, last⟩ | ⟨more, _, last⟩
        · exact .inr ⟨more, last⟩
        · cases more with
          | nil => exact .inr ⟨[], last.symm⟩
          | cons d more =>
              have nothing := (List.append_eq_nil_iff.1 (List.cons.inj last).2.symm).2
              exact .inl ⟨nothing, rfl⟩
      rw [List.append_assoc, pieces_tag isTag, pieces_tag isTagThere, renderPieces, renderPieces,
        ih next]
      simp only [List.append_assoc]

/-- Rendering starts anew behind a closing bracket and unmarked text. -/
theorem render_closing_append (cs : List Char) {ds : List Char} (unmarked : Unmarked ds)
    (rest : List Char) :
    render (cs ++ ']' :: ds ++ rest) = render (cs ++ ']' :: ds) ++ render rest := by
  have closes : (cs ++ [']'] = [] ∧ 0 = 0) ∨ ∃ before, cs ++ [']'] = before ++ [']'] :=
    .inr ⟨cs, rfl⟩
  have alone (behind : List Char) :
      render (cs ++ ']' :: (ds ++ behind)) = render (cs ++ [']']) ++ (ds ++ render behind) := by
    have rendered := renderPieces_append_closing closes (ds ++ behind)
    rw [render_append unmarked] at rendered
    simpa [render] using rendered
  have nothing : render [] = [] := rfl
  have lone := alone []
  rw [List.append_nil, nothing, List.append_nil] at lone
  rw [List.append_assoc, List.cons_append, alone, lone, List.append_assoc]

end Display.Markup

/-! ### Templates -/

open Display Report CommandLine

/-- A string with markup that ends in escaped text. -/
inductive Template where
  /-- The first line on a failure, with the label of its kind. -/
  | headline (label : List Char)
  /-- The source line on a failure. -/
  | source
  /-- A cell of the table: an expression, or what came of it. -/
  | cell
  /-- What is wrong with a variable of the environment. -/
  | badVariable
  /-- That a file does not exist. -/
  | missingFile

namespace Template

/-- What stands in front of the text. -/
def lead : Template → List Char
  | headline label => styled "red" ("Error (".toList ++ label ++ "):".toList) ++ " ".toList
  | source => "  ".toList
  | cell => []
  | badVariable => styled "red" "Invalid configuration:".toList ++ " ".toList
  | missingFile => styled "red" "Error:".toList ++ " File not found: ".toList

/-- The template with a text. -/
def fill (template : Template) (cs : List Char) : List Char :=
  template.lead ++ Markup.escape cs

/-- What the template shows of itself.  The label of an unknown kind may hold markup of its own. -/
def caption : Template → List Char
  | headline label => Markup.render (headline label).lead
  | source => "  ".toList
  | cell => []
  | badVariable => "Invalid configuration: ".toList
  | missingFile => "Error: File not found: ".toList

/-- A red label and unmarked text do not interfere with what stands behind them. -/
theorem render_red_append (label : List Char) {after : List Char}
    (unmarked : Markup.Unmarked after) (rest : List Char) :
    Markup.render (styled "red" label ++ after ++ rest) =
      Markup.render (styled "red" label ++ after) ++ Markup.render rest := by
  have split : styled "red" label ++ after =
      ("[red]".toList ++ label ++ "[/red".toList) ++ ']' :: after := by
    simp [styled]
  rw [split]
  exact Markup.render_closing_append _ unmarked rest

/-- A red label without marks is shown as it is, and so is what follows it. -/
theorem render_red {label after : List Char} (unmarked : Markup.Unmarked label)
    (unmarkedToo : Markup.Unmarked after) :
    Markup.render (styled "red" label ++ after) = label ++ after := by
  have bracketless : Markup.Bracketless ['r', 'e', 'd'] := by decide
  have unmarkedNothing : Markup.Unmarked [] := by decide
  have styledAlone : Markup.render (styled "red" label) = label :=
    Markup.render_styled rfl rfl bracketless unmarkedNothing unmarked
  have split := render_red_append label unmarkedNothing after
  rw [List.append_nil, styledAlone, Markup.render_of_unmarked unmarkedToo] at split
  exact split

/-- The template does not interfere with the text behind it. -/
theorem render_fill (template : Template) (cs : List Char) :
    Markup.render (template.fill cs) = template.caption ++ Markup.render (Markup.escape cs) := by
  cases template with
  | headline label => exact render_red_append _ (by decide) _
  | source => exact Markup.render_append (by decide) _
  | cell => rfl
  | badVariable =>
      have words : "Invalid configuration:".toList ++ " ".toList =
          "Invalid configuration: ".toList := by
        simp
      have shown : Markup.render badVariable.lead = badVariable.caption :=
        (render_red (by decide) (by decide)).trans words
      rw [← shown]
      exact render_red_append _ (by decide) _
  | missingFile =>
      have words : "Error:".toList ++ " File not found: ".toList =
          "Error: File not found: ".toList := by
        simp
      have shown : Markup.render missingFile.lead = missingFile.caption :=
        (render_red (by decide) (by decide)).trans words
      rw [← shown]
      exact render_red_append _ (by decide) _

/-- The strings of the program are filled templates: what goes into a diagnosis of a failure, into
the table, and into a message about a variable or a file. -/
structure Cover : Prop where
  headline : ∀ outcome : Outcome,
    Report.headline outcome = (headline (kindLabel outcome.kind)).fill (messageText outcome)
  source : ∀ (cs : List Char) (position : Int),
    (excerpt cs position).head? =
      some (source.fill (sourceLine cs (placeOf cs.length position)).1)
  expression : ∀ (outcome : Outcome) (number : Nat),
    (summaryRow outcome number)[1]? =
      some (Report.cell (cell.fill outcome.expression.display.toList))
  result : ∀ outcome : Outcome, outcome.ok = false →
    resultCell outcome =
      cell.fill (if outcome.position = .null then outcome.error.display.toList
        else (outcome.error.display ++ " (col " ++ outcome.position.display ++ ")").toList)
  environments : ∀ (environment : Environment) (options : Options) (bad : BadVariable),
    Limits.ofEnvironment environment = .error bad →
      findLimits environment options =
        .error { stderr := message (badVariable.fill bad.message.toList), exit := 2 }
  files : ∀ (surroundings : Surroundings) (name : String),
    name ≠ "-" → surroundings.file name = none →
      readSource surroundings name =
        .ok (.error { stderr := message (missingFile.fill name.toList), exit := 2 })

theorem cover : Cover where
  headline := by
    intro outcome
    have written : styled "red" ("Error (".toList ++ kindLabel outcome.kind ++ "):".toList) ++
        " ".toList = "[red]Error (".toList ++ kindLabel outcome.kind ++ "):[/red] ".toList := by
      simp [styled]
    unfold Report.headline
    rw [← written]
    rfl
  source := by
    intro cs position
    rfl
  expression := by
    intro outcome number
    rfl
  result := by
    intro outcome failed
    rw [resultCell, if_neg (by simp [failed])]
    split
    · rfl
    · rfl
  environments := by
    intro environment options bad wrong
    have written : styled "red" "Invalid configuration:".toList ++ " ".toList =
        "[red]Invalid configuration:[/red] ".toList := by
      simp [styled]
    rw [findLimits, wrong]
    dsimp only
    rw [← written]
    rfl
  files := by
    intro surroundings name named missing
    have written : styled "red" "Error:".toList ++ " File not found: ".toList =
        "[red]Error:[/red] File not found: ".toList := by
      simp [styled]
    rw [readSource, if_neg named, missing]
    dsimp only
    rw [← written]
    rfl

/-- What the headline of a failure shows besides the message. -/
theorem caption_headline (category : Category) :
    (headline (kindLabel (.text category.name))).caption = labelText category ++ " ".toList :=
  render_red (unmarked_labelText category) (by decide)

/-- **Escaped text is shown as it was written**, behind what the template shows of itself, if and
only if it does not end in a single backslash and every bracket behind a backslash starts a tag.  So
text without backslashes is always shown as it was written, tags included.  All strings of the
program that end in escaped text are such templates. -/
theorem fill_shows_verbatim_iff (template : Template) (cs : List Char) :
    (Markup.render (template.fill cs) = template.caption ++ cs ↔ Markup.Verbatim cs) ∧
      ('\\' ∉ cs → Markup.render (template.fill cs) = template.caption ++ cs) ∧
        (∀ category : Category, (headline (kindLabel (.text category.name))).caption =
          labelText category ++ " ".toList) ∧ Cover := by
  have shown : Markup.render (template.fill cs) = template.caption ++ cs ↔ Markup.Verbatim cs := by
    rw [render_fill, List.append_cancel_left_eq, Markup.render_escape_eq_iff]
  refine ⟨shown, ?_, caption_headline, cover⟩
  intro noSlash
  exact shown.2 (Markup.verbatim_of_no_slash noSlash)

/-- The name of a missing file looks like a style that is opened and closed. -/
theorem missingFile_shows_tags :
    '\\' ∉ "[red]1[/red]".toList ∧
      Markup.render (missingFile.fill "[red]1[/red]".toList) =
        "Error: File not found: ".toList ++ "[red]1[/red]".toList := by
  have noSlash : '\\' ∉ "[red]1[/red]".toList := by decide
  exact ⟨noSlash, (fill_shows_verbatim_iff missingFile _).2.1 noSlash⟩

/-- A backslash in front of a bracket without a tag is lost. -/
example : Markup.render (cell.fill "1 \\[2".toList) = "1 [2".toList := by decide

end Template

end Abacus
