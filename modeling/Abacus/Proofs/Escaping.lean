/-
Module: Abacus.Proofs.Escaping
Purpose: Escaped text has no working tags, so it can follow any text and nothing is wrong with it.
Main exports: escapedPieces, pieces_escape, nest_escape, nest_red_opening, nest_red_closing
-/
import Abacus.Display.Nesting
import Abacus.Proofs.Markup

namespace Abacus.Display.Markup

/-!
Escaping writes backslashes in front of tags, and nowhere else but at the end.  What keeps a
bracket from starting a tag is never undone by that: the next bracket behind it is still the next
bracket.  So the escaped text is cut into the pieces of the text, with backslashes between them,
and there is an odd number of backslashes in front of each tag.
-/

/-! ### Cutting escaped text -/

/-- The pieces of escaped text, from the pieces of the text after a run of so many backslashes. -/
def escapedPieces (slashes : Nat) : List Piece → List Piece
  | [] => []
  | .plain c :: rest => .plain c :: escapedPieces (if c = '\\' then slashes + 1 else 0) rest
  | .tag text :: rest =>
      List.replicate (slashes + 1) (.plain '\\') ++ .tag text :: escapedPieces 0 rest

/-- A bracket starts no tag if the text ends before the next one, or if that is another opening
bracket. -/
theorem tagAt?_unclosed {cs rest : List Char} (bracketless : Bracketless cs)
    (unclosed : rest = [] ∨ ∃ more, rest = '[' :: more) : tagAt? ('[' :: (cs ++ rest)) = none := by
  have stops : rest.dropWhile (fun d => d ≠ '[' ∧ d ≠ ']') = rest := by
    rcases unclosed with rfl | ⟨more, rfl⟩
    · rfl
    · simp
  cases cs with
  | nil =>
      rcases unclosed with rfl | ⟨more, rfl⟩
      · rfl
      · rfl
  | cons c cs =>
      have left : (cs ++ rest).dropWhile (fun d => d ≠ '[' ∧ d ≠ ']') = rest := by
        rw [List.dropWhile_append_of_pos (decide_of_bracketless bracketless.of_cons), stops]
      rw [List.cons_append, tagAt?, left]
      rcases unclosed with rfl | ⟨more, rfl⟩
      · simp
      · simp

/-- Whether a bracket starts a tag is settled at the next bracket. -/
theorem tagAt?_closed_eq_none {cs rest : List Char} (bracketless : Bracketless cs)
    (noTag : tagAt? ('[' :: (cs ++ ']' :: rest)) = none) (other : List Char) :
    tagAt? ('[' :: (cs ++ ']' :: other)) = none := by
  cases cs with
  | nil => rfl
  | cons c cs =>
      cases starts : startsTag c with
      | true =>
          rw [List.cons_append, tagAt?_tag starts bracketless.of_cons] at noTag
          cases noTag
      | false =>
          rw [List.cons_append, tagAt?, starts]
          rfl

/-- Plain characters are escaped to themselves. -/
theorem exists_escapePieces_append (slashes : Nat) (cs : List Char) (parts : List Piece) :
    ∃ count, escapePieces slashes (cs.map .plain ++ parts) = cs ++ escapePieces count parts := by
  induction cs generalizing slashes with
  | nil => exact ⟨slashes, rfl⟩
  | cons c cs ih =>
      obtain ⟨count, escaped⟩ := ih (if c = '\\' then slashes + 1 else 0)
      refine ⟨count, ?_⟩
      rw [List.map_cons, List.cons_append, escapePieces, escaped]
      rfl

/-- In front of the first piece that starts with a bracket stand backslashes at most. -/
theorem exists_escapePieces_opening (slashes : Nat) (cs : List Char) :
    ∃ count more, escapePieces slashes (pieces ('[' :: cs)) =
      List.replicate count '\\' ++ '[' :: more := by
  cases isTag : tagAt? ('[' :: cs) with
  | none =>
      rw [pieces_plain isTag]
      exact ⟨0, _, rfl⟩
  | some tag =>
      obtain ⟨c, style, rest, _, _, rfl, split⟩ := exists_of_tagAt? isTag
      have split : '[' :: cs = '[' :: c :: (style ++ [']']) ++ rest := by simpa using split
      rw [split] at isTag ⊢
      rw [pieces_tag isTag, escapePieces, List.append_assoc]
      exact ⟨slashes + 1, _, rfl⟩

theorem bracketless_slashes (count : Nat) : Bracketless (List.replicate count '\\') := by
  intro c mem
  rw [List.eq_of_mem_replicate mem]
  decide

/-- A text has no brackets at all, or there is a first one. -/
theorem exists_bracketless (cs : List Char) :
    ∃ before, Bracketless before ∧
      (cs = before ∨ (∃ more, cs = before ++ '[' :: more) ∨ ∃ more, cs = before ++ ']' :: more) := by
  induction cs with
  | nil => exact ⟨[], by simp [Bracketless], .inl rfl⟩
  | cons c cs ih =>
      by_cases bracket : c = '[' ∨ c = ']'
      · refine ⟨[], by simp [Bracketless], .inr ?_⟩
        exact bracket.imp (fun opening => ⟨cs, by rw [opening]; rfl⟩)
          (fun closing => ⟨cs, by rw [closing]; rfl⟩)
      · obtain ⟨before, bracketless, shape⟩ := ih
        refine ⟨c :: before, ?_, ?_⟩
        · intro d mem
          rcases List.mem_cons.1 mem with rfl | later
          · exact not_or.1 bracket
          · exact bracketless d later
        · rcases shape with whole | ⟨more, whole⟩ | ⟨more, whole⟩
          · exact .inl (by rw [whole])
          · exact .inr (.inl ⟨more, by rw [whole]; rfl⟩)
          · exact .inr (.inr ⟨more, by rw [whole]; rfl⟩)

/-- A bracket that starts no tag starts none when the text behind it is escaped. -/
theorem tagAt?_escaped {cs : List Char} (noTag : tagAt? ('[' :: cs) = none) (slashes count : Nat) :
    tagAt? ('[' :: (escapePieces slashes (pieces cs) ++ List.replicate count '\\')) = none := by
  -- The first bracket behind this one decides, and escaping keeps it the first.
  obtain ⟨before, bracketless, shape⟩ := exists_bracketless cs
  have noBracket : ∀ d ∈ before, d ≠ '[' := fun d mem => (bracketless d mem).1
  rcases shape with rfl | ⟨more, rfl⟩ | ⟨more, rfl⟩
  · have cut := pieces_append noBracket []
    obtain ⟨met, escaped⟩ := exists_escapePieces_append slashes cs (pieces [])
    have ends : escapePieces met (pieces []) = [] := rfl
    have uncut := bracketless.append (bracketless_slashes count)
    rw [List.append_nil] at cut
    rw [cut, escaped, ends, List.append_nil]
    simpa using tagAt?_unclosed uncut (.inl rfl)
  · obtain ⟨met, escaped⟩ := exists_escapePieces_append slashes before (pieces ('[' :: more))
    obtain ⟨slashesThere, rest, opening⟩ := exists_escapePieces_opening met more
    have uncut := bracketless.append (bracketless_slashes slashesThere)
    rw [pieces_append noBracket, escaped, opening]
    simpa using tagAt?_unclosed uncut (.inr ⟨rest ++ List.replicate count '\\', rfl⟩)
  · obtain ⟨met, escaped⟩ := exists_escapePieces_append slashes before (pieces (']' :: more))
    have closing : tagAt? (']' :: more) = none := tagAt?_of_ne (by decide) more
    rw [pieces_append noBracket, escaped, pieces_plain closing, escapePieces, List.append_assoc]
    exact tagAt?_closed_eq_none bracketless noTag _

/-- The pieces of escaped text are those of the text and backslashes. -/
theorem pieces_escapePieces (cs : List Char) (slashes count : Nat) :
    pieces (escapePieces slashes (pieces cs) ++ List.replicate count '\\') =
      escapedPieces slashes (pieces cs) ++ List.replicate count (.plain '\\') := by
  have slashesOnly : ∀ count, ∀ c ∈ List.replicate count '\\', c ≠ '[' :=
    fun count c mem => (bracketless_slashes count c mem).1
  induction cs using cut_induction generalizing slashes with
  | nil =>
      have cut := pieces_append (slashesOnly count) []
      have nothing : pieces [] = [] := rfl
      rw [List.append_nil, nothing, List.append_nil, List.map_replicate] at cut
      exact cut
  | plain c cs noTag ih =>
      have first : tagAt? (c :: (escapePieces (if c = '\\' then slashes + 1 else 0) (pieces cs) ++
          List.replicate count '\\')) = none := by
        by_cases bracket : c = '['
        · rw [bracket] at noTag ⊢
          exact tagAt?_escaped noTag _ count
        · exact tagAt?_of_ne bracket _
      rw [pieces_plain noTag, escapePieces, List.cons_append, pieces_plain first, ih]
      rfl
  | tag tag rest isTag ih =>
      have tagThere := tagAt?_append isTag
        (escapePieces 0 (pieces rest) ++ List.replicate count '\\')
      rw [pieces_tag isTag, escapePieces, List.append_assoc, List.append_assoc,
        pieces_append (slashesOnly _), List.map_replicate, pieces_tag tagThere, ih, escapedPieces,
        List.append_assoc]
      rfl

/-- At most one backslash is written at the end. -/
theorem exists_escape (cs : List Char) :
    ∃ count, escape cs = escapePieces 0 (pieces cs) ++ List.replicate count '\\' := by
  rw [escape, closeSlash]
  split
  · exact ⟨0, by simp⟩
  · exact ⟨1, rfl⟩
  · exact ⟨0, by simp⟩

theorem pieces_escape (cs : List Char) :
    ∃ count, pieces (escape cs) =
      escapedPieces 0 (pieces cs) ++ List.replicate count (.plain '\\') := by
  obtain ⟨count, escaped⟩ := exists_escape cs
  refine ⟨count, ?_⟩
  rw [escaped, pieces_escapePieces]

/-! ### Making sense of tags -/

/-- Backslashes are counted. -/
theorem nest_slashes (position slashes count : Nat) (stack : List Opened) (parts : List Piece) :
    nest position slashes stack (List.replicate count (.plain '\\') ++ parts) =
      nest (position + count) (slashes + count) stack parts := by
  induction count generalizing position slashes with
  | zero => rfl
  | succ count ih =>
      rw [List.replicate_succ, List.cons_append, nest, if_pos rfl, ih, Nat.add_assoc,
        Nat.add_assoc, Nat.add_comm 1]

/-- Escaped pieces open nothing and close nothing. -/
theorem nest_escapedPieces (parts : List Piece) (position slashes count : Nat)
    (stack : List Opened) :
    nest position slashes stack
      (escapedPieces slashes parts ++ List.replicate count (.plain '\\')) = .ok [] := by
  induction parts generalizing position slashes with
  | nil =>
      have rest := nest_slashes position slashes count stack []
      rw [List.append_nil] at rest
      rw [escapedPieces, List.nil_append, rest, nest]
  | cons part parts ih =>
      cases part with
      | plain c =>
          rw [escapedPieces, List.cons_append, nest]
          exact ih _ _
      | tag text =>
          -- The backslashes in front of the tag, as many again, and one more.
          have odd : (slashes + (slashes + 1)) % 2 = 1 := by omega
          rw [escapedPieces, List.append_assoc, nest_slashes, List.cons_append, nest]
          simp only [odd, if_true]
          exact ih _ _

/-- Nothing is wrong with the tags of escaped text, wherever it stands. -/
theorem nest_escape (cs : List Char) (position : Nat) (stack : List Opened) :
    nest position 0 stack (pieces (escape cs)) = .ok [] := by
  obtain ⟨count, cut⟩ := pieces_escape cs
  rw [cut]
  exact nest_escapedPieces (pieces cs) position 0 count stack

/-- Unmarked text neither opens nor closes anything. -/
theorem nest_unmarked {cs : List Char} (unmarked : Unmarked cs) (position : Nat)
    (stack : List Opened) (parts : List Piece) :
    nest position 0 stack (cs.map .plain ++ parts) = nest (position + cs.length) 0 stack parts := by
  induction cs generalizing position with
  | nil => rfl
  | cons c cs ih =>
      obtain ⟨⟨_, noSlash⟩, others⟩ := unmarked.of_cons
      rw [List.map_cons, List.cons_append, nest, if_neg noSlash, ih others, List.length_cons,
        Nat.add_assoc, Nat.add_comm 1]

/-! ### The red label -/

/-- The style of labels, as it is opened by its tag. -/
def redLabel : Opened :=
  { style := "red", parameters := none }

theorem ofName?_red :
    Style.ofName? ['r', 'e', 'd'] = .ok (some { color := some ['r', 'e', 'd'] }) := by
  rfl

theorem normalStyle_red : normalStyle ['r', 'e', 'd'] = .ok "red" := by
  rfl

theorem nest_red_opening (position : Nat) (stack : List Opened) (parts : List Piece) :
    nest position 0 stack (.tag "[red]".toList :: parts) =
      (nest (position + 5) 0 (redLabel :: stack) parts).map (redLabel :: ·) := by
  have tag : Tag.ofText "[red]".toList = .opening ['r', 'e', 'd'] none := by decide
  rw [nest]
  dsimp only
  rw [if_neg (by decide), tag]
  dsimp only
  rw [normalStyle_red]
  rfl

theorem nest_red_closing (position : Nat) (stack : List Opened) (parts : List Piece) :
    nest position 0 (redLabel :: stack) (.tag "[/red]".toList :: parts) =
      nest (position + 6) 0 stack parts := by
  have tag : Tag.ofText "[/red]".toList = .closing ['r', 'e', 'd'] := by decide
  rw [nest]
  dsimp only
  rw [if_neg (by decide), tag]
  dsimp only
  rw [normalStyle_red]
  rfl

end Abacus.Display.Markup
