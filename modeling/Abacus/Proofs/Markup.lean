/-
Module: Abacus.Proofs.Markup
Purpose: What escaping and rendering do to text that can be no part of a tag.
Main exports: cut_induction, text_pieces, mem_escape, mem_render, Unmarked, render_append,
  prefix_escape_append, escape_of_unmarked, pieces_styled, render_styled
-/
import Abacus.Display.Markup
import Abacus.Report.Wording

namespace Abacus.Display.Markup

/-!
Cutting a text into pieces loses nothing of it, so whatever escaping and rendering write comes from
the text, apart from backslashes.  And where a text has neither brackets nor backslashes, each of
its characters is a piece that both of them copy, whatever text follows.
-/

/-! ### Pieces -/

/-- The characters of a piece. -/
def Piece.text : Piece → List Char
  | plain c => [c]
  | tag text => text

/-- A text without brackets. -/
def Bracketless (cs : List Char) : Prop :=
  ∀ c ∈ cs, c ≠ '[' ∧ c ≠ ']'

instance (cs : List Char) : Decidable (Bracketless cs) :=
  List.decidableBAll (fun c => c ≠ '[' ∧ c ≠ ']') cs

theorem Bracketless.of_cons {c : Char} {cs : List Char} (bracketless : Bracketless (c :: cs)) :
    Bracketless cs :=
  (List.forall_mem_cons.1 bracketless).2

theorem Bracketless.append {cs ds : List Char} (first : Bracketless cs) (second : Bracketless ds) :
    Bracketless (cs ++ ds) :=
  List.forall_mem_append.2 ⟨first, second⟩

theorem decide_of_bracketless {cs : List Char} (bracketless : Bracketless cs) :
    ∀ c ∈ cs, decide (c ≠ '[' ∧ c ≠ ']') = true :=
  fun c mem => decide_eq_true (bracketless c mem)

theorem tagAt?_of_ne {c : Char} (other : c ≠ '[') (cs : List Char) : tagAt? (c :: cs) = none := by
  unfold tagAt?
  split
  · rename_i same
    cases same
    exact absurd rfl other
  · rfl

/-- A bracket, what may start a tag, no brackets up to the closing one: this is a tag, whatever
follows. -/
theorem tagAt?_tag {c : Char} (starts : startsTag c = true) {style : List Char}
    (bracketless : Bracketless style) (rest : List Char) :
    tagAt? ('[' :: c :: (style ++ ']' :: rest)) = some ('[' :: c :: (style ++ [']'])) := by
  have inner := decide_of_bracketless bracketless
  have taken : (style ++ ']' :: rest).takeWhile (fun d => d ≠ '[' ∧ d ≠ ']') = style := by
    rw [List.takeWhile_append_of_pos inner]
    simp
  have left : (style ++ ']' :: rest).dropWhile (fun d => d ≠ '[' ∧ d ≠ ']') = ']' :: rest := by
    rw [List.dropWhile_append_of_pos inner]
    simp
  rw [tagAt?, if_pos starts, left, taken]
  rfl

/-- Every tag is of that form. -/
theorem exists_of_tagAt? {cs tag : List Char} (isTag : tagAt? cs = some tag) :
    ∃ c style rest, startsTag c = true ∧ Bracketless style ∧
      tag = '[' :: c :: (style ++ [']']) ∧ cs = '[' :: c :: (style ++ ']' :: rest) := by
  unfold tagAt? at isTag
  split at isTag
  · rename_i c cs
    split at isTag
    · rename_i starts
      split at isTag
      · rename_i rest closes
        cases isTag
        have parts := List.takeWhile_append_dropWhile (p := fun d => d ≠ '[' ∧ d ≠ ']') (l := cs)
        rw [closes] at parts
        refine ⟨c, _, rest, starts, ?_, rfl, by rw [parts]⟩
        intro d mem
        exact of_decide_eq_true (List.all_eq_true.1 List.all_takeWhile d mem)
      · cases isTag
    · cases isTag
  · cases isTag

/-- A tag at the start of a text is one at the start of any other text. -/
theorem tagAt?_append {tag rest : List Char} (isTag : tagAt? (tag ++ rest) = some tag)
    (other : List Char) : tagAt? (tag ++ other) = some tag := by
  obtain ⟨c, style, _, starts, bracketless, rfl, _⟩ := exists_of_tagAt? isTag
  simpa using tagAt?_tag starts bracketless other

/-- Behind a piece that has been cut off the text is cut on. -/
theorem piecesFrom_append (cs rest : List Char) :
    piecesFrom cs.length (cs ++ rest) = pieces rest := by
  induction cs with
  | nil => rfl
  | cons c cs ih => rw [List.length_cons, List.cons_append, piecesFrom, ih]

theorem pieces_plain {c : Char} {cs : List Char} (noTag : tagAt? (c :: cs) = none) :
    pieces (c :: cs) = .plain c :: pieces cs := by
  rw [pieces, piecesFrom, noTag]
  rfl

theorem pieces_tag {tag rest : List Char} (isTag : tagAt? (tag ++ rest) = some tag) :
    pieces (tag ++ rest) = .tag tag :: pieces rest := by
  obtain ⟨c, style, _, _, _, rfl, _⟩ := exists_of_tagAt? isTag
  rw [List.cons_append] at isTag ⊢
  rw [pieces, piecesFrom, isTag]
  dsimp only
  rw [List.length_cons, Nat.add_sub_cancel, piecesFrom_append]

/-- A text is cut piece by piece: it is empty, or a character stands in front that starts no tag,
or a tag does. -/
@[elab_as_elim] theorem cut_induction {motive : List Char → Prop} (nil : motive [])
    (plain : ∀ c cs, tagAt? (c :: cs) = none → motive cs → motive (c :: cs))
    (tag : ∀ tag rest, tagAt? (tag ++ rest) = some tag → motive rest → motive (tag ++ rest))
    (cs : List Char) : motive cs := by
  cases cs with
  | nil => exact nil
  | cons c cs =>
      cases isTag : tagAt? (c :: cs) with
      | none => exact plain c cs isTag (cut_induction nil plain tag cs)
      | some found =>
          obtain ⟨d, style, rest, _, _, rfl, split⟩ := exists_of_tagAt? isTag
          have split : c :: cs = '[' :: d :: (style ++ [']']) ++ rest := by simpa using split
          have shorter : rest.length < (c :: cs).length := by
            rw [split, List.length_append, List.length_cons]
            omega
          rw [split] at isTag ⊢
          exact tag _ rest isTag (cut_induction nil plain tag rest)
termination_by cs.length
decreasing_by
  · exact Nat.lt_succ_self cs.length
  · exact shorter

/-- The pieces together are the text. -/
theorem text_pieces (cs : List Char) : (pieces cs).flatMap Piece.text = cs := by
  induction cs using cut_induction with
  | nil => rfl
  | plain c cs noTag ih => rw [pieces_plain noTag, List.flatMap_cons, ih, Piece.text]; rfl
  | tag tag rest isTag ih => rw [pieces_tag isTag, List.flatMap_cons, ih, Piece.text]

/-! ### Where characters come from -/

theorem mem_escapePieces {c : Char} {slashes : Nat} {parts : List Piece}
    (mem : c ∈ escapePieces slashes parts) : c = '\\' ∨ c ∈ parts.flatMap Piece.text := by
  induction parts generalizing slashes with
  | nil => cases mem
  | cons part parts ih =>
      rw [List.flatMap_cons, List.mem_append]
      cases part with
      | plain d =>
          rcases List.mem_cons.1 mem with rfl | later
          · exact .inr (.inl (List.mem_singleton.2 rfl))
          · exact (ih later).imp_right .inr
      | tag text =>
          rw [escapePieces, List.mem_append, List.mem_append] at mem
          rcases mem with (slash | here) | later
          · exact .inl (List.eq_of_mem_replicate slash)
          · exact .inr (.inl here)
          · exact (ih later).imp_right .inr

theorem mem_closeSlash {c : Char} {cs : List Char} (mem : c ∈ closeSlash cs) :
    c = '\\' ∨ c ∈ cs := by
  unfold closeSlash at mem
  split at mem
  · exact .inr mem
  · rcases List.mem_append.1 mem with before | slash
    · exact .inr before
    · exact .inl (List.mem_singleton.1 slash)
  · exact .inr mem

/-- Escaping adds nothing but backslashes. -/
theorem mem_escape {c : Char} {cs : List Char} (mem : c ∈ escape cs) : c = '\\' ∨ c ∈ cs := by
  rcases mem_closeSlash mem with slash | before
  · exact .inl slash
  · simpa only [text_pieces] using mem_escapePieces before

theorem mem_renderPieces {c : Char} {slashes : Nat} {parts : List Piece}
    (mem : c ∈ renderPieces slashes parts) : c = '\\' ∨ c ∈ parts.flatMap Piece.text := by
  induction parts generalizing slashes with
  | nil => exact .inl (List.eq_of_mem_replicate mem)
  | cons part parts ih =>
      rw [List.flatMap_cons, List.mem_append]
      cases part with
      | plain d =>
          have shown : c ∈ [d] ∨ c = '\\' ∨ c ∈ parts.flatMap Piece.text := by
            rw [renderPieces] at mem
            split at mem
            · exact .inr (ih mem)
            · split at mem
              all_goals
                rcases List.mem_append.1 mem with slash | others
                · exact .inr (.inl (List.eq_of_mem_replicate slash))
                · rcases List.mem_cons.1 others with rfl | later
                  · exact .inl (List.mem_singleton.2 rfl)
                  · exact .inr (ih later)
          rcases shown with here | slash | later
          · exact .inr (.inl here)
          · exact .inl slash
          · exact .inr (.inr later)
      | tag text =>
          rw [renderPieces, List.mem_append, List.mem_append] at mem
          rcases mem with (slash | here) | later
          · exact .inl (List.eq_of_mem_replicate slash)
          · split at here
            · exact .inr (.inl here)
            · cases here
          · exact (ih later).imp_right .inr

/-- Rendering shows nothing that is not in the text, apart from backslashes. -/
theorem mem_render {c : Char} {cs : List Char} (mem : c ∈ render cs) : c = '\\' ∨ c ∈ cs := by
  simpa only [text_pieces] using mem_renderPieces mem

/-! ### Text without marks -/

/-- Neither brackets nor backslashes occur, so nothing in the text can act as markup. -/
def Unmarked (cs : List Char) : Prop :=
  ∀ c ∈ cs, c ≠ '[' ∧ c ≠ '\\'

instance (cs : List Char) : Decidable (Unmarked cs) :=
  List.decidableBAll (fun c => c ≠ '[' ∧ c ≠ '\\') cs

theorem Unmarked.of_cons {c : Char} {cs : List Char} (unmarked : Unmarked (c :: cs)) :
    (c ≠ '[' ∧ c ≠ '\\') ∧ Unmarked cs :=
  List.forall_mem_cons.1 unmarked

theorem Unmarked.append {cs ds : List Char} (first : Unmarked cs) (second : Unmarked ds) :
    Unmarked (cs ++ ds) :=
  List.forall_mem_append.2 ⟨first, second⟩

variable {cs : List Char}

/-- Where no tag can start, every character is a piece of its own. -/
theorem pieces_append (noBracket : ∀ c ∈ cs, c ≠ '[') (rest : List Char) :
    pieces (cs ++ rest) = cs.map .plain ++ pieces rest := by
  induction cs with
  | nil => rfl
  | cons c cs ih =>
      have others : ∀ d ∈ cs, d ≠ '[' := fun d mem => noBracket d (List.mem_cons_of_mem c mem)
      have first : tagAt? (c :: (cs ++ rest)) = none :=
        tagAt?_of_ne (noBracket c List.mem_cons_self) _
      rw [List.cons_append, pieces_plain first, ih others]
      rfl

theorem Unmarked.noBracket (unmarked : Unmarked cs) : ∀ c ∈ cs, c ≠ '[' :=
  fun c mem => (unmarked c mem).1

theorem escapePieces_append (unmarked : Unmarked cs) (parts : List Piece) :
    escapePieces 0 (cs.map .plain ++ parts) = cs ++ escapePieces 0 parts := by
  induction cs with
  | nil => rfl
  | cons c cs ih =>
      obtain ⟨⟨_, noSlash⟩, others⟩ := unmarked.of_cons
      rw [List.map_cons, List.cons_append, escapePieces, if_neg noSlash, ih others]
      rfl

theorem renderPieces_append (unmarked : Unmarked cs) (parts : List Piece) :
    renderPieces 0 (cs.map .plain ++ parts) = cs ++ renderPieces 0 parts := by
  induction cs with
  | nil => rfl
  | cons c cs ih =>
      obtain ⟨⟨noBracket, noSlash⟩, others⟩ := unmarked.of_cons
      rw [List.map_cons, List.cons_append, renderPieces, if_neg noSlash, if_neg noBracket,
        ih others]
      rfl

/-- What is in front of other text is shown in front of it. -/
theorem render_append (unmarked : Unmarked cs) (rest : List Char) :
    render (cs ++ rest) = cs ++ render rest := by
  rw [render, pieces_append unmarked.noBracket, renderPieces_append unmarked]
  rfl

/-- A text without marks is shown as it is. -/
theorem render_of_unmarked (unmarked : Unmarked cs) : render cs = cs := by
  have alone := render_append unmarked []
  have nothing : render [] = [] := rfl
  rwa [List.append_nil, nothing, List.append_nil] at alone

theorem prefix_closeSlash (cs : List Char) : cs <+: closeSlash cs := by
  unfold closeSlash
  split
  · exact List.prefix_refl cs
  · exact List.prefix_append cs ['\\']
  · exact List.prefix_refl cs

/-- Escaping leaves what is in front of other text as it is. -/
theorem prefix_escape_append (unmarked : Unmarked cs) (rest : List Char) :
    cs <+: escape (cs ++ rest) := by
  rw [escape, pieces_append unmarked.noBracket, escapePieces_append unmarked]
  exact (List.prefix_append cs _).trans (prefix_closeSlash _)

/-- A text without marks needs no escaping. -/
theorem escape_of_unmarked (unmarked : Unmarked cs) : escape cs = cs := by
  have whole := escapePieces_append unmarked []
  have parts := pieces_append unmarked.noBracket []
  simp only [List.append_nil] at whole parts
  have last : pieces [] = [] := rfl
  rw [escape, parts, last, List.append_nil, whole]
  simp only [escapePieces, List.append_nil]
  unfold closeSlash
  split
  · rfl
  · rename_i rest _ ends
    have slash : '\\' ∈ cs := by
      rw [← List.mem_reverse, ends]
      exact List.mem_cons_self
    exact absurd rfl (unmarked _ slash).2
  · rfl

/-! ### Styles -/

/-- The pieces of styled text are the characters between two tags. -/
theorem pieces_styled {style : String} {c : Char} {others : List Char}
    (name : style.toList = c :: others) (starts : startsTag c = true)
    (bracketless : Bracketless (c :: others)) (unmarked : Unmarked cs) (rest : List Char) :
    pieces (Report.styled style cs ++ rest) =
      .tag ('[' :: style.toList ++ [']']) ::
        (cs.map .plain ++ .tag ('[' :: '/' :: style.toList ++ [']']) :: pieces rest) := by
  have behind : pieces ('[' :: '/' :: style.toList ++ [']'] ++ rest) =
      .tag ('[' :: '/' :: style.toList ++ [']']) :: pieces rest := by
    apply pieces_tag
    simpa [name] using tagAt?_tag rfl bracketless rest
  have written : Report.styled style cs ++ rest =
      '[' :: style.toList ++ [']'] ++ (cs ++ ('[' :: '/' :: style.toList ++ [']'] ++ rest)) := by
    simp [Report.styled]
  rw [written, pieces_tag, pieces_append unmarked.noBracket, behind]
  simpa [name] using tagAt?_tag starts bracketless.of_cons _

/-- Styled text is shown without the tags around it. -/
theorem render_styled {style : String} {c : Char} {others before : List Char}
    (name : style.toList = c :: others) (starts : startsTag c = true)
    (bracketless : Bracketless (c :: others)) (unmarkedBefore : Unmarked before)
    (unmarked : Unmarked cs) : render (before ++ Report.styled style cs) = before ++ cs := by
  have parts := pieces_styled name starts bracketless unmarked []
  have nothing : pieces [] = [] := rfl
  rw [List.append_nil, nothing] at parts
  rw [render_append unmarkedBefore, render, parts, renderPieces, renderPieces_append unmarked,
    renderPieces]
  simp [renderPieces, backslashes]

end Abacus.Display.Markup
