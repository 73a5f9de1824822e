/-
Module: Abacus.Proofs.JsonCharacters
Purpose: JSON text holds the characters from the space to the tilde, and line ends if indented.
Main exports: Json.Shown, Json.Layout.Emits, Json.shown_escape, Json.emits_write
-/
import Abacus.Proofs.JsonNumbers

namespace Abacus.Json

open Text

/-- A character that JSON text shows as it is. -/
def Shown (c : Char) : Prop :=
  ' ' ≤ c ∧ c ≤ '~'

instance : DecidablePred Shown :=
  fun c => inferInstanceAs (Decidable (' ' ≤ c ∧ c ≤ '~'))

/-- A given text is shown if a check of its characters says so. -/
theorem shown_of_all {cs : List Char} (checked : (cs.all fun c => decide (Shown c)) = true) :
    ∀ c ∈ cs, Shown c := by
  intro c mem
  exact of_decide_eq_true (List.all_eq_true.1 checked c mem)

/-- The text holds nothing but characters that are shown, and line ends where the layout breaks
lines. -/
def Layout.Emits (layout : Layout) (cs : List Char) : Prop :=
  ∀ c ∈ cs, Shown c ∨ layout ≠ .compact ∧ c = '\n'

namespace Layout

variable {layout : Layout} {cs ds : List Char} {c : Char}

theorem emits_nil : layout.Emits [] := by
  simp [Emits]

theorem emits_append : layout.Emits (cs ++ ds) ↔ layout.Emits cs ∧ layout.Emits ds := by
  simp [Emits, or_imp, forall_and]

theorem emits_of_shown (shown : ∀ c ∈ cs, Shown c) : layout.Emits cs :=
  fun c mem => .inl (shown c mem)

theorem emits_cons (shown : Shown c) : layout.Emits (c :: cs) ↔ layout.Emits cs := by
  simp [Emits, shown]

end Layout

/-! ### Numbers and texts -/

theorem shown_of_isDigit {c : Char} (digit : c.isDigit = true) : Shown c := by
  rw [Char.isDigit_iff_toNat] at digit
  exact ⟨Nat.le_trans (by decide) digit.1, Nat.le_trans digit.2 (by decide)⟩

theorem shown_toDigits (n : Nat) : ∀ c ∈ Nat.toDigits 10 n, Shown c :=
  fun c mem => shown_of_isDigit (isDigit_of_mem_digits n c mem)

theorem shown_integer (n : Int) : ∀ c ∈ (toString n).toList, Shown c := by
  cases n with
  | negSucc n =>
      rw [toList_toString_negSucc]
      exact List.forall_mem_cons.2 ⟨by decide, shown_toDigits (n + 1)⟩
  | ofNat n =>
      rw [toList_toString_ofNat]
      exact shown_toDigits n

theorem emits_decimal (layout : Layout) (d : Decimal) : layout.Emits (writeDecimal d) := by
  have sign : ∀ c ∈ if d.negative then ['-'] else [], Shown c := by
    cases d.negative with
    | true => exact shown_of_all rfl
    | false => exact shown_of_all rfl
  have digits : ∀ c ∈ (toString d.digits).toList, Shown c := by
    rw [toList_toString_nat]
    exact shown_toDigits d.digits
  rw [writeDecimal, Layout.emits_append, Layout.emits_append, Layout.emits_cons (by decide)]
  exact ⟨⟨Layout.emits_of_shown sign, Layout.emits_of_shown digits⟩,
    Layout.emits_of_shown (shown_integer d.exponent)⟩

theorem shown_hexDigits (width n : Nat) : ∀ c ∈ hexDigits width n, Shown c := by
  have digits : ∀ d : Fin 16, Shown (Nat.digitChar d.val) := by decide
  induction width generalizing n with
  | zero => simp [hexDigits]
  | succ width ih =>
      intro c mem
      rcases List.mem_append.1 mem with earlier | last
      · exact ih (n / 16) c earlier
      · rw [List.mem_singleton.1 last]
        exact digits ⟨n % 16, Nat.mod_lt n (by decide)⟩

theorem shown_escapeUnit (unit : Nat) : ∀ c ∈ escapeUnit unit, Shown c := by
  intro c mem
  rcases List.mem_cons.1 mem with rfl | mem
  · decide
  · rcases List.mem_cons.1 mem with rfl | mem
    · decide
    · exact shown_hexDigits 4 unit c mem

theorem shown_escapeCode (code : Nat) : ∀ c ∈ escapeCode code, Shown c := by
  unfold escapeCode
  split
  · exact shown_escapeUnit code
  · intro c mem
    rcases List.mem_append.1 mem with first | second
    · exact shown_escapeUnit _ c first
    · exact shown_escapeUnit _ c second

/-- However a character is written, what is written is shown. -/
theorem shown_escape (c : Char) : ∀ d ∈ escape c, Shown d := by
  unfold escape
  split
  · rename_i marked
    rcases marked with rfl | rfl
    · exact shown_of_all rfl
    · exact shown_of_all rfl
  · split
    · exact shown_of_all rfl
    · split
      · exact shown_of_all rfl
      · split
        · exact shown_of_all rfl
        · split
          · exact shown_of_all rfl
          · split
            · exact shown_of_all rfl
            · split
              · rename_i shown
                intro d mem
                rw [List.mem_singleton.1 mem]
                exact shown
              · exact shown_escapeCode c.toNat

theorem emits_quote (layout : Layout) (s : String) : layout.Emits (quote s) := by
  have inner : ∀ d ∈ s.toList.flatMap escape, Shown d := by
    intro d mem
    obtain ⟨c, _, written⟩ := List.mem_flatMap.1 mem
    exact shown_escape c d written
  rw [quote, Layout.emits_append, Layout.emits_cons (by decide), Layout.emits_cons (by decide)]
  exact ⟨Layout.emits_of_shown inner, Layout.emits_nil⟩

/-! ### Layouts -/

theorem emits_lineBreak (layout : Layout) (level : Nat) :
    layout.Emits (layout.lineBreak level) := by
  intro c mem
  cases layout with
  | compact => cases mem
  | indented width =>
      rcases List.mem_cons.1 mem with rfl | space
      · exact .inr ⟨by simp, rfl⟩
      · rw [List.eq_of_mem_replicate space]
        exact .inl (by decide)

theorem emits_separator (layout : Layout) (level : Nat) :
    layout.Emits (layout.separator level) := by
  cases layout with
  | compact =>
      exact Layout.emits_of_shown (shown_of_all rfl)
  | indented width =>
      rw [Layout.separator, Layout.emits_cons (by decide)]
      exact emits_lineBreak (.indented width) level

/-! ### Values -/

mutual

/-- The text of a value holds only the characters of its layout. -/
theorem emits_write (layout : Layout) : ∀ (level : Nat) (value : Json),
    layout.Emits (write layout level value)
  | _, null => by
      rw [write]
      exact Layout.emits_of_shown (shown_of_all rfl)
  | _, bool true => by
      rw [write]
      exact Layout.emits_of_shown (shown_of_all rfl)
  | _, bool false => by
      rw [write]
      exact Layout.emits_of_shown (shown_of_all rfl)
  | _, int value => Layout.emits_of_shown (shown_integer value)
  | _, decimal value => emits_decimal layout value
  | _, text value => emits_quote layout value
  | _, list [] => by
      rw [write]
      exact Layout.emits_of_shown (shown_of_all rfl)
  | level, list (item :: items) => by
      rw [write, Layout.emits_append, Layout.emits_append, Layout.emits_append, Layout.emits_append,
        Layout.emits_cons (by decide)]
      exact ⟨⟨⟨⟨emits_lineBreak layout (level + 1), emits_write layout (level + 1) item⟩,
        emits_writeItems layout (level + 1) items⟩, emits_lineBreak layout level⟩,
        Layout.emits_of_shown (shown_of_all rfl)⟩
  | _, object [] => by
      rw [write]
      exact Layout.emits_of_shown (shown_of_all rfl)
  | level, object ((name, item) :: fields) => by
      rw [write, Layout.emits_append, Layout.emits_append, Layout.emits_append, Layout.emits_append,
        Layout.emits_append, Layout.emits_cons (by decide), Layout.emits_cons (by decide),
        Layout.emits_cons (by decide)]
      exact ⟨⟨⟨⟨⟨emits_lineBreak layout (level + 1), emits_quote layout name⟩,
        emits_write layout (level + 1) item⟩, emits_writeFields layout (level + 1) fields⟩,
        emits_lineBreak layout level⟩, Layout.emits_of_shown (shown_of_all rfl)⟩

/-- So do the items after the first. -/
theorem emits_writeItems (layout : Layout) : ∀ (level : Nat) (items : List Json),
    layout.Emits (writeItems layout level items)
  | _, [] => Layout.emits_nil
  | level, item :: items => by
      rw [writeItems, Layout.emits_append, Layout.emits_append]
      exact ⟨⟨emits_separator layout level, emits_write layout level item⟩,
        emits_writeItems layout level items⟩

/-- So do the fields after the first. -/
theorem emits_writeFields (layout : Layout) : ∀ (level : Nat) (fields : List (String × Json)),
    layout.Emits (writeFields layout level fields)
  | _, [] => Layout.emits_nil
  | level, (name, item) :: fields => by
      rw [writeFields, Layout.emits_append, Layout.emits_append, Layout.emits_append,
        Layout.emits_cons (by decide), Layout.emits_cons (by decide)]
      exact ⟨⟨⟨emits_separator layout level, emits_quote layout name⟩,
        emits_write layout level item⟩, emits_writeFields layout level fields⟩

end

end Abacus.Json
