/-
Module: Abacus.Proofs.JsonQuotation
Purpose: Text values are read back from their JSON text.
Main exports: Json.readQuoted?_unit, Json.readQuoted?_escape, Json.readQuoted?_quote
-/
import Abacus.Json.Reader
import Abacus.Json.Writer

namespace Abacus.Json

open Text

/-!
A character is written in one of four ways: as itself, by a letter behind a backslash, by one unit
of sixteen bits, or by two.  The reader takes each of them for one character and goes on behind it,
so a whole text is read back character by character.
-/

section Units

variable {before : List Char} {high : Option Nat}

/-- A digit of a unit that more digits follow. -/
theorem readQuoted?_digit {missing value d : Nat} (small : d < 16) (rest : List Char) :
    readQuoted? before (.unit (missing + 2) value) high (Nat.digitChar d :: rest) =
      readQuoted? before (.unit (missing + 1) (16 * value + d)) high rest := by
  rw [readQuoted?, hexValue?_digitChar small]
  dsimp only
  rw [if_pos (by omega : 1 < missing + 2)]
  rfl

/-- The first digits of a unit make up its value so far. -/
theorem readQuoted?_hexDigits (width n : Nat) {missing : Nat} (rest : List Char) :
    readQuoted? before (.unit (missing + 1 + width) 0) high (hexDigits width n ++ rest) =
      readQuoted? before (.unit (missing + 1) (n % Nat.pow 16 width)) high rest := by
  rw [Nat.add_right_comm]
  exact read_hexDigits (fun missing value => readQuoted? before (.unit (missing + 1) value) high)
    (fun _ _ _ rest small => readQuoted?_digit small rest) width n missing rest

/-- A unit is taken for what it comes to behind the unit before. -/
theorem readQuoted?_unit {unit : Nat} (fits : unit < 0x10000) (rest : List Char) :
    readQuoted? before .nothing high (escapeUnit unit ++ rest) =
      match joinUnits? high unit with
      | some (.inl c) => readQuoted? (c :: before) .nothing none rest
      | some (.inr first) => readQuoted? before .nothing (some first) rest
      | none => none := by
  have first : unit / 16 % Nat.pow 16 3 = unit / 16 :=
    Nat.mod_eq_of_lt (show unit / 16 < 4096 by omega)
  have whole : 16 * (unit / 16) + unit % 16 = unit := Nat.div_add_mod unit 16
  have opened : readQuoted? before .nothing high (escapeUnit unit ++ rest) =
      readQuoted? before (.unit 4 0) high (hexDigits 4 unit ++ rest) := by
    simp [escapeUnit, readQuoted?]
  have parts : hexDigits 4 unit ++ rest =
      hexDigits 3 (unit / 16) ++ Nat.digitChar (unit % 16) :: rest := by
    simp [hexDigits]
  rw [opened, parts, readQuoted?_hexDigits 3 (unit / 16), first, readQuoted?,
    hexValue?_digitChar (Nat.mod_lt unit (by decide))]
  simp only [whole]
  rfl

end Units

/-! ### Characters -/

/-- No character has the number of half a pair. -/
theorem toNat_not_surrogate (c : Char) : ¬ (0xD800 ≤ c.toNat ∧ c.toNat < 0xE000) := by
  have valid : c.toNat.isValidChar := c.valid
  unfold Nat.isValidChar at valid
  omega

/-- A character that takes sixteen bits is one unit. -/
theorem joinUnits?_toNat (c : Char) : joinUnits? none c.toNat = some (.inl c) := by
  have apart := toNat_not_surrogate c
  have single : ¬ (0xD800 ≤ c.toNat ∧ c.toNat < 0xDC00) := by omega
  rw [joinUnits?, if_neg single, charOfCode?_toNat]
  rfl

/-- The first half of a pair. -/
theorem joinUnits?_high {unit : Nat} (half : 0xD800 ≤ unit ∧ unit < 0xDC00) :
    joinUnits? none unit = some (.inr unit) := by
  rw [joinUnits?, if_pos half]

/-- Both halves of a pair make up the character that was split. -/
theorem joinUnits?_low (c : Char) (wide : 0x10000 ≤ c.toNat) :
    joinUnits? (some (0xD800 + (c.toNat - 0x10000) / 0x400))
      (0xDC00 + (c.toNat - 0x10000) % 0x400) = some (.inl c) := by
  have small := Nat.mod_lt (c.toNat - 0x10000) (by decide : 0 < 0x400)
  have split := Nat.div_add_mod (c.toNat - 0x10000) 0x400
  have joined : 0x10000 + (0xD800 + (c.toNat - 0x10000) / 0x400 - 0xD800) * 0x400 +
      (0xDC00 + (c.toNat - 0x10000) % 0x400 - 0xDC00) = c.toNat := by omega
  rw [joinUnits?, if_pos (by omega), joined, charOfCode?_toNat]
  rfl

/-- A character is read back from its units. -/
theorem readQuoted?_escapeCode (c : Char) (before rest : List Char) :
    readQuoted? before .nothing none (escapeCode c.toNat ++ rest) =
      readQuoted? (c :: before) .nothing none rest := by
  have top := toNat_lt c
  unfold escapeCode
  split
  · rename_i narrow
    rw [readQuoted?_unit narrow, joinUnits?_toNat]
  · rename_i wide
    have wide : 0x10000 ≤ c.toNat := Nat.not_lt.1 wide
    have half : 0xD800 ≤ 0xD800 + (c.toNat - 0x10000) / 0x400 ∧
        0xD800 + (c.toNat - 0x10000) / 0x400 < 0xDC00 := by omega
    have small := Nat.mod_lt (c.toNat - 0x10000) (by decide : 0 < 0x400)
    rw [List.append_assoc, readQuoted?_unit (by omega), joinUnits?_high half]
    dsimp only
    rw [readQuoted?_unit (by omega), joinUnits?_low c wide]

/-- A character is read back from a letter behind a backslash. -/
theorem readQuoted?_named {letter c : Char} (named : named? letter = some c)
    (before rest : List Char) :
    readQuoted? before .nothing none ('\\' :: letter :: rest) =
      readQuoted? (c :: before) .nothing none rest := by
  have other : letter ≠ 'u' := by
    rintro rfl
    cases named
  simp [readQuoted?, other, named]

/-- **However a character is written, it is read back**, and the reader goes on behind it. -/
theorem readQuoted?_escape (c : Char) (before rest : List Char) :
    readQuoted? before .nothing none (escape c ++ rest) =
      readQuoted? (c :: before) .nothing none rest := by
  unfold escape
  split
  · rename_i marked
    apply readQuoted?_named
    rcases marked with rfl | rfl
    · rfl
    · rfl
  · rename_i unmarked
    split
    · rename_i same
      exact readQuoted?_named (by rw [same]; rfl) before rest
    · split
      · rename_i same
        exact readQuoted?_named (by rw [same]; rfl) before rest
      · split
        · rename_i same
          exact readQuoted?_named (by rw [same]; rfl) before rest
        · split
          · rename_i same
            exact readQuoted?_named (by rw [same]; rfl) before rest
          · split
            · rename_i same
              exact readQuoted?_named (by rw [same]; rfl) before rest
            · split
              · rename_i shown
                obtain ⟨notQuote, notSlash⟩ := not_or.1 unmarked
                have high : ¬ c < ' ' := Char.not_lt.2 shown.1
                simp [readQuoted?, notQuote, notSlash, high]
              · exact readQuoted?_escapeCode c before rest

/-- A text is read back from its characters. -/
theorem readQuoted?_escapes (cs before rest : List Char) :
    readQuoted? before .nothing none (cs.flatMap escape ++ '"' :: rest) =
      some (String.ofList (before.reverse ++ cs), rest) := by
  induction cs generalizing before with
  | nil => simp [readQuoted?]
  | cons c cs ih =>
      rw [List.flatMap_cons, List.append_assoc, readQuoted?_escape, ih]
      simp

/-- A text value is read back behind its first quote. -/
theorem readQuoted?_quote (s : String) (rest : List Char) :
    ∃ inner, quote s ++ rest = '"' :: inner ∧
      readQuoted? [] .nothing none inner = some (s, rest) := by
  refine ⟨s.toList.flatMap escape ++ '"' :: rest, by simp [quote], ?_⟩
  rw [readQuoted?_escapes, List.reverse_nil, List.nil_append, String.ofList_toList]

end Abacus.Json
