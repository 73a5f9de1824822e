/-
Module: Abacus.Proofs.Message
Purpose: Whatever an evaluation complains about, its message can be shown as it is.
Main exports: Printable, printable_encode, printable_message, Printable.noNewline
-/
import Mathlib.Data.Char
import Abacus.Failure
import Abacus.Proofs.DecimalDigits

namespace Abacus

open Text

/-!
The words of the messages and all numerals are ASCII characters other than controls, and these are
printable.  Somebody else's text comes into a message only as a quoted literal, which writes what
is not printable with letters and digits.
-/

/-- All characters of the text are printable. -/
def Printable (cs : List Char) : Prop :=
  ∀ c ∈ cs, isPrintable c = true

theorem Printable.append {cs ds : List Char} (first : Printable cs) (second : Printable ds) :
    Printable (cs ++ ds) :=
  List.forall_mem_append.2 ⟨first, second⟩

theorem Printable.cons {c : Char} {cs : List Char} (first : isPrintable c = true)
    (others : Printable cs) : Printable (c :: cs) :=
  List.forall_mem_cons.2 ⟨first, others⟩

/-- A newline is not printable. -/
theorem Printable.noNewline {cs : List Char} (printable : Printable cs) : '\n' ∉ cs := by
  intro mem
  have shown := printable _ mem
  revert shown
  decide +kernel

/-! ### Words and numerals -/

/-- The ASCII characters other than the controls. -/
def asciiRanges : List CodeRange :=
  [⟨0x20, 0x7E⟩]

theorem isPrintable_of_ascii {c : Char} (ascii : CodeRange.covers asciiRanges c = true) :
    isPrintable c = true := by
  have apart : CodeRange.covers unprintableRanges c = false :=
    CodeRange.not_covers_of_apart (by decide +kernel) ascii
  rw [isPrintable, apart]
  rfl

/-- Text in ASCII is printable. -/
theorem printable_of_ascii {cs : List Char} (ascii : cs.all (CodeRange.covers asciiRanges) = true) :
    Printable cs :=
  fun c mem => isPrintable_of_ascii (List.all_eq_true.1 ascii c mem)

theorem printable_toDigits (n : Nat) : Printable (Nat.toDigits 10 n) := by
  intro c mem
  have digit := isDigit_of_mem_digits n c mem
  rw [Char.isDigit_iff_toNat] at digit
  refine isPrintable_of_ascii (CodeRange.covers_iff.2 ⟨_, List.mem_singleton.2 rfl, ?_⟩)
  rw [CodeRange.holds_iff]
  exact ⟨Nat.le_trans (by decide) digit.1, Nat.le_trans digit.2 (by decide)⟩

theorem printable_natural (n : Nat) : Printable (toString n).toList := by
  rw [toList_toString_nat]
  exact printable_toDigits n

theorem printable_integer (n : Int) : Printable (toString n).toList := by
  cases n with
  | ofNat n =>
      rw [toList_toString_ofNat]
      exact printable_toDigits n
  | negSucc n =>
      rw [toList_toString_negSucc]
      exact .cons (isPrintable_of_ascii (by decide)) (printable_toDigits (n + 1))

theorem printable_hexDigits (width n : Nat) : Printable (hexDigits width n) := by
  have ascii : ∀ d : Fin 16, CodeRange.covers asciiRanges (Nat.digitChar d) = true := by decide
  induction width generalizing n with
  | zero => simp [Printable, hexDigits]
  | succ width ih =>
      rw [hexDigits]
      refine (ih (n / 16)).append ?_
      intro c mem
      rw [List.mem_singleton.1 mem]
      exact isPrintable_of_ascii (ascii ⟨n % 16, Nat.mod_lt n (by decide)⟩)

/-! ### Literals -/

theorem printable_escapeCode (code : Nat) : Printable (Quoted.escapeCode code) := by
  have slash : isPrintable '\\' = true := isPrintable_of_ascii (by decide)
  unfold Quoted.escapeCode
  split
  · exact .cons slash (.cons (isPrintable_of_ascii (by decide)) (printable_hexDigits 2 code))
  · split
    · exact .cons slash (.cons (isPrintable_of_ascii (by decide)) (printable_hexDigits 4 code))
    · exact .cons slash (.cons (isPrintable_of_ascii (by decide)) (printable_hexDigits 8 code))

/-- However a character is written, what is written is printable. -/
theorem printable_escape {quote : Char} (quoteShown : isPrintable quote = true) (c : Char) :
    Printable (Quoted.escape quote c) := by
  have slash : isPrintable '\\' = true := isPrintable_of_ascii (by decide)
  unfold Quoted.escape
  split
  · rename_i marked
    have shown : isPrintable c = true := by
      rcases marked with rfl | rfl
      · exact slash
      · exact quoteShown
    exact .cons slash (.cons shown (by simp [Printable]))
  · split
    · exact printable_of_ascii (by decide)
    · split
      · exact printable_of_ascii (by decide)
      · split
        · exact printable_of_ascii (by decide)
        · split
          · rename_i shown
            exact .cons shown (by simp [Printable])
          · exact printable_escapeCode c.toNat

/-- A quoted literal is printable, whatever it quotes. -/
theorem printable_encode (cs : List Char) : Printable (Quoted.encode cs) := by
  have quoteShown : isPrintable (Quoted.quoteFor cs) = true := by
    unfold Quoted.quoteFor
    split
    · exact isPrintable_of_ascii (by decide)
    · exact isPrintable_of_ascii (by decide)
  have inner : Printable (cs.flatMap (Quoted.escape (Quoted.quoteFor cs))) := by
    intro c mem
    obtain ⟨d, _, written⟩ := List.mem_flatMap.1 mem
    exact printable_escape quoteShown d c written
  exact .append (.cons quoteShown inner) (.cons quoteShown (by simp [Printable]))

/-! ### Messages -/

/-- Whatever the cause, its wording is printable. -/
theorem printable_message (cause : Cause) : Printable cause.message.toList := by
  unfold Cause.message
  cases cause with
  | numberExpected => exact printable_of_ascii (by decide)
  | closingExpected => exact printable_of_ascii (by decide)
  | zeroDivisor => exact printable_of_ascii (by decide)
  | nestedTooDeep limit =>
      dsimp only
      rw [String.toList_append]
      exact .append (printable_of_ascii (by decide)) (printable_integer limit)
  | trailing rest =>
      dsimp only
      have quoted : (String.ofList (Quoted.encode rest)).toList = Quoted.encode rest :=
        String.toList_ofList
      rw [String.toList_append, quoted]
      exact .append (printable_of_ascii (by decide)) (printable_encode rest)
  | literalTooLong digits limit =>
      have start : Printable ("number literal has " ++ toString digits).toList := by
        rw [String.toList_append]
        exact .append (printable_of_ascii (by decide)) (printable_natural digits)
      cases limit with
      | none =>
          dsimp only
          rw [String.toList_append]
          exact .append start (printable_of_ascii (by decide))
      | some limit =>
          dsimp only
          rw [String.toList_append, String.toList_append]
          exact .append (.append start (printable_of_ascii (by decide))) (printable_integer limit)

/-- No failure is reported with a character that cannot be shown. -/
theorem printable_diagnostic (failure : Failure) : Printable failure.diagnostic.message.toList := by
  cases failure with
  | fault cause position => exact printable_message cause
  | exhausted => exact printable_of_ascii (by decide)

end Abacus
