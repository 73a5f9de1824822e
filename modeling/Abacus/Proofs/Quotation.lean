/-
Module: Abacus.Proofs.Quotation
Purpose: A message quotes the rest of a text so that it can be read back, and shows nothing else
  than printable characters.
Main exports: Quoted.decodeBody_escape, Quoted.decode_encode, isControlCode,
  evaluate_quotes_remainder
-/
import Abacus.Proofs.Message
import Abacus.Proofs.Positions

namespace Abacus

open Text

/-!
Each character of a text is written in a way that the reader takes for this one character, wherever
it stands: a backslash starts an escape and nothing else does, and the quote in use ends the literal
only where it stands without a backslash.  So a text is read back character by character, whichever
of the two quotes it is written in.
-/

namespace Text.Quoted

/-- The two quotes. -/
def IsQuote (c : Char) : Prop :=
  c = '\'' ∨ c = '"'

theorem isQuote_quoteFor (cs : List Char) : IsQuote (quoteFor cs) := by
  unfold quoteFor
  split
  · exact .inr rfl
  · exact .inl rfl

theorem IsQuote.ne_backslash {quote : Char} (isQuote : IsQuote quote) : quote ≠ '\\' := by
  rcases isQuote with rfl | rfl
  · decide
  · decide

section Characters

variable {quote : Char}

/-- A character that needs no escape is read as itself. -/
theorem decodeBody_plain {c : Char} (notQuote : c ≠ quote) (notSlash : c ≠ '\\')
    (rest : List Char) :
    decodeBody quote .nothing (c :: rest) = (decodeBody quote .nothing rest).map (c :: ·) := by
  rw [decodeBody, if_neg notQuote, if_neg notSlash]

/-- The quote in use does not hide a backslash. -/
theorem decodeBody_backslash (isQuote : IsQuote quote) (rest : List Char) :
    decodeBody quote .nothing ('\\' :: rest) = decodeBody quote .backslash rest := by
  rw [decodeBody, if_neg isQuote.ne_backslash.symm, if_pos rfl]

/-- A character is read back from a letter behind a backslash. -/
theorem decodeBody_named (isQuote : IsQuote quote) {letter c : Char}
    (named : named? letter = some c) (rest : List Char) :
    decodeBody quote .nothing ('\\' :: letter :: rest) =
      (decodeBody quote .nothing rest).map (c :: ·) := by
  rw [decodeBody_backslash isQuote, decodeBody, named]

/-- A digit of a code point that more digits follow. -/
theorem decodeBody_digit {missing value d : Nat} (small : d < 16) (rest : List Char) :
    decodeBody quote (.code (missing + 2) value) (Nat.digitChar d :: rest) =
      decodeBody quote (.code (missing + 1) (16 * value + d)) rest := by
  rw [decodeBody, hexValue?_digitChar small]
  dsimp only
  rw [if_neg (by omega : ¬ missing + 2 ≤ 1)]
  rfl

/-- A character is read back from its code point, if the digits can hold it. -/
theorem decodeBody_hexDigits {width : Nat} (c : Char) (fits : c.toNat < Nat.pow 16 (width + 1))
    (rest : List Char) :
    decodeBody quote (.code (width + 1) 0) (hexDigits (width + 1) c.toNat ++ rest) =
      (decodeBody quote .nothing rest).map (c :: ·) := by
  have taken := read_hexDigits (fun missing value => decodeBody quote (.code (missing + 1) value))
    (fun _ _ _ rest small => decodeBody_digit small rest) width (c.toNat / 16) 0
    (Nat.digitChar (c.toNat % 16) :: rest)
  have whole : 16 * (c.toNat / 16 % Nat.pow 16 width) + c.toNat % 16 = c.toNat := by
    rw [← mod_pow_succ, Nat.mod_eq_of_lt fits]
  rw [Nat.zero_add] at taken
  rw [hexDigits, List.append_assoc, List.singleton_append, taken, decodeBody,
    hexValue?_digitChar (Nat.mod_lt _ (by decide))]
  dsimp only
  rw [if_pos (Nat.le_refl 1), whole, charOfCode?_toNat, Option.bind_some]

/-- A character is read back from the letter for a width and a code point of this width. -/
theorem decodeBody_code (isQuote : IsQuote quote) {letter : Char} (width : Nat)
    (unnamed : named? letter = none) (wide : codeWidth? letter = some (width + 1)) (c : Char)
    (fits : c.toNat < Nat.pow 16 (width + 1)) (rest : List Char) :
    decodeBody quote .nothing ('\\' :: letter :: (hexDigits (width + 1) c.toNat ++ rest)) =
      (decodeBody quote .nothing rest).map (c :: ·) := by
  rw [decodeBody_backslash isQuote, decodeBody, unnamed, wide]
  dsimp only
  exact decodeBody_hexDigits c fits rest

/-- Every code point fits one of the three widths. -/
theorem decodeBody_escapeCode (isQuote : IsQuote quote) (c : Char) (rest : List Char) :
    decodeBody quote .nothing (escapeCode c.toNat ++ rest) =
      (decodeBody quote .nothing rest).map (c :: ·) := by
  unfold escapeCode
  split
  · rename_i narrow
    exact decodeBody_code isQuote 1 rfl rfl c narrow rest
  · split
    · rename_i middle
      exact decodeBody_code isQuote 3 rfl rfl c middle rest
    · exact decodeBody_code isQuote 7 rfl rfl c (Nat.lt_trans (toNat_lt c) (by decide)) rest

/-- **However a character is written, it is read back**, and the reader goes on behind it. -/
theorem decodeBody_escape (isQuote : IsQuote quote) (c : Char) (rest : List Char) :
    decodeBody quote .nothing (escape quote c ++ rest) =
      (decodeBody quote .nothing rest).map (c :: ·) := by
  unfold escape
  split
  · rename_i marked
    apply decodeBody_named isQuote
    rcases marked with rfl | rfl
    · rfl
    · rcases isQuote with rfl | rfl
      · rfl
      · rfl
  · rename_i unmarked
    split
    · rename_i same
      exact decodeBody_named isQuote (by rw [same]; rfl) rest
    · split
      · rename_i same
        exact decodeBody_named isQuote (by rw [same]; rfl) rest
      · split
        · rename_i same
          exact decodeBody_named isQuote (by rw [same]; rfl) rest
        · split
          · obtain ⟨notSlash, notQuote⟩ := not_or.1 unmarked
            exact decodeBody_plain notQuote notSlash rest
          · exact decodeBody_escapeCode isQuote c rest

/-- The characters of a text are read back up to the closing quote. -/
theorem decodeBody_escapes (isQuote : IsQuote quote) (cs : List Char) :
    decodeBody quote .nothing (cs.flatMap (escape quote) ++ [quote]) = some cs := by
  induction cs with
  | nil => simp [decodeBody]
  | cons c cs ih => rw [List.flatMap_cons, List.append_assoc, decodeBody_escape isQuote, ih,
      Option.map_some]

end Characters

/-- A literal stands for the text that it was made of. -/
theorem decode_encode (cs : List Char) : decode (encode cs) = some cs := by
  have isQuote := isQuote_quoteFor cs
  unfold IsQuote at isQuote
  rw [encode, List.cons_append, decode, if_pos isQuote]
  exact decodeBody_escapes isQuote cs

end Text.Quoted

/-! ### Controls -/

namespace Text

/-- The control characters, among them the line ends and the escape. -/
def controlRanges : List CodeRange :=
  [⟨0x0, 0x1F⟩, ⟨0x7F, 0x9F⟩]

/-- Whether the character is a control. -/
def isControlCode (c : Char) : Bool :=
  CodeRange.covers controlRanges c

/-- No control can be shown as it is. -/
theorem isControlCode_of_isPrintable {c : Char} (printable : isPrintable c = true) :
    isControlCode c = false := by
  refine Bool.eq_false_iff.2 fun control => ?_
  have unprintable : CodeRange.covers unprintableRanges c = true := by
    obtain ⟨range, mem, holds⟩ := CodeRange.covers_iff.1 control
    obtain ⟨first, last⟩ := CodeRange.holds_iff.1 holds
    simp only [controlRanges, List.mem_cons, List.not_mem_nil, or_false] at mem
    rcases mem with rfl | rfl
    · exact CodeRange.covers_iff.2 ⟨_, List.mem_cons_self, holds⟩
    · refine CodeRange.covers_iff.2 ⟨_, List.mem_cons_of_mem _ List.mem_cons_self, ?_⟩
      exact CodeRange.holds_iff.2 ⟨first, Nat.le_trans last (by decide)⟩
  rw [isPrintable, unprintable] at printable
  cases printable

end Text

/-! ### What is quoted -/

/-- Trailing characters are all that is left of the text. -/
theorem eq_drop_of_trailing {text : String} {limits : Limits} {rest : List Char} {position : Nat}
    (failed : evaluate text limits = .error (.fault (.trailing rest) position)) :
    rest = text.toList.drop position := by
  obtain ⟨taken, left, last, halts⟩ := exists_halts limits text.toList
  rw [evaluate_eq_verdict halts] at failed
  obtain ⟨head, part, rfl, rfl, rfl, -, -, rfl⟩ := halts.pointsAt failed
  rw [halts.split, List.append_nil, List.drop_left]

/-- **Messages quote what they complain about, and hide nothing.**  The message on trailing
characters ends with a literal that is read back as the text from the position on.  Whatever an
evaluation fails for, its message consists of printable characters, so there is no control among
them. -/
theorem evaluate_quotes_remainder (text : String) (limits : Limits) :
    (∀ rest position, evaluate text limits = .error (.fault (.trailing rest) position) →
      ∃ literal : List Char,
        (Failure.fault (.trailing rest) position).diagnostic.message =
            "unexpected trailing characters " ++ String.ofList literal ∧
          Quoted.decode literal = some (text.toList.drop position)) ∧
    ∀ failure, evaluate text limits = .error failure →
      ∀ c ∈ failure.diagnostic.message.toList, isPrintable c = true ∧ isControlCode c = false := by
  constructor
  · intro rest position failed
    refine ⟨Quoted.encode rest, rfl, ?_⟩
    rw [Quoted.decode_encode, eq_drop_of_trailing failed]
  · intro failure _ c mem
    have printable := printable_diagnostic failure c mem
    exact ⟨printable, isControlCode_of_isPrintable printable⟩

/-- A remainder with a single quote, which decides how it is written, a backslash in front of a
letter, a line end and a character that has no shape. -/
theorem evaluate_quotes_remainder_escapes :
    let failure : Failure := .fault (.trailing "it's\\n\n\u200b".toList) 2
    evaluate "1 it's\\n\n\u200b" = .error failure ∧
      failure.diagnostic.message =
          "unexpected trailing characters \"it's\\\\n\\n\\u200b\"" ∧
        (∃ literal : List Char,
          failure.diagnostic.message =
              "unexpected trailing characters " ++ String.ofList literal ∧
            Quoted.decode literal = some ("1 it's\\n\n\u200b".toList.drop 2)) ∧
          ∀ c ∈ failure.diagnostic.message.toList,
            isPrintable c = true ∧ isControlCode c = false := by
  intro failure
  have failed : evaluate "1 it's\\n\n\u200b" = .error failure := by rfl
  obtain ⟨quotes, shows⟩ := evaluate_quotes_remainder "1 it's\\n\n\u200b" {}
  exact ⟨failed, by decide +kernel, quotes _ _ failed, shows failure failed⟩

end Abacus
