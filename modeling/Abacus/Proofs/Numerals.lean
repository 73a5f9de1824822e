/-
Module: Abacus.Proofs.Numerals
Purpose: The grammar of numerals, and that exactly what it allows is read.
Main exports: Numeral.Digits, Numeral.Denotes, Numeral.signed?_eq_some_iff,
  Numeral.denotes_trimBy_isMargin_iff, Numeral.denotes_toDigits
-/
import Abacus.Proofs.Magnitude
import Abacus.Proofs.Trimming

namespace Abacus.Numeral

open Text

/-!
This module says what a numeral is, without the reader that counts and adds up as it goes.  The
reader remembers no more than whether an underscore may come next, and each of its states stands for
the digits that it has passed: their number, and the literal that they are without underscores.
-/

/-! ### The grammar -/

/-- The text consists of those digits, in this order, with at most one underscore between one digit
and the next. -/
inductive Digits : List Char → List Char → Prop where
  | last {c : Char} (digit : isDigit c = true) : Digits [c] [c]
  | next {c : Char} {cs digits : List Char} (digit : isDigit c = true) (others : Digits cs digits) :
      Digits (c :: cs) (c :: digits)
  | apart {c : Char} {cs digits : List Char} (digit : isDigit c = true)
      (others : Digits cs digits) : Digits (c :: '_' :: cs) (c :: digits)

/-- The text is a numeral for the integer: a sign or none, and not too many digits. -/
inductive Denotes : List Char → Int → Prop where
  | unsigned {cs digits : List Char} (written : Digits cs digits)
      (short : digits.length ≤ capacity) : Denotes cs (Phrase.literalValue digits)
  | plus {cs digits : List Char} (written : Digits cs digits)
      (short : digits.length ≤ capacity) : Denotes ('+' :: cs) (Phrase.literalValue digits)
  | minus {cs digits : List Char} (written : Digits cs digits)
      (short : digits.length ≤ capacity) : Denotes ('-' :: cs) (-Phrase.literalValue digits)

/-! ### Digits -/

theorem digitValue?_underscore : digitValue? '_' = none := by
  decide +kernel

theorem exists_digitValue? {c : Char} (digit : isDigit c = true) : ∃ d, digitValue? c = some d :=
  Option.isSome_iff_exists.1 digit

/-- Digits are counted and added up behind those that have been read. -/
theorem digits?_of_digits {cs digits : List Char} (written : Digits cs digits)
    (afterDigit : Bool) (before : List Char) :
    digits? afterDigit before.length (Phrase.literalValue before) cs =
      some ((before ++ digits).length, Phrase.literalValue (before ++ digits)) := by
  -- One digit is read in each case, and then what stands behind it.
  have first {c : Char} (digit : isDigit c = true) (before rest : List Char) (afterDigit : Bool) :
      digits? afterDigit before.length (Phrase.literalValue before) (c :: rest) =
        digits? true (before ++ [c]).length (Phrase.literalValue (before ++ [c])) rest := by
    obtain ⟨d, value⟩ := exists_digitValue? digit
    rw [digits?, value, literalValue_append_singleton before value, List.length_append]
    rfl
  induction written generalizing afterDigit before with
  | last digit => rw [first digit, digits?, if_pos rfl]
  | @next c cs digits digit others ih =>
      rw [first digit, ih, List.append_assoc, List.singleton_append]
  | @apart c cs digits digit others ih =>
      rw [first digit, digits?, digitValue?_underscore]
      dsimp only
      rw [if_pos ⟨rfl, rfl⟩, ih, List.append_assoc, List.singleton_append]

/-- What is read are digits, or behind a digit also nothing, or an underscore and digits. -/
theorem exists_digits_of_digits? {cs : List Char} {afterDigit : Bool} {before : List Char}
    {count value : Nat}
    (read : digits? afterDigit before.length (Phrase.literalValue before) cs =
      some (count, value)) :
    ∃ digits, count = (before ++ digits).length ∧ value = Phrase.literalValue (before ++ digits) ∧
      (Digits cs digits ∨
        afterDigit = true ∧
          (cs = [] ∧ digits = [] ∨ ∃ rest, cs = '_' :: rest ∧ Digits rest digits)) := by
  induction cs generalizing afterDigit before with
  | nil =>
      rw [digits?] at read
      split at read
      · rename_i behind
        cases read
        exact ⟨[], by simp, by simp, .inr ⟨behind, .inl ⟨rfl, rfl⟩⟩⟩
      · cases read
  | cons c cs ih =>
      rw [digits?] at read
      split at read
      · rename_i d found
        have digit : isDigit c = true := by rw [isDigit, found]; rfl
        have length : (before ++ [c]).length = before.length + 1 := by simp
        rw [← length, ← literalValue_append_singleton before found] at read
        obtain ⟨digits, rfl, rfl, others⟩ := ih read
        refine ⟨c :: digits, by simp, by simp, .inl ?_⟩
        rcases others with more | ⟨-, ⟨rfl, rfl⟩ | ⟨rest, rfl, more⟩⟩
        · exact .next digit more
        · exact .last digit
        · exact .apart digit more
      · split at read
        · rename_i underscore
          obtain ⟨rfl, behind⟩ := underscore
          obtain ⟨digits, rfl, rfl, more | ⟨never, -⟩⟩ := ih read
          · exact ⟨digits, rfl, rfl, .inr ⟨behind, .inr ⟨cs, rfl, more⟩⟩⟩
          · cases never
        · cases read

/-- Unsigned numerals are the digits that are not too many. -/
theorem unsigned?_eq_some_iff {cs : List Char} {n : Nat} :
    unsigned? cs = some n ↔
      ∃ digits, Digits cs digits ∧ digits.length ≤ capacity ∧ Phrase.literalValue digits = n := by
  have start : digits? false 0 0 cs =
      digits? false ([] : List Char).length (Phrase.literalValue []) cs := rfl
  constructor
  · intro read
    rw [unsigned?, start] at read
    split at read
    · rename_i count value found
      split at read
      · rename_i short
        cases read
        obtain ⟨digits, rfl, rfl, written | ⟨never, -⟩⟩ := exists_digits_of_digits? found
        · exact ⟨digits, written, short, rfl⟩
        · cases never
      · cases read
    · cases read
  · rintro ⟨digits, written, short, rfl⟩
    rw [unsigned?, start, digits?_of_digits written]
    dsimp only
    rw [List.nil_append, if_pos short]

/-! ### Signs -/

/-- Digits start with a digit. -/
theorem Digits.exists_cons {cs digits : List Char} (written : Digits cs digits) :
    ∃ c rest, cs = c :: rest ∧ isDigit c = true := by
  cases written with
  | last digit => exact ⟨_, _, rfl, digit⟩
  | next digit others => exact ⟨_, _, rfl, digit⟩
  | apart digit others => exact ⟨_, _, rfl, digit⟩

theorem signed?_plus (cs : List Char) :
    signed? ('+' :: cs) = (unsigned? cs).map Int.ofNat := by
  rw [signed?]
  cases unsigned? cs <;> rfl

theorem signed?_minus (cs : List Char) :
    signed? ('-' :: cs) = (unsigned? cs).map fun n : Nat => -(n : Int) := by
  rw [signed?]
  cases unsigned? cs <;> rfl

/-- Without a sign in front the whole text is read. -/
theorem signed?_of_unsigned {cs : List Char} (notPlus : ∀ rest, cs ≠ '+' :: rest)
    (notMinus : ∀ rest, cs ≠ '-' :: rest) : signed? cs = (unsigned? cs).map Int.ofNat := by
  rw [signed?]
  · cases unsigned? cs <;> rfl
  · exact notPlus
  · exact notMinus

/-- No digit is a sign. -/
theorem Digits.ne_sign {cs digits : List Char} (written : Digits cs digits) (sign : Char)
    (notDigit : isDigit sign = false) (rest : List Char) : cs ≠ sign :: rest := by
  rintro rfl
  obtain ⟨c, others, same, digit⟩ := written.exists_cons
  cases same
  cases notDigit.symm.trans digit

/-- What is read is a numeral for it. -/
theorem denotes_of_signed? {cs : List Char} {value : Int} (read : signed? cs = some value) :
    Denotes cs value := by
  by_cases plus : ∃ rest, cs = '+' :: rest
  · obtain ⟨rest, rfl⟩ := plus
    rw [signed?_plus] at read
    obtain ⟨n, found, rfl⟩ := Option.map_eq_some_iff.1 read
    obtain ⟨digits, written, short, rfl⟩ := unsigned?_eq_some_iff.1 found
    exact .plus written short
  by_cases minus : ∃ rest, cs = '-' :: rest
  · obtain ⟨rest, rfl⟩ := minus
    rw [signed?_minus] at read
    obtain ⟨n, found, rfl⟩ := Option.map_eq_some_iff.1 read
    obtain ⟨digits, written, short, rfl⟩ := unsigned?_eq_some_iff.1 found
    exact .minus written short
  rw [signed?_of_unsigned (not_exists.1 plus) (not_exists.1 minus)] at read
  obtain ⟨n, found, rfl⟩ := Option.map_eq_some_iff.1 read
  obtain ⟨digits, written, short, rfl⟩ := unsigned?_eq_some_iff.1 found
  exact .unsigned written short

/-- **Exactly the numerals are read**, each as the integer that it denotes. -/
theorem signed?_eq_some_iff {cs : List Char} {value : Int} :
    signed? cs = some value ↔ Denotes cs value := by
  constructor
  · exact denotes_of_signed?
  · intro denotes
    cases denotes with
    | unsigned written short =>
        have notPlus := written.ne_sign '+' (by decide +kernel)
        have notMinus := written.ne_sign '-' (by decide +kernel)
        rw [signed?_of_unsigned notPlus notMinus,
          unsigned?_eq_some_iff.2 ⟨_, written, short, rfl⟩]
        rfl
    | plus written short =>
        rw [signed?_plus, unsigned?_eq_some_iff.2 ⟨_, written, short, rfl⟩]
        rfl
    | minus written short =>
        rw [signed?_minus, unsigned?_eq_some_iff.2 ⟨_, written, short, rfl⟩]
        rfl

theorem Denotes.ne_nil {cs : List Char} {value : Int} (denotes : Denotes cs value) : cs ≠ [] := by
  cases denotes with
  | unsigned written short =>
      obtain ⟨c, rest, rfl, -⟩ := written.exists_cons
      exact List.cons_ne_nil c rest
  | plus written short => exact List.cons_ne_nil _ _
  | minus written short => exact List.cons_ne_nil _ _

theorem literalValue_lt_of_length_le {digits : List Char} {n : Nat} (short : digits.length ≤ n) :
    Phrase.literalValue digits < Nat.pow 10 n :=
  Nat.lt_of_lt_of_le (Phrase.literalValue_lt digits) (Nat.pow_le_pow_right (by decide) short)

/-- What a numeral denotes can be written again. -/
theorem Denotes.writable {cs : List Char} {value : Int} (denotes : Denotes cs value) :
    Writable value := by
  cases denotes with
  | unsigned written short => exact literalValue_lt_of_length_le short
  | plus written short => exact literalValue_lt_of_length_le short
  | minus written short =>
      rw [Writable, Int.natAbs_neg]
      exact literalValue_lt_of_length_le short

/-! ### Margins -/

theorem isBlank_of_isMargin {c : Char} (margin : isMargin c = true) : isBlank c = true :=
  (Bool.and_eq_true_iff.1 margin).1

theorem isSeparator_of_isMargin {c : Char} (margin : isMargin c = true) :
    isSeparator c = false := by
  simpa using (Bool.and_eq_true_iff.1 margin).2

/-- A blank that is no separator is a margin. -/
theorem isMargin_of_isBlank {c : Char} (blank : isBlank c = true)
    (notSeparator : isSeparator c = false) : isMargin c = true := by
  simp [isMargin, blank, notSeparator]

theorem isMargin_eq_false {c : Char} (shown : isBlank c = false) : isMargin c = false := by
  simp [isMargin, shown]

/-- Every separator is blank. -/
theorem isSeparator_eq_false {c : Char} (shown : isBlank c = false) : isSeparator c = false := by
  refine Bool.eq_false_iff.2 fun separator => ?_
  obtain ⟨range, mem, holds⟩ := CodeRange.covers_iff.1 separator
  obtain ⟨low, high⟩ := CodeRange.holds_iff.1 holds
  rw [separatorRanges, List.mem_singleton] at mem
  subst mem
  have blank : isBlank c = true := by
    refine CodeRange.covers_iff.2 ⟨⟨0x1C, 0x20⟩, by decide, CodeRange.holds_iff.2 ⟨low, ?_⟩⟩
    exact Nat.le_succ_of_le high
  cases shown.symm.trans blank

theorem Digits.not_isBlank {cs digits : List Char} (written : Digits cs digits) :
    ∀ c ∈ cs, isBlank c = false := by
  have shown {c : Char} (digit : isDigit c = true) : isBlank c = false := by
    obtain ⟨d, value⟩ := exists_digitValue? digit
    exact isBlank_of_digitValue? value
  induction written with
  | last digit => simpa using shown digit
  | next digit others ih => exact List.forall_mem_cons.2 ⟨shown digit, ih⟩
  | apart digit others ih =>
      exact List.forall_mem_cons.2 ⟨shown digit, List.forall_mem_cons.2 ⟨by decide, ih⟩⟩

/-- No character of a numeral is blank. -/
theorem Denotes.not_isBlank {cs : List Char} {value : Int} (denotes : Denotes cs value) :
    ∀ c ∈ cs, isBlank c = false := by
  cases denotes with
  | unsigned written short => exact written.not_isBlank
  | plus written short => exact List.forall_mem_cons.2 ⟨by decide, written.not_isBlank⟩
  | minus written short => exact List.forall_mem_cons.2 ⟨by decide, written.not_isBlank⟩

theorem Denotes.tight {cs : List Char} {value : Int} (denotes : Denotes cs value) : Tight cs where
  first := fun c head => denotes.not_isBlank c (List.mem_of_mem_head? head)
  last := fun c last => denotes.not_isBlank c (List.mem_of_mem_getLast? last)

/-- A numeral stands between margins if and only if it stands between blanks and the text has no
separator. -/
theorem denotes_trimBy_isMargin_iff {cs : List Char} {value : Int} :
    Denotes (trimBy isMargin cs) value ↔
      Denotes (trim cs) value ∧ ∀ c ∈ cs, isSeparator c = false := by
  constructor
  · intro denotes
    obtain ⟨before, behind, marginBefore, marginBehind, split⟩ := exists_around_trimBy isMargin cs
    have same : trim cs = trimBy isMargin cs :=
      calc trim cs = trim (before ++ (trimBy isMargin cs ++ behind)) := congrArg trim split
        _ = trimBy isMargin cs :=
          trim_of_blanks_around (fun c mem => isBlank_of_isMargin (marginBefore c mem))
            (fun c mem => isBlank_of_isMargin (marginBehind c mem)) denotes.ne_nil denotes.tight
    refine ⟨by rwa [same], fun c mem => ?_⟩
    rw [split, List.mem_append, List.mem_append] at mem
    rcases mem with inBefore | inside | inBehind
    · exact isSeparator_of_isMargin (marginBefore c inBefore)
    · exact isSeparator_eq_false (denotes.not_isBlank c inside)
    · exact isSeparator_of_isMargin (marginBehind c inBehind)
  · rintro ⟨denotes, plain⟩
    obtain ⟨before, behind, blankBefore, blankBehind, split⟩ := exists_around_trimBy isBlank cs
    rw [split] at plain
    obtain ⟨plainBefore, plainInside⟩ := List.forall_mem_append.1 plain
    obtain ⟨-, plainBehind⟩ := List.forall_mem_append.1 plainInside
    have same : trimBy isMargin cs = trim cs :=
      calc trimBy isMargin cs = trimBy isMargin (before ++ (trim cs ++ behind)) :=
            congrArg (trimBy isMargin) split
        _ = trim cs :=
          trimBy_of_around
            (fun c mem => isMargin_of_isBlank (blankBefore c mem) (plainBefore c mem))
            (fun c mem => isMargin_of_isBlank (blankBehind c mem) (plainBehind c mem))
            denotes.ne_nil (fun c head => isMargin_eq_false (denotes.tight.first c head))
            (fun c last => isMargin_eq_false (denotes.tight.last c last))
    rwa [same]

/-! ### Printed numbers -/

/-- Digits on their own are a numeral. -/
theorem digits_of_allDigit {cs : List Char} (nonempty : cs ≠ [])
    (allDigits : ∀ c ∈ cs, isDigit c = true) : Digits cs cs := by
  induction cs with
  | nil => exact absurd rfl nonempty
  | cons c cs ih =>
      obtain ⟨digit, others⟩ := List.forall_mem_cons.1 allDigits
      cases cs with
      | nil => exact .last digit
      | cons d ds => exact .next digit (ih (List.cons_ne_nil d ds) others)

/-- A printed number is a numeral for itself. -/
theorem denotes_toDigits {n : Nat} (short : (Nat.toDigits 10 n).length ≤ capacity) :
    Denotes (Nat.toDigits 10 n) n := by
  have ascii := isDigit_of_mem_digits n
  have written : Digits (Nat.toDigits 10 n) (Nat.toDigits 10 n) :=
    digits_of_allDigit Nat.toDigits_ne_nil fun c mem => isDigit_of_isDigit (ascii c mem)
  have value : Phrase.literalValue (Nat.toDigits 10 n) = n := by
    rw [literalValue_eq_ofDigitChars ascii, Nat.ofDigitChars_ten_toDigits]
  have denotes := Denotes.unsigned written short
  rwa [value] at denotes

end Abacus.Numeral
