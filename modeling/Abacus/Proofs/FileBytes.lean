/-
Module: Abacus.Proofs.FileBytes
Purpose: The bytes that a text has in a file are decoded to this text.
Main exports: Utf8.Opens, Utf8.decodeFrom_character, Utf8.encode, Utf8.decode_encode
-/
import Abacus.Text.Utf8

namespace Abacus.Text.Utf8

/-!
A character of several bytes is a number in base 64, with its leading digit in the first byte.  What
the bounds of the second byte leave out is never written: a character that fits in fewer bytes has
fewer, and surrogates are not characters.
-/

theorem toNat_ofNat_of_le {n : Nat} (small : n ≤ 0xFF) : (UInt8.ofNat n).toNat = n :=
  UInt8.toNat_ofNat_of_lt (Nat.lt_succ_of_le small)

/-- The byte may stand behind others of its character. -/
def Continues (byte : Nat) : Prop :=
  0x80 ≤ byte ∧ byte ≤ 0xBF

theorem continues_digit (n : Nat) : Continues (n % 64 + 128) := by
  unfold Continues
  omega

/-! ### The first byte -/

/-- The first byte leaves so many others missing and holds these leading bits, and the second byte
may follow it. -/
structure Opens (first missing bits second : Nat) : Prop where
  several : 0x80 ≤ first
  small : first ≤ 0xFF
  begins : ∀ position : Nat, ∃ low high, low ≤ second ∧ second ≤ high ∧
    begin? position (UInt8.ofNat first) =
      some { first := UInt8.ofNat first, start := position, count := 1, missing := missing,
             low := low, high := high, bits := bits }

section Opening

variable {first second : Nat}

theorem opens_two (low : 0xC2 ≤ first) (high : first ≤ 0xDF) (continues : Continues second) :
    Opens first 1 (first - 0xC0) second := by
  have small : first ≤ 0xFF := by omega
  refine ⟨by omega, small, fun position => ⟨0x80, 0xBF, continues.1, continues.2, ?_⟩⟩
  simp only [begin?, toNat_ofNat_of_le small]
  rw [if_pos ⟨low, high⟩]

/-- Of three bytes the second may not be so small that two would do, nor make a surrogate. -/
theorem opens_three (low : 0xE0 ≤ first) (high : first ≤ 0xEF) (continues : Continues second)
    (needed : first = 0xE0 → 0xA0 ≤ second) (scalar : first = 0xED → second ≤ 0x9F) :
    Opens first 2 (first - 0xE0) second := by
  have small : first ≤ 0xFF := by omega
  refine ⟨by omega, small, fun position => ?_⟩
  by_cases least : first = 0xE0
  · subst least
    exact ⟨0xA0, 0xBF, needed rfl, continues.2, rfl⟩
  by_cases surrogate : first = 0xED
  · subst surrogate
    exact ⟨0x80, 0x9F, continues.1, scalar rfl, rfl⟩
  refine ⟨0x80, 0xBF, continues.1, continues.2, ?_⟩
  simp only [begin?, toNat_ofNat_of_le small]
  rw [if_neg (by omega), if_neg least, if_neg surrogate, if_pos (by omega)]

/-- Of four bytes the second may not be so small that three would do, nor lead beyond Unicode. -/
theorem opens_four (low : 0xF0 ≤ first) (high : first ≤ 0xF4) (continues : Continues second)
    (needed : first = 0xF0 → 0x90 ≤ second) (scalar : first = 0xF4 → second ≤ 0x8F) :
    Opens first 3 (first - 0xF0) second := by
  have small : first ≤ 0xFF := by omega
  refine ⟨by omega, small, fun position => ?_⟩
  by_cases least : first = 0xF0
  · subst least
    exact ⟨0x90, 0xBF, needed rfl, continues.2, rfl⟩
  by_cases most : first = 0xF4
  · subst most
    exact ⟨0x80, 0x8F, continues.1, scalar rfl, rfl⟩
  refine ⟨0x80, 0xBF, continues.1, continues.2, ?_⟩
  simp only [begin?, toNat_ofNat_of_le small]
  rw [if_neg (by omega), if_neg (by omega), if_neg (by omega), if_neg (by omega), if_neg least,
    if_pos (by omega)]

end Opening

/-! ### Bytes of one character -/

section Steps

variable {before : List Char} {position n : Nat} {part : Partial} {bytes : List UInt8}

/-- A byte that is the last of its character. -/
theorem decodeFrom_last (low : part.low ≤ n) (high : n ≤ part.high) (continues : Continues n)
    (last : part.missing ≤ 1) :
    decodeFrom before position (some part) (UInt8.ofNat n :: bytes) =
      decodeFrom (Char.ofNat (64 * part.bits + n % 64) :: before) (position + 1) none bytes := by
  have small : n ≤ 0xFF := Nat.le_trans continues.2 (by decide)
  rw [decodeFrom, toNat_ofNat_of_le small, if_pos ⟨low, high⟩]
  dsimp only
  rw [if_pos last]

/-- A byte behind which others are missing. -/
theorem decodeFrom_middle (low : part.low ≤ n) (high : n ≤ part.high) (continues : Continues n)
    (more : 1 < part.missing) :
    decodeFrom before position (some part) (UInt8.ofNat n :: bytes) =
      decodeFrom before (position + 1)
        (some { part with
          count := part.count + 1, missing := part.missing - 1,
          low := 0x80, high := 0xBF, bits := 64 * part.bits + n % 64 }) bytes := by
  have small : n ≤ 0xFF := Nat.le_trans continues.2 (by decide)
  rw [decodeFrom, toNat_ofNat_of_le small, if_pos ⟨low, high⟩]
  dsimp only
  rw [if_neg (Nat.not_le.2 more)]

/-- A byte that is the first of several. -/
theorem decodeFrom_first {first missing bits second : Nat} (opens : Opens first missing bits second)
    (before : List Char) (position : Nat) (bytes : List UInt8) :
    ∃ part : Partial, part.missing = missing ∧ part.bits = bits ∧ part.low ≤ second ∧
      second ≤ part.high ∧
        decodeFrom before position none (UInt8.ofNat first :: bytes) =
          decodeFrom before (position + 1) (some part) bytes := by
  obtain ⟨low, high, lowest, highest, began⟩ := opens.begins position
  refine ⟨{ first := UInt8.ofNat first, start := position, count := 1, missing := missing,
            low := low, high := high, bits := bits }, rfl, rfl, lowest, highest, ?_⟩
  rw [decodeFrom, toNat_ofNat_of_le opens.small, if_neg (Nat.not_lt.2 opens.several), began]

end Steps

section Characters

variable (before : List Char) (position : Nat) (bytes : List UInt8)
variable {first bits second third fourth : Nat}

theorem decodeFrom_two (opens : Opens first 1 bits second) (continues : Continues second) :
    decodeFrom before position none (UInt8.ofNat first :: UInt8.ofNat second :: bytes) =
      decodeFrom (Char.ofNat (64 * bits + second % 64) :: before) (position + 2) none bytes := by
  obtain ⟨part, missing, rfl, low, high, began⟩ :=
    decodeFrom_first opens before position (UInt8.ofNat second :: bytes)
  rw [began, decodeFrom_last low high continues (Nat.le_of_eq missing)]

theorem decodeFrom_three (opens : Opens first 2 bits second) (continues : Continues second)
    (last : Continues third) :
    decodeFrom before position none
        (UInt8.ofNat first :: UInt8.ofNat second :: UInt8.ofNat third :: bytes) =
      decodeFrom (Char.ofNat (64 * (64 * bits + second % 64) + third % 64) :: before)
        (position + 3) none bytes := by
  obtain ⟨part, missing, rfl, low, high, began⟩ :=
    decodeFrom_first opens before position (UInt8.ofNat second :: UInt8.ofNat third :: bytes)
  rw [began, decodeFrom_middle low high continues (by omega),
    decodeFrom_last last.1 last.2 last (by dsimp only; omega)]

theorem decodeFrom_four (opens : Opens first 3 bits second) (continues : Continues second)
    (next : Continues third) (last : Continues fourth) :
    decodeFrom before position none
        (UInt8.ofNat first :: UInt8.ofNat second :: UInt8.ofNat third :: UInt8.ofNat fourth ::
          bytes) =
      decodeFrom
        (Char.ofNat (64 * (64 * (64 * bits + second % 64) + third % 64) + fourth % 64) :: before)
        (position + 4) none bytes := by
  obtain ⟨part, missing, rfl, low, high, began⟩ :=
    decodeFrom_first opens before position
      (UInt8.ofNat second :: UInt8.ofNat third :: UInt8.ofNat fourth :: bytes)
  rw [began, decodeFrom_middle low high continues (by omega),
    decodeFrom_middle next.1 next.2 next (by dsimp only; omega),
    decodeFrom_last last.1 last.2 last (by dsimp only; omega)]

/-- The bytes of a character are decoded to this character. -/
theorem decodeFrom_character (c : Char) :
    ∃ behind, decodeFrom before position none (String.utf8EncodeChar c ++ bytes) =
      decodeFrom (c :: before) behind none bytes := by
  have again : Char.ofNat c.val.toNat = c := Char.ofNat_toNat c
  have scalar : c.val.toNat < 0xD800 ∨ 0xDFFF < c.val.toNat ∧ c.val.toNat < 0x110000 := c.valid
  rw [String.utf8EncodeChar]
  generalize c.val.toNat = v at again scalar
  subst again
  split
  · refine ⟨position + 1, ?_⟩
    rw [List.singleton_append, decodeFrom, toNat_ofNat_of_le (by omega), if_pos (by omega)]
  split
  · have opens : Opens (v / 64 % 32 + 192) 1 (v / 64 % 32 + 192 - 0xC0) (v % 64 + 128) :=
      opens_two (by omega) (by omega) (continues_digit v)
    have digits : 64 * (v / 64 % 32 + 192 - 0xC0) + (v % 64 + 128) % 64 = v := by omega
    have decoded := decodeFrom_two before position bytes opens (continues_digit v)
    rw [digits] at decoded
    exact ⟨position + 2, decoded⟩
  split
  · have opens : Opens (v / 4096 % 16 + 224) 2 (v / 4096 % 16 + 224 - 0xE0)
        (v / 64 % 64 + 128) :=
      opens_three (by omega) (by omega) (continues_digit (v / 64)) (by omega) (by omega)
    have digits : 64 * (64 * (v / 4096 % 16 + 224 - 0xE0) + (v / 64 % 64 + 128) % 64) +
        (v % 64 + 128) % 64 = v := by
      omega
    have decoded := decodeFrom_three before position bytes opens (continues_digit (v / 64))
      (continues_digit v)
    rw [digits] at decoded
    exact ⟨position + 3, decoded⟩
  · have opens : Opens (v / 262144 % 8 + 240) 3 (v / 262144 % 8 + 240 - 0xF0)
        (v / 4096 % 64 + 128) :=
      opens_four (by omega) (by omega) (continues_digit (v / 4096)) (by omega) (by omega)
    have digits : 64 * (64 * (64 * (v / 262144 % 8 + 240 - 0xF0) +
        (v / 4096 % 64 + 128) % 64) + (v / 64 % 64 + 128) % 64) + (v % 64 + 128) % 64 = v := by
      omega
    have decoded := decodeFrom_four before position bytes opens (continues_digit (v / 4096))
      (continues_digit (v / 64)) (continues_digit v)
    rw [digits] at decoded
    exact ⟨position + 4, decoded⟩

end Characters

/-! ### Texts -/

/-- The bytes of a text in a file. -/
def encode (cs : List Char) : List UInt8 :=
  cs.flatMap String.utf8EncodeChar

theorem decodeFrom_encode (before : List Char) (position : Nat) (cs : List Char) :
    decodeFrom before position none (encode cs) = .ok (before.reverse ++ cs) := by
  induction cs generalizing before position with
  | nil =>
      rw [List.append_nil]
      rfl
  | cons c cs ih =>
      obtain ⟨behind, decoded⟩ := decodeFrom_character before position (encode cs) c
      rw [encode, List.flatMap_cons]
      refine decoded.trans ?_
      rw [ih, List.reverse_cons, List.append_assoc, List.singleton_append]

/-- **Every text can be read from a file.**  Its bytes are decoded to the text. -/
theorem decode_encode (cs : List Char) : decode (encode cs) = .ok cs :=
  decodeFrom_encode [] 0 cs

end Abacus.Text.Utf8
