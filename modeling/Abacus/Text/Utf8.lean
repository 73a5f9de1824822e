/-
Module: Abacus.Text.Utf8
Purpose: Strict decoding of UTF-8, with the place and the cause of the first fault.
Main exports: Utf8.Fault, Utf8.decode
-/

namespace Abacus.Text.Utf8

/-- What is wrong with the bytes of a fault. -/
inductive Cause where
  | invalidStart
  | invalidContinuation
  | unexpectedEnd
deriving Repr, DecidableEq

/-- Bytes that are not part of any character: the position of the first, which is the given
byte, and their number. -/
structure Fault where
  cause : Cause
  start : Nat
  count : Nat
  byte : UInt8
deriving Repr, DecidableEq

/-- A cause in words. -/
def Cause.wording : Cause → String
  | invalidStart => "invalid start byte"
  | invalidContinuation => "invalid continuation byte"
  | unexpectedEnd => "unexpected end of data"

/-- A byte as two hexadecimal digits. -/
def byteText (byte : UInt8) : String :=
  String.ofList [Nat.digitChar (byte.toNat / 16), Nat.digitChar (byte.toNat % 16)]

/-- A fault in words: the byte or the bytes, their position, and the cause. -/
def Fault.message (fault : Fault) : String :=
  let place :=
    if fault.count = 1 then
      "byte 0x" ++ byteText fault.byte ++ " in position " ++ toString fault.start
    else
      "bytes in position " ++ toString fault.start ++ "-" ++
        toString (fault.start + fault.count - 1)
  "'utf-8' codec can't decode " ++ place ++ ": " ++ fault.cause.wording

/-- A character of several bytes that is not complete: its first byte and the position of that,
how many bytes have been read and how many are missing, the bounds of the next byte, and the
bits so far. -/
structure Partial where
  first : UInt8
  start : Nat
  count : Nat
  missing : Nat
  low : Nat
  high : Nat
  bits : Nat
deriving Repr, DecidableEq

/-- The fault that the bytes read so far are. -/
def Partial.fault (part : Partial) (cause : Cause) : Fault :=
  { cause := cause, start := part.start, count := part.count, byte := part.first }

/-- A character of several bytes behind its first byte, if it may start so.  The bounds leave
out the forms that are longer than needed, the surrogates, and what lies beyond Unicode. -/
def begin? (position : Nat) (first : UInt8) : Option Partial :=
  let b := first.toNat
  let part (missing low high bits : Nat) : Option Partial :=
    some { first := first, start := position, count := 1, missing := missing,
           low := low, high := high, bits := bits }
  if 0xC2 ≤ b ∧ b ≤ 0xDF then part 1 0x80 0xBF (b - 0xC0)
  else if b = 0xE0 then part 2 0xA0 0xBF 0
  else if b = 0xED then part 2 0x80 0x9F 0xD
  else if 0xE1 ≤ b ∧ b ≤ 0xEF then part 2 0x80 0xBF (b - 0xE0)
  else if b = 0xF0 then part 3 0x90 0xBF 0
  else if 0xF1 ≤ b ∧ b ≤ 0xF3 then part 3 0x80 0xBF (b - 0xF0)
  else if b = 0xF4 then part 3 0x80 0x8F 4
  else none

/-- Decode the bytes from a position on.  `before` holds the characters so far, the last one
first, and `pending` the character that is being read. -/
def decodeFrom (before : List Char) (position : Nat) :
    (pending : Option Partial) → List UInt8 → Except Fault (List Char)
  | none, [] => .ok before.reverse
  | some part, [] => .error (part.fault .unexpectedEnd)
  | none, byte :: bytes =>
      if byte.toNat < 0x80 then
        decodeFrom (Char.ofNat byte.toNat :: before) (position + 1) none bytes
      else
        match begin? position byte with
        | some part => decodeFrom before (position + 1) (some part) bytes
        | none =>
            .error { cause := .invalidStart, start := position, count := 1, byte := byte }
  | some part, byte :: bytes =>
      if part.low ≤ byte.toNat ∧ byte.toNat ≤ part.high then
        let bits := 64 * part.bits + byte.toNat % 64
        if part.missing ≤ 1 then
          decodeFrom (Char.ofNat bits :: before) (position + 1) none bytes
        else
          decodeFrom before (position + 1)
            (some { part with
              count := part.count + 1, missing := part.missing - 1,
              low := 0x80, high := 0xBF, bits := bits }) bytes
      else .error (part.fault .invalidContinuation)

/-- The text that bytes encode, or their first fault. -/
def decode (bytes : List UInt8) : Except Fault (List Char) :=
  decodeFrom [] 0 none bytes

end Abacus.Text.Utf8
