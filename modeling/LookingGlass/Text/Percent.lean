import LookingGlass.Text.Utf8

/-
  This file defines percent escapes: a byte is written as a
  percent sign and two hexadecimal digits.

  Writing works character by character on UTF-8, with a set
  of characters that stand for themselves. Reading turns a
  text into bytes, so that escapes of several bytes join up
  to characters; an escape that is not complete stands for
  itself.

  Key definitions include:
    * `escape`
    * `encode`
    * `bytes`
    * `unescape`
    * `decodeLossy`
    * `decodeKeeping`
-/

namespace LookingGlass.Text.Percent

------------------------------------------------------------
-- Hexadecimal digits
------------------------------------------------------------

/- The upper case hexadecimal digit of a number below 16. -/
def hexDigit
    (n : Nat) : Char :=
  if n < 10 then Char.ofNat (0x30 + n)
  else Char.ofNat (0x37 + n)

/- The value of a hexadecimal digit of either case. -/
def hexValue?
    (c : Char) : Option Nat :=
  let v := c.toNat
  if 0x30 ≤ v ∧ v ≤ 0x39 then some (v - 0x30)
  else if 0x41 ≤ v ∧ v ≤ 0x46 then some (v - 0x37)
  else if 0x61 ≤ v ∧ v ≤ 0x66 then some (v - 0x57)
  else none

------------------------------------------------------------
-- Writing
------------------------------------------------------------

/- The escape of one byte. -/
def escape
    (b : UInt8) : List Char :=
  ['%', hexDigit (b.toNat / 16), hexDigit (b.toNat % 16)]

/-
  Writes a text with every character escaped that the given
  set does not keep.
-/
def encode
    (keep : Char → Bool)
    (cs : List Char) : List Char :=
  cs.flatMap fun c =>
    if keep c then [c]
    else (Utf8.encodeChar c).flatMap escape

/-
  The characters that never need an escape: letters and
  digits of ASCII, and four marks.
-/
def isUnreserved
    (c : Char) : Bool :=
  let v := c.toNat
  (0x61 ≤ v && v ≤ 0x7A) || (0x41 ≤ v && v ≤ 0x5A) ||
    (0x30 ≤ v && v ≤ 0x39) ||
    c == '_' || c == '.' || c == '-' || c == '~'

/- The unreserved characters and those of a given text. -/
def keeping
    (marks : String)
    (c : Char) : Bool :=
  isUnreserved c || marks.toList.contains c

------------------------------------------------------------
-- Reading
------------------------------------------------------------

/- The bytes that a text with escapes stands for. -/
def bytes :
    List Char → List UInt8
  | [] => []
  | '%' :: a :: b :: rest =>
    match hexValue? a, hexValue? b with
    | some x, some y => (16 * x + y).toUInt8 :: bytes rest
    | _, _ => 0x25 :: bytes (a :: b :: rest)
  | c :: rest => Utf8.encodeChar c ++ bytes rest

/- The value of a byte as a hexadecimal digit. -/
def hexByte?
    (b : UInt8) : Option Nat :=
  hexValue? (Char.ofNat b.toNat)

/- The bytes that bytes with escapes among them stand for. -/
def unescape :
    List UInt8 → List UInt8
  | [] => []
  | 0x25 :: a :: b :: rest =>
    match hexByte? a, hexByte? b with
    | some x, some y => (16 * x + y).toUInt8 :: unescape rest
    | _, _ => 0x25 :: unescape (a :: b :: rest)
  | b :: rest => b :: unescape rest

/- Reads escapes, with U+FFFD for bytes that are no UTF-8. -/
def decodeLossy
    (cs : List Char) : List Char :=
  Utf8.decodeLossy (bytes cs)

/-
  Reads escapes, and leaves the bytes that are no UTF-8 as
  escapes of upper case.
-/
def decodeKeeping
    (cs : List Char) : List Char :=
  (Utf8.chunks (bytes cs)).flatMap fun
    | .scalar c => [c]
    | .broken broken _ => broken.flatMap escape

end LookingGlass.Text.Percent
