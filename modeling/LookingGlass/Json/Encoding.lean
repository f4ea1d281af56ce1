import LookingGlass.Json.Reader
import LookingGlass.Text.Utf8

/-
  This file defines how the bytes of a JSON document become a
  text. The encoding is told by a byte order mark or by the
  zero bytes of the first characters, and is UTF-8 otherwise.

  Half of a surrogate pair is let through by every encoding,
  so that the text is a wide one.

  Key definitions include:
    * `Encoding`
    * `Encoding.detect`
    * `Encoding.decode`
    * `Encoding.Error`
    * `DocumentError`
    * `Value.ofBytes`
-/

namespace LookingGlass.Json

open LookingGlass.Text (Point)

/- The encodings of a document. -/
inductive Encoding
  | utf8
  | utf16 (bigEndian : Bool)
  | utf32 (bigEndian : Bool)
deriving DecidableEq, Repr

namespace Encoding

/- The name by which messages call an encoding. -/
def name :
    Encoding → String
  | .utf8 => "utf-8"
  | .utf16 bigEndian =>
    if bigEndian then "utf-16-be" else "utf-16-le"
  | .utf32 bigEndian =>
    if bigEndian then "utf-32-be" else "utf-32-le"

/-
  The encoding of a document, its bytes without a byte order
  mark, and the position that errors count from: the mark of
  UTF-8 is not counted, the others are. The marks of the wider
  encoding are looked for first, because one of them starts
  like a narrower one.
-/
def detect :
    List UInt8 → Encoding × Nat × List UInt8
  | 0x00 :: 0x00 :: 0xFE :: 0xFF :: rest => (.utf32 true, 4, rest)
  | 0xFF :: 0xFE :: 0x00 :: 0x00 :: rest => (.utf32 false, 4, rest)
  | 0xFE :: 0xFF :: rest => (.utf16 true, 2, rest)
  | 0xFF :: 0xFE :: rest => (.utf16 false, 2, rest)
  | 0xEF :: 0xBB :: 0xBF :: rest => (.utf8, 0, rest)
  | a :: b :: c :: d :: rest =>
    let encoding : Encoding :=
      if a = 0 then if b = 0 then .utf32 true else .utf16 true
      else if b ≠ 0 then .utf8
      else if c = 0 ∧ d = 0 then .utf32 false
      else .utf16 false
    (encoding, 0, a :: b :: c :: d :: rest)
  | [a, b] =>
    let encoding : Encoding :=
      if a = 0 then .utf16 true
      else if b = 0 then .utf16 false
      else .utf8
    (encoding, 0, [a, b])
  | bytes => (.utf8, 0, bytes)

------------------------------------------------------------
-- Errors
------------------------------------------------------------

/- Why bytes are no text: which ones, and the reason. -/
structure Error where
  encoding : Encoding
  position : Nat
  bytes : List UInt8
  reason : String
deriving DecidableEq, Repr

/- The wording of an error. -/
def Error.message
    (e : Error) : String :=
  let what :=
    match e.bytes with
    | [b] =>
      "byte 0x" ++
        String.ofList (Text.Quoted.hexDigits 2 b.toNat) ++
        s!" in position {e.position}"
    | bytes =>
      s!"bytes in position {e.position}-" ++
        toString (e.position + bytes.length - 1)
  s!"'{e.encoding.name}' codec can't decode {what}: {e.reason}"

------------------------------------------------------------
-- Decoding
------------------------------------------------------------

/- Why a run of bytes is no character of UTF-8. -/
def utf8Reason :
    Text.Utf8.Fault → String
  | .start => "invalid start byte"
  | .continuation => "invalid continuation byte"
  | .ended => "unexpected end of data"

/-
  The code points of the chunks of UTF-8 behind a position. A
  surrogate written with its three bytes is let through; its
  bytes are broken parts one by one.
-/
def utf8Points
    (position : Nat) :
    List Text.Utf8.Chunk → Except Error (List Point)
  | [] => .ok []
  | .scalar c :: rest =>
    (utf8Points (position + (Text.Utf8.encodeChar c).length)
      rest).map (.scalar c :: ·)
  | .broken [0xED] fault :: .broken [b] _ :: .broken [c] _ ::
      rest =>
    if 0xA0 ≤ b ∧ b ≤ 0xBF ∧ 0x80 ≤ c ∧ c ≤ 0xBF then
      let v :=
        0xD000 + (b.toNat - 0x80) * 0x40 + (c.toNat - 0x80)
      (utf8Points (position + 3) rest).map (.ofNat v :: ·)
    else .error ⟨.utf8, position, [0xED], utf8Reason fault⟩
  | .broken bytes fault :: _ =>
    .error ⟨.utf8, position, bytes, utf8Reason fault⟩

/- Decodes UTF-8. -/
def decodeUtf8
    (bytes : List UInt8) : Except Error (List Point) :=
  utf8Points 0 (Text.Utf8.chunks bytes)

/- Decodes units of two bytes; two surrogates make a pair. -/
def decodeUtf16
    (bigEndian : Bool)
    (position : Nat) :
    List UInt8 → Except Error (List Point)
  | [] => .ok []
  | [b] =>
    .error ⟨.utf16 bigEndian, position, [b], "truncated data"⟩
  | a :: b :: rest =>
    let unit (x y : UInt8) : Nat :=
      if bigEndian then x.toNat * 0x100 + y.toNat
      else y.toNat * 0x100 + x.toNat
    let v := unit a b
    match rest with
    | c :: d :: rest' =>
      let w := unit c d
      if 0xD800 ≤ v ∧ v < 0xDC00 ∧ 0xDC00 ≤ w ∧ w < 0xE000 then
        (decodeUtf16 bigEndian (position + 4) rest').map
          (pairedPoint v w :: ·)
      else
        (decodeUtf16 bigEndian (position + 2) (c :: d :: rest')).map
          (.ofNat v :: ·)
    | rest =>
      (decodeUtf16 bigEndian (position + 2) rest).map
        (.ofNat v :: ·)
termination_by bytes => bytes.length

/- Decodes units of four bytes. -/
def decodeUtf32
    (bigEndian : Bool)
    (position : Nat) :
    List UInt8 → Except Error (List Point)
  | [] => .ok []
  | a :: b :: c :: d :: rest =>
    let v :=
      if bigEndian then
        ((a.toNat * 0x100 + b.toNat) * 0x100 + c.toNat) * 0x100 +
          d.toNat
      else
        ((d.toNat * 0x100 + c.toNat) * 0x100 + b.toNat) * 0x100 +
          a.toNat
    if v ≥ 0x110000 then
      .error ⟨.utf32 bigEndian, position, [a, b, c, d],
        "code point not in range(0x110000)"⟩
    else
      (decodeUtf32 bigEndian (position + 4) rest).map
        (.ofNat v :: ·)
  | bytes =>
    .error ⟨.utf32 bigEndian, position, bytes, "truncated data"⟩

/- Decodes the bytes of a document. -/
def decode
    (document : List UInt8) : Except Error (List Point) :=
  match detect document with
  | (.utf8, _, bytes) => decodeUtf8 bytes
  | (.utf16 bigEndian, start, bytes) =>
    decodeUtf16 bigEndian start bytes
  | (.utf32 bigEndian, start, bytes) =>
    decodeUtf32 bigEndian start bytes

end Encoding

------------------------------------------------------------
-- Documents
------------------------------------------------------------

/- Why the bytes of a document are not read. -/
inductive DocumentError
  | encoding (e : Encoding.Error)
  | text (e : Error)
deriving DecidableEq, Repr

/- The wording of an error. -/
def DocumentError.message :
    DocumentError → String
  | .encoding e => e.message
  | .text e => e.message

/- Reads the bytes of a document. -/
def Value.ofBytes
    (bytes : List UInt8) : Except DocumentError Value :=
  match Encoding.decode bytes with
  | .error e => .error (.encoding e)
  | .ok points => (readAll points).mapError .text

end LookingGlass.Json
