import LookingGlass.Text.Utf8

/-
  This file defines texts as they are sent: as bytes, which may
  be any. A text of characters is sent in UTF-8.

  Key definitions include:
    * `Octets`
    * `Octets.ofString`
    * `Octets.isText`
    * `Octets.lossy`
-/

namespace LookingGlass.Text

/- The bytes of a text as it is sent. -/
structure Octets where
  bytes : List UInt8
deriving DecidableEq, Repr

namespace Octets

/- A text of characters as it is sent. -/
def ofString
    (s : String) : Octets :=
  ⟨Utf8.encode s.toList⟩

instance : Coe String Octets := ⟨ofString⟩

/- Whether bytes are those of characters. -/
def isText
    (octets : Octets) : Bool :=
  (Utf8.chunks octets.bytes).all fun
    | .scalar _ => true
    | .broken _ _ => false

/- The text of bytes, with U+FFFD for those that are none. -/
def lossy
    (octets : Octets) : List Char :=
  Utf8.decodeLossy octets.bytes

end Octets

end LookingGlass.Text
