import LookingGlass.Compression.Envelope
import LookingGlass.Text.Cut

/-
  This file defines how the body of a reply is coded: in the
  order in which the codings are named, which is undone from
  the last one to the first.

  A coding that is not known does not count.

  Key definitions include:
    * `Coding`
    * `Coding.ofNames`
    * `Coding.undo`
    * `undoAll`
-/

namespace LookingGlass.Collector

/- How bytes can be coded. -/
inductive Coding
  | identity
  | gzip
  | deflate
deriving DecidableEq, Repr

namespace Coding

/- The coding of a name in lower case. -/
def ofName? :
    String → Option Coding
  | "identity" => some .identity
  | "gzip" => some .gzip
  | "deflate" => some .deflate
  | _ => none

/- The blanks around names, control characters among them. -/
def isBlank
    (c : Char) : Bool :=
  let v := c.toNat
  (0x09 ≤ v && v ≤ 0x0D) || (0x1C ≤ v && v ≤ 0x20)

/- A text without the blanks around it. -/
def trim
    (cs : List Char) : List Char :=
  ((cs.dropWhile isBlank).reverse.dropWhile isBlank).reverse

/- The codings that names with commas between them give. -/
def ofNames
    (names : String) : List Coding :=
  (Text.pieces ',' names.toList).filterMap fun name =>
    ofName? (String.ofList ((trim name).map Char.toLower))

/-
  Undoes a coding. Of `deflate` there are two forms; the one
  with a header is tried first.
-/
def undo
    (bytes : Compression.Bytes) :
    Coding → Except Compression.Fault Compression.Bytes
  | .identity => .ok bytes
  | .gzip => Compression.Envelope.gzip.read bytes
  | .deflate =>
    match Compression.Envelope.zlib.read bytes with
    | .ok out => .ok out
    | .error _ => Compression.Envelope.bare.read bytes

end Coding

/- Undoes codings, the last one first. -/
def undoAll
    (codings : List Coding)
    (bytes : List UInt8) :
    Except Compression.Fault (List UInt8) :=
  (codings.reverse.foldlM Coding.undo bytes.toArray).map
    Array.toList

end LookingGlass.Collector
