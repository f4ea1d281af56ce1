import LookingGlass.Compression.Bits

/-
  This file defines the codes that symbols are compressed with.
  No code word is the start of another one, and the words are
  given by their lengths: shorter words come first, and words
  of a length are in the order of their symbols.

  Key definitions include:
    * `PrefixCode`
    * `PrefixCode.ofLengths`
    * `PrefixCode.isComplete`
    * `PrefixCode.isUsable`
    * `PrefixCode.read`
-/

namespace LookingGlass.Compression

/- The symbols with words of one bit, of two bits, and so on. -/
abbrev PrefixCode :=
  List (List Nat)

namespace PrefixCode

/- The greatest length of a word. -/
def greatestLength : Nat := 15

/- The symbols whose words have a length. -/
def symbols
    (lengths : List Nat)
    (length : Nat) : List Nat :=
  (lengths.zipIdx.filter fun entry => entry.1 == length).map Prod.snd

/-
  The code of the lengths of its symbols' words. A symbol of
  length 0 has no word.
-/
def ofLengths
    (lengths : List Nat) : PrefixCode :=
  let longest := max 1 (lengths.foldl max 0)
  (List.range longest).map fun n => symbols lengths (n + 1)

/- How many words of the greatest length are taken up. -/
def weight
    (lengths : List Nat) : Nat :=
  ((lengths.filter (· != 0)).map fun length =>
    Nat.pow 2 (greatestLength - length)).foldr (· + ·) 0

/- Whether every sequence of bits starts with a word. -/
def isComplete
    (lengths : List Nat) : Bool :=
  weight lengths == Nat.pow 2 greatestLength

/- Whether there are no words but one of a single bit at most. -/
def isSmall
    (lengths : List Nat) : Bool :=
  weight lengths ≤ Nat.pow 2 greatestLength &&
    lengths.all (· ≤ 1)

/- Whether lengths are those of a code that can be used. -/
def isUsable
    (lengths : List Nat) : Bool :=
  isComplete lengths || isSmall lengths

/-
  Reads the symbol of a word. The number given is how far the
  bits so far are behind the words of their length.
-/
def readFrom
    (fault : Fault)
    (bytes : Bytes)
    (position value : Nat) :
    PrefixCode → Except Stop (Nat × Nat)
  | [] => .error (.damaged fault)
  | symbols :: longer =>
    match bit? bytes position with
    | none => .error .ended
    | some bit =>
      let value := 2 * value + bit
      match symbols[value]? with
      | some symbol => .ok (symbol, position + 1)
      | none =>
        readFrom fault bytes (position + 1)
          (value - symbols.length) longer

/-
  Reads the symbol of the word at a position, and the position
  behind it. It is a fault if no word stands there.
-/
def read
    (code : PrefixCode)
    (fault : Fault)
    (bytes : Bytes)
    (position : Nat) : Except Stop (Nat × Nat) :=
  readFrom fault bytes position 0 code

end PrefixCode

end LookingGlass.Compression
