/-
  This file defines bytes as a sequence of bits, of which the
  lowest of each byte comes first, and why reading them stops.

  Key definitions include:
    * `Bytes`
    * `bit?`
    * `bits?`
    * `nextByte`
    * `Fault`
    * `Fault.message`
    * `Stop`
-/

namespace LookingGlass.Compression

------------------------------------------------------------
-- Bits
------------------------------------------------------------

/- Bytes that can be looked at in any order. -/
abbrev Bytes :=
  Array UInt8

/- The bit at a position. -/
def bit?
    (bytes : Bytes)
    (position : Nat) : Option Nat :=
  bytes[position / 8]?.map fun byte =>
    byte.toNat / Nat.pow 2 (position % 8) % 2

/- The number that some bits from a position on are. -/
def bits?
    (bytes : Bytes)
    (position : Nat) :
    (count : Nat) → Option Nat
  | 0 => some 0
  | count + 1 =>
    match bit? bytes position with
    | none => none
    | some low =>
      (bits? bytes (position + 1) count).map (low + 2 * ·)

/- The position of the first byte that has not been started. -/
def nextByte
    (position : Nat) : Nat :=
  (position + 7) / 8 * 8

------------------------------------------------------------
-- Faults
------------------------------------------------------------

/- What is wrong with compressed bytes. -/
inductive Fault
  | headerCheck
  | compressionMethod
  | windowSize
  | headerFlags
  | headerSum
  | dictionary
  | blockType
  | storedLengths
  | symbolCounts
  | codeLengths
  | lengthRepeat
  | endOfBlock
  | literalLengths
  | distanceLengths
  | literalCode
  | distanceCode
  | distance
  | dataCheck
  | lengthCheck
deriving DecidableEq, Repr

/- The wording of what is wrong; a dictionary has none. -/
def Fault.detail? :
    Fault → Option String
  | .headerCheck => "incorrect header check"
  | .compressionMethod => "unknown compression method"
  | .windowSize => "invalid window size"
  | .headerFlags => "unknown header flags set"
  | .headerSum => "header crc mismatch"
  | .dictionary => none
  | .blockType => "invalid block type"
  | .storedLengths => "invalid stored block lengths"
  | .symbolCounts => "too many length or distance symbols"
  | .codeLengths => "invalid code lengths set"
  | .lengthRepeat => "invalid bit length repeat"
  | .endOfBlock => "invalid code -- missing end-of-block"
  | .literalLengths => "invalid literal/lengths set"
  | .distanceLengths => "invalid distances set"
  | .literalCode => "invalid literal/length code"
  | .distanceCode => "invalid distance code"
  | .distance => "invalid distance too far back"
  | .dataCheck => "incorrect data check"
  | .lengthCheck => "incorrect length check"

/- The wording of a fault, with its number. -/
def Fault.message
    (fault : Fault) : String :=
  match fault.detail? with
  | none => "Error 2 while decompressing data"
  | some detail => "Error -3 while decompressing data: " ++ detail

/- Why reading stops: the bytes are at an end, or are wrong. -/
inductive Stop
  | ended
  | damaged (fault : Fault)
deriving DecidableEq, Repr

/- A number of bits, unless the bytes end before. -/
def readBits
    (bytes : Bytes)
    (position count : Nat) : Except Stop Nat :=
  match bits? bytes position count with
  | none => .error .ended
  | some n => .ok n

end LookingGlass.Compression
