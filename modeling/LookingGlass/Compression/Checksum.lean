/-
  This file defines the sums by which bytes are checked.

  Key definitions include:
    * `adler`
    * `crc`
-/

namespace LookingGlass.Compression

------------------------------------------------------------
-- Sums of bytes
------------------------------------------------------------

/- The number of different sums. -/
def adlerModulus : Nat := 65521

/- The sum of bytes, and the sum of all sums on the way. -/
def adlerSums
    (bytes : Array UInt8) : Nat × Nat :=
  bytes.foldl
    (fun sums byte =>
      let low := (sums.1 + byte.toNat) % adlerModulus
      (low, (sums.2 + low) % adlerModulus))
    (1, 0)

/- Both sums of bytes as one number. -/
def adler
    (bytes : Array UInt8) : Nat :=
  (adlerSums bytes).2 * 65536 + (adlerSums bytes).1

------------------------------------------------------------
-- Cyclic checks
------------------------------------------------------------

/- The divisor of the check, its lowest bit first. -/
def crcDivisor : UInt32 := 0xEDB88320

/- Divides the bits of a remainder one after another. -/
def crcShift :
    (count : Nat) → UInt32 → UInt32
  | 0, r => r
  | count + 1, r =>
    let half := r >>> 1
    crcShift count (if r &&& 1 = 1 then half ^^^ crcDivisor else half)

/- The remainder of bytes by the divisor. -/
def crc
    (bytes : Array UInt8) : Nat :=
  let remainder := bytes.foldl
    (fun r byte => crcShift 8 (r ^^^ byte.toUInt32))
    0xFFFFFFFF
  (remainder ^^^ 0xFFFFFFFF).toNat

end LookingGlass.Compression
