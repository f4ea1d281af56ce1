import LookingGlass.Compression.Checksum
import LookingGlass.Compression.Deflate

/-
  This file defines the forms in which compressed bytes are
  sent: bare, or between a header and sums that they are checked
  by. What follows the sums does not count.

  Key definitions include:
    * `Envelope`
    * `zlibStart`
    * `gzipStart`
    * `Envelope.read`
-/

namespace LookingGlass.Compression

/- The forms of compressed bytes. -/
inductive Envelope
  | bare
  | zlib
  | gzip
deriving DecidableEq, Repr

------------------------------------------------------------
-- Headers
------------------------------------------------------------

/- The position behind a short header. -/
def zlibStart
    (bytes : Bytes) : Except Stop Nat := do
  let method ← readBits bytes 0 4
  let window ← readBits bytes 4 4
  let flags ← readBits bytes 8 8
  if ((window * 16 + method) * 256 + flags) % 31 ≠ 0 then
    throw (.damaged .headerCheck)
  if method ≠ 8 then throw (.damaged .compressionMethod)
  if window > 7 then throw (.damaged .windowSize)
  if flags / 32 % 2 = 0 then return 16
  let _ ← readBits bytes 16 32
  throw (.damaged .dictionary)

/- The position behind a text that ends with a zero byte. -/
def skipText
    (bytes : Bytes)
    (position : Nat) : Except Stop Nat :=
  match bits? bytes position 8 with
  | none => .error .ended
  | some 0 => .ok (position + 8)
  | some _ =>
    if h : position < 8 * bytes.size then
      skipText bytes (position + 8)
    else .error .ended
termination_by 8 * bytes.size - position
decreasing_by omega

/- The position behind additional bytes. -/
def skipExtra
    (bytes : Bytes)
    (position : Nat) : Except Stop Nat := do
  let size ← readBits bytes position 16
  let behind := position + 16 + 8 * size
  if behind > 8 * bytes.size then throw .ended
  return behind

/- The position behind the sum of a header. -/
def skipHeaderSum
    (bytes : Bytes)
    (position : Nat) : Except Stop Nat := do
  let sum ← readBits bytes position 16
  if sum ≠ crc (bytes.extract 0 (position / 8)) % 65536 then
    throw (.damaged .headerSum)
  return position + 16

/- The position behind a long header. -/
def gzipStart
    (bytes : Bytes) : Except Stop Nat := do
  let lead ← readBits bytes 0 16
  if lead ≠ 0x8B1F then throw (.damaged .headerCheck)
  let methodAndFlags ← readBits bytes 16 16
  let flags := methodAndFlags / 256
  if methodAndFlags % 256 ≠ 8 then
    throw (.damaged .compressionMethod)
  if flags ≥ 32 then throw (.damaged .headerFlags)
  let _ ← readBits bytes 32 48
  let isSet (n : Nat) : Bool := flags / Nat.pow 2 n % 2 == 1
  let behindExtra ←
    if isSet 2 then skipExtra bytes 80 else pure 80
  let behindName ←
    if isSet 3 then skipText bytes behindExtra else pure behindExtra
  let behindComment ←
    if isSet 4 then skipText bytes behindName else pure behindName
  if isSet 1 then skipHeaderSum bytes behindComment
  else return behindComment

------------------------------------------------------------
-- Sums
------------------------------------------------------------

/- A number of four bytes, the highest first. -/
def highFirst
    (n : Nat) : Nat :=
  ((n % 256 * 256 + n / 256 % 256) * 256 + n / 65536 % 256) * 256 +
    n / 16777216 % 256

/- Checks the sums that follow compressed bytes. -/
def checkSums
    (envelope : Envelope)
    (bytes : Bytes)
    (position : Nat)
    (out : Bytes) : Except Stop Unit := do
  let start := nextByte position
  match envelope with
  | .bare => return ()
  | .zlib =>
    let sum ← readBits bytes start 32
    if highFirst sum ≠ adler out then throw (.damaged .dataCheck)
  | .gzip =>
    let sum ← readBits bytes start 32
    if sum ≠ crc out then throw (.damaged .dataCheck)
    let size ← readBits bytes (start + 32) 32
    if size ≠ out.size % Nat.pow 2 32 then throw (.damaged .lengthCheck)

------------------------------------------------------------
-- Reading
------------------------------------------------------------

/- The position at which the compressed bytes start. -/
def Envelope.start
    (envelope : Envelope)
    (bytes : Bytes) : Except Stop Nat :=
  match envelope with
  | .bare => .ok 0
  | .zlib => zlibStart bytes
  | .gzip => gzipStart bytes

/- What comes of bytes, and why reading them stopped early. -/
def Envelope.progress
    (envelope : Envelope)
    (bytes : Bytes) : Bytes × Except Stop Unit :=
  match envelope.start bytes with
  | .error stop => (#[], .error stop)
  | .ok start =>
    match inflate bytes start with
    | (out, .error stop) => (out, .error stop)
    | (out, .ok behind) =>
      (out, checkSums envelope bytes behind out)

/-
  The bytes that others are compressed from. Where these end too
  early, it is what has been read up to there.
-/
def Envelope.read
    (envelope : Envelope)
    (bytes : Bytes) : Except Fault Bytes :=
  match envelope.progress bytes with
  | (_, .error (.damaged fault)) => .error fault
  | (out, _) => .ok out

end LookingGlass.Compression
