import LookingGlass.Compression.PrefixCode

/-
  This file defines the reading of compressed bytes: blocks
  that are stored as they are, or in which literal bytes and
  copies of earlier ones are written in prefix codes.

  Where the bytes end before the last block does, what has been
  read up to there counts.

  Key definitions include:
    * `Codes`
    * `Codes.fixed`
    * `Codes.read`
    * `readSymbols`
    * `readBlock`
    * `inflate`
-/

namespace LookingGlass.Compression

------------------------------------------------------------
-- Codes
------------------------------------------------------------

/- The codes of a block: of literals and lengths, of distances. -/
structure Codes where
  literals : PrefixCode
  distances : PrefixCode
deriving DecidableEq, Repr

/- The codes of blocks that do not bring codes of their own. -/
def Codes.fixed : Codes :=
  { literals := .ofLengths
      (List.replicate 144 8 ++ List.replicate 112 9 ++
        List.replicate 24 7 ++ List.replicate 8 8)
    distances := .ofLengths (List.replicate 32 5) }

/- The order in which lengths of code words are themselves sent. -/
def lengthOrder : List Nat :=
  [16, 17, 18, 0, 8, 7, 9, 6, 10, 5, 11, 4, 12, 3, 13, 2, 14, 1, 15]

/- Reads numbers of three bits. -/
def readTriples
    (bytes : Bytes)
    (position : Nat) :
    (count : Nat) → Except Stop (List Nat)
  | 0 => .ok []
  | count + 1 => do
    let n ← readBits bytes position 3
    return n :: (← readTriples bytes (position + 3) count)

/- The code in which lengths of code words are written. -/
def lengthCode
    (triples : List Nat) : Except Stop PrefixCode :=
  let sent := lengthOrder.zip triples
  let lengths := (List.range 19).map fun symbol =>
    (sent.lookup symbol).getD 0
  if lengths.all (· == 0) then .ok [[0, 0]]
  else if PrefixCode.isComplete lengths then
    .ok (.ofLengths lengths)
  else .error (.damaged .codeLengths)

/-
  Reads a repetition of lengths: the length, how often it comes
  and the position behind it.
-/
def readRun
    (bytes : Bytes)
    (position symbol : Nat)
    (previous : Option Nat) : Except Stop (Nat × Nat × Nat) := do
  if symbol < 16 then return (symbol, 1, position)
  if symbol = 16 then
    let extra ← readBits bytes position 2
    match previous with
    | none => .error (.damaged .lengthRepeat)
    | some length => return (length, 3 + extra, position + 2)
  else if symbol = 17 then
    let extra ← readBits bytes position 3
    return (0, 3 + extra, position + 3)
  else
    let extra ← readBits bytes position 7
    return (0, 11 + extra, position + 7)

/-
  Reads lengths of code words until there are enough of them.
  Those that have been read are given from their end.
-/
def readLengths
    (code : PrefixCode)
    (bytes : Bytes)
    (position : Nat)
    (held : List Nat)
    (wanted : Nat) : Except Stop (List Nat × Nat) :=
  if wanted = 0 then .ok (held.reverse, position)
  else
    match code.read .codeLengths bytes position with
    | .error stop => .error stop
    | .ok (symbol, behind) =>
      match readRun bytes behind symbol held.head? with
      | .error stop => .error stop
      | .ok (length, count, behind) =>
        if _h : 0 < count ∧ count ≤ wanted then
          readLengths code bytes behind
            (List.replicate count length ++ held) (wanted - count)
        else .error (.damaged .lengthRepeat)
termination_by wanted
decreasing_by omega

/- The codes of lengths, of which so many are of literals. -/
def Codes.ofLengths
    (lengths : List Nat)
    (literalCount : Nat) : Except Stop Codes :=
  let literals := lengths.take literalCount
  let distances := lengths.drop literalCount
  if literals[256]?.getD 0 = 0 then .error (.damaged .endOfBlock)
  else if !PrefixCode.isUsable literals then
    .error (.damaged .literalLengths)
  else if !PrefixCode.isUsable distances then
    .error (.damaged .distanceLengths)
  else
    .ok { literals := .ofLengths literals
          distances := .ofLengths distances }

/- Reads the codes that a block brings, and the position behind. -/
def Codes.read
    (bytes : Bytes)
    (position : Nat) : Except Stop (Codes × Nat) := do
  let counts ← readBits bytes position 14
  let literalCount := 257 + counts % 32
  let distanceCount := 1 + counts / 32 % 32
  let tripleCount := 4 + counts / 1024
  if literalCount > 286 ∨ distanceCount > 30 then
    throw (.damaged .symbolCounts)
  let triples ← readTriples bytes (position + 14) tripleCount
  let code ← lengthCode triples
  let (lengths, behind) ←
    readLengths code bytes (position + 14 + 3 * tripleCount) []
      (literalCount + distanceCount)
  return (← Codes.ofLengths lengths literalCount, behind)

------------------------------------------------------------
-- Copies
------------------------------------------------------------

/-
  The first number that a symbol stands for, and how many bits
  are added to it. Symbols come in groups of so many, each
  group with one bit more than the one before.
-/
def span
    (group first symbol : Nat) : Nat × Nat :=
  if symbol < 2 * group then (first + symbol, 0)
  else
    let extra := symbol / group - 1
    (first + (group + symbol % group) * Nat.pow 2 extra, extra)

/- The shortest length of a symbol, and its additional bits. -/
def lengthSpan
    (symbol : Nat) : Nat × Nat :=
  if symbol = 285 then (258, 0) else span 4 3 (symbol - 257)

/- The shortest distance of a symbol, and its additional bits. -/
def distanceSpan
    (symbol : Nat) : Nat × Nat :=
  span 2 1 symbol

/- Reads a number of a span, and the position behind it. -/
def readSpan
    (bytes : Bytes)
    (position : Nat)
    (range : Nat × Nat) : Except Stop (Nat × Nat) :=
  (readBits bytes position range.2).map fun extra =>
    (range.1 + extra, position + range.2)

/- Repeats bytes from a distance. -/
def repeatBytes
    (distance : Nat) :
    (count : Nat) → Bytes → Bytes
  | 0, out => out
  | count + 1, out =>
    repeatBytes distance count
      (out.push (out[out.size - distance]?.getD 0))

/-
  Reads what a symbol of a length stands for: how many bytes
  are repeated from which distance, and the position behind.
-/
def readCopy
    (codes : Codes)
    (bytes : Bytes)
    (position symbol outSize : Nat) :
    Except Stop (Nat × Nat × Nat) := do
  if symbol > 285 then throw (.damaged .literalCode)
  let (length, position) ←
    readSpan bytes position (lengthSpan symbol)
  let (symbol, position) ←
    codes.distances.read .distanceCode bytes position
  if symbol > 29 then throw (.damaged .distanceCode)
  let (distance, position) ←
    readSpan bytes position (distanceSpan symbol)
  if distance > outSize then throw (.damaged .distance)
  return (length, distance, position)

------------------------------------------------------------
-- Blocks
------------------------------------------------------------

/-
  What has been read, and how it goes on: the position behind,
  or why there is none.
-/
abbrev Progress :=
  Bytes × Except Stop Nat

/- Reads symbols up to the end of a block. -/
def readSymbols
    (codes : Codes)
    (bytes : Bytes)
    (position : Nat)
    (out : Bytes) : Progress :=
  match codes.literals.read .literalCode bytes position with
  | .error stop => (out, .error stop)
  | .ok (symbol, behind) =>
    if symbol = 256 then (out, .ok behind)
    else
      let read : Except Stop (Bytes × Nat) :=
        if symbol < 256 then .ok (out.push symbol.toUInt8, behind)
        else
          (readCopy codes bytes behind symbol out.size).map
            fun (length, distance, behind) =>
              (repeatBytes distance length out, behind)
      match read with
      | .error stop => (out, .error stop)
      | .ok (longer, behind) =>
        if _h : position < behind ∧ behind ≤ 8 * bytes.size then
          readSymbols codes bytes behind longer
        else (longer, .error .ended)
termination_by 8 * bytes.size - position
decreasing_by omega

/- Reads a block that is stored as it is. -/
def readStored
    (bytes : Bytes)
    (position : Nat)
    (out : Bytes) : Progress :=
  let start := nextByte position
  match bits? bytes start 16, bits? bytes (start + 16) 16 with
  | some length, some complement =>
    if length + complement ≠ 0xFFFF then
      (out, .error (.damaged .storedLengths))
    else
      let first := start / 8 + 4
      let held := bytes.extract first (first + length)
      (out ++ held,
        if held.size = length then .ok (8 * (first + length))
        else .error .ended)
  | _, _ => (out, .error .ended)

/- Reads a block of a type. -/
def readBlock
    (type : Nat)
    (bytes : Bytes)
    (position : Nat)
    (out : Bytes) : Progress :=
  match type with
  | 0 => readStored bytes position out
  | 1 => readSymbols .fixed bytes position out
  | 2 =>
    match Codes.read bytes position with
    | .error stop => (out, .error stop)
    | .ok (codes, behind) => readSymbols codes bytes behind out
  | _ => (out, .error (.damaged .blockType))

/- Reads blocks up to the last one. -/
def readBlocks
    (bytes : Bytes)
    (position : Nat)
    (out : Bytes) : Progress :=
  match bits? bytes position 3 with
  | none => (out, .error .ended)
  | some lead =>
    match readBlock (lead / 2) bytes (position + 3) out with
    | (out, .error stop) => (out, .error stop)
    | (out, .ok behind) =>
      if lead % 2 = 1 then (out, .ok behind)
      else if _h : position < behind ∧ behind ≤ 8 * bytes.size then
        readBlocks bytes behind out
      else (out, .error .ended)
termination_by 8 * bytes.size - position
decreasing_by omega

/- The bytes that others from a position on are compressed from. -/
def inflate
    (bytes : Bytes)
    (position : Nat) : Progress :=
  readBlocks bytes position #[]

end LookingGlass.Compression
