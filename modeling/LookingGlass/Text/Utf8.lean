/-
  This file defines UTF-8: the bytes of a character, and the
  reading of arbitrary bytes as characters and broken parts.

  A broken part is as long as it can be while it still starts
  some character, so that a reader resumes at the first byte
  that rules a character out.

  Key definitions include:
    * `encodeChar`
    * `encode`
    * `Fault`
    * `Chunk`
    * `chunks`
    * `decodeLossy`
-/

namespace LookingGlass.Text.Utf8

------------------------------------------------------------
-- Writing
------------------------------------------------------------

/- The bytes of one character. -/
def encodeChar
    (c : Char) : List UInt8 :=
  let v := c.toNat
  if v < 0x80 then
    [v.toUInt8]
  else if v < 0x800 then
    [(0xC0 + v / 0x40).toUInt8,
      (0x80 + v % 0x40).toUInt8]
  else if v < 0x10000 then
    [(0xE0 + v / 0x1000).toUInt8,
      (0x80 + v / 0x40 % 0x40).toUInt8,
      (0x80 + v % 0x40).toUInt8]
  else
    [(0xF0 + v / 0x40000).toUInt8,
      (0x80 + v / 0x1000 % 0x40).toUInt8,
      (0x80 + v / 0x40 % 0x40).toUInt8,
      (0x80 + v % 0x40).toUInt8]

/- The bytes of a text. -/
def encode
    (cs : List Char) : List UInt8 :=
  cs.flatMap encodeChar

------------------------------------------------------------
-- Reading
------------------------------------------------------------

/- Why a run of bytes is no character. -/
inductive Fault
  | start
  | continuation
  | ended
deriving DecidableEq, Repr

/- A character, or a run of bytes that is none. -/
inductive Chunk
  | scalar (c : Char)
  | broken (bytes : List UInt8) (fault : Fault)
deriving DecidableEq, Repr

/-
  A character of which some bytes have been read: these bytes,
  the value so far, how many bytes are wanted after the next
  one, and the least and the greatest next byte.
-/
structure Pending where
  bytes : List UInt8
  value : Nat
  more : Nat
  low : Nat
  high : Nat
deriving DecidableEq, Repr

/-
  The first byte of a character. The narrower ranges keep out
  overlong forms, surrogates and values past the last code
  point.
-/
def opening
    (b : UInt8) : List Chunk × Option Pending :=
  let v := b.toNat
  if v < 0x80 then
    ([.scalar (Char.ofNat v)], none)
  else if v < 0xC2 then
    ([.broken [b] .start], none)
  else if v < 0xE0 then
    ([], some ⟨[b], v - 0xC0, 0, 0x80, 0xBF⟩)
  else if v < 0xF0 then
    ([], some ⟨[b], v - 0xE0, 1,
      if v = 0xE0 then 0xA0 else 0x80,
      if v = 0xED then 0x9F else 0xBF⟩)
  else if v < 0xF5 then
    ([], some ⟨[b], v - 0xF0, 2,
      if v = 0xF0 then 0x90 else 0x80,
      if v = 0xF4 then 0x8F else 0xBF⟩)
  else
    ([.broken [b] .start], none)

/-
  One byte more: the chunks that it completes, and what is
  pending after it. A byte that cannot continue the pending
  character breaks it off and opens the next one.
-/
def step
    (pending : Option Pending)
    (b : UInt8) : List Chunk × Option Pending :=
  match pending with
  | none => opening b
  | some p =>
    if p.low ≤ b.toNat ∧ b.toNat ≤ p.high then
      let value := p.value * 0x40 + (b.toNat - 0x80)
      match p.more with
      | 0 => ([.scalar (Char.ofNat value)], none)
      | more + 1 =>
        ([], some ⟨p.bytes ++ [b], value, more, 0x80, 0xBF⟩)
    else
      let next := opening b
      (.broken p.bytes .continuation :: next.1, next.2)

/- The chunks of the bytes that follow a pending character. -/
def chunksFrom
    (pending : Option Pending) :
    List UInt8 → List Chunk
  | [] =>
    match pending with
    | none => []
    | some p => [.broken p.bytes .ended]
  | b :: rest =>
    let next := step pending b
    next.1 ++ chunksFrom next.2 rest

/- The characters and broken parts of a byte sequence. -/
def chunks
    (bytes : List UInt8) : List Chunk :=
  chunksFrom none bytes

/- Reads bytes, with U+FFFD in place of each broken part. -/
def decodeLossy
    (bytes : List UInt8) : List Char :=
  (chunks bytes).map fun
    | .scalar c => c
    | .broken _ _ => '\uFFFD'

end LookingGlass.Text.Utf8
