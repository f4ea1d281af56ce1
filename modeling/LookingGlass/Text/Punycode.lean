/-
  This file defines Punycode, the form of a text in letters,
  digits and hyphens.

  The characters of ASCII come first. The others follow in the
  order of their code points, each as the distance from the one
  before it, written in digits of base 36 whose thresholds
  adapt to the distances so far.

  Key definitions include:
    * `digit`
    * `threshold`
    * `adapt`
    * `number`
    * `Progress`
    * `encode`
    * `readNumber?`
    * `decode?`
-/

namespace LookingGlass.Text.Punycode

------------------------------------------------------------
-- Numbers
------------------------------------------------------------

/- The digit of a number below 36: a letter, then a number. -/
def digit
    (n : Nat) : Char :=
  if n < 26 then Char.ofNat (0x61 + n)
  else Char.ofNat (0x30 + (n - 26))

/- The threshold of a position, from 1 to 26. -/
def threshold
    (bias position : Nat) : Nat :=
  max 1 (min 26 (position - bias))

/- Divides until a distance is small, and counts by 36. -/
def shrink
    (count distance : Nat) : Nat × Nat :=
  if 455 < distance then shrink (count + 36) (distance / 35)
  else (count, distance)
termination_by distance
decreasing_by omega

/- The bias after a distance, with some characters written. -/
def adapt
    (isFirst : Bool)
    (written distance : Nat) : Nat :=
  let damped := if isFirst then distance / 700 else distance / 2
  let shrunk := shrink 0 (damped + damped / written)
  shrunk.1 + 36 * shrunk.2 / (shrunk.2 + 38)

/- A number in digits that end with one below its threshold. -/
def number
    (bias position n : Nat) : List Char :=
  let t := threshold bias position
  if n < t then [digit n]
  else
    digit (t + (n - t) % (36 - t)) ::
      number bias (position + 36) ((n - t) / (36 - t))
termination_by n
decreasing_by
  have hPos : 1 ≤ threshold bias position := by
    simp only [threshold]
    omega
  exact Nat.lt_of_le_of_lt (Nat.div_le_self _ _) (by omega)

------------------------------------------------------------
-- Texts
------------------------------------------------------------

/- What is written, and the distance since the last number. -/
structure Progress where
  digits : List Char
  distance : Nat
  bias : Nat
  written : Nat
deriving DecidableEq, Repr

/- Looks at one code point on the way to another one. -/
def visit
    (basic target : Nat)
    (p : Progress)
    (point : Nat) : Progress :=
  if point < target then { p with distance := p.distance + 1 }
  else if point = target then
    { digits := p.digits ++ number p.bias 36 p.distance
      distance := 0
      bias := adapt (p.written == basic) (p.written + 1) p.distance
      written := p.written + 1 }
  else p

/- Writes all places of the given code points. -/
def writePoints
    (text : List Nat)
    (basic : Nat) :
    (next : Nat) → List Nat → Progress → List Char
  | _, [], p => p.digits
  | next, target :: targets, p =>
    let skipped := (target - next) * (p.written + 1)
    let start := { p with distance := p.distance + skipped }
    let done := text.foldl (visit basic target) start
    writePoints text basic (target + 1) targets
      { done with distance := done.distance + 1 }

/- The Punycode of a text in code points. -/
def encode
    (text : List Nat) : List Char :=
  let basic := text.filter (· < 0x80)
  let targets := (text.filter (0x80 ≤ ·)).eraseDups.mergeSort
  let mark := if basic.isEmpty then [] else ['-']
  basic.map Char.ofNat ++ mark ++
    writePoints text basic.length 0x80 targets
      ⟨[], 0, 72, basic.length⟩

------------------------------------------------------------
-- Reading
------------------------------------------------------------

/- The value of a digit in either case. -/
def digitValue?
    (c : Char) : Option Nat :=
  if c.isAlpha then some (c.toLower.toNat - 0x61)
  else if c.isDigit then some (c.toNat - 0x30 + 26)
  else none

/- A number at the start of digits, and the digits behind it. -/
def readNumber?
    (bias position weight : Nat) :
    (digits : List Char) →
      Option (Nat × { r : List Char // r.length < digits.length })
  | [] => none
  | c :: rest =>
    match digitValue? c with
    | none => none
    | some d =>
      let t := threshold bias position
      if d < t then some (d * weight, ⟨rest, by simp⟩)
      else
        match readNumber? bias (position + 36)
            (weight * (36 - t)) rest with
        | none => none
        | some (n, r) =>
          some (d * weight + n, ⟨r.1, Nat.lt_succ_of_lt r.2⟩)

/- The greatest code point. -/
def greatestPoint : Nat := 0x10FFFF

/-
  Reads numbers into a text. Each says how far it is to the
  place and code point of the next character.
-/
def readPoints
    (text : List Nat)
    (isFirst : Bool)
    (bias point index : Nat)
    (digits : List Char) : Option (List Nat) :=
  if digits.isEmpty then some text
  else
    match readNumber? bias 36 1 digits with
    | none => none
    | some (distance, rest) =>
      let size := text.length + 1
      let point := point + (index + distance) / size
      let index := (index + distance) % size
      if point ≤ greatestPoint then
        readPoints (text.insertIdx index point) false
          (adapt isFirst size distance) point (index + 1) rest.1
      else none
termination_by digits.length
decreasing_by exact rest.2

/-
  The text of Punycode, in code points. Any of them can come
  out, also those that are no characters.
-/
def decode?
    (cs : List Char) : Option (List Nat) :=
  let digits := (cs.reverse.takeWhile (· != '-')).reverse
  let basic := (cs.take (cs.length - digits.length)).dropLast
  readPoints (basic.map Char.toNat) true 72 0x80 0 digits

end LookingGlass.Text.Punycode
