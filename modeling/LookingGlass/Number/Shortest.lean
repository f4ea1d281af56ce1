import LookingGlass.Number.Binary64

/-
  This file defines the text of a floating-point number: the
  fewest decimal digits that only this number is nearest to,
  and of several such the ones nearest to the number.

  Key definitions include:
    * `Binary64.shortest`
    * `Layout`
    * `Layout.write`
    * `Binary64.text`
-/

namespace LookingGlass.Number

namespace Binary64

------------------------------------------------------------
-- The decimals that round to a number
------------------------------------------------------------

/-
  The interval of the reals that round to a positive number,
  with its ends and the number itself in quarters of the last
  binary place. The ends belong to it when the number is even.
  Below a power of two the lower end is half as far away.
-/
structure Span where
  low : Nat
  value : Nat
  high : Nat
  closed : Bool
  power : Int
deriving DecidableEq, Repr

/- The interval around a positive finite number. -/
def span
    (digits : Nat)
    (power : Int) : Span :=
  let narrow := digits == Nat.pow 2 52 && power > leastPower
  { low := if narrow then 4 * digits - 1 else 4 * digits - 2
    value := 4 * digits
    high := 4 * digits + 2
    closed := digits % 2 == 0
    power := power - 2 }

/- A multiple of the span's unit, ready to be compared. -/
def Span.scaled
    (s : Span)
    (exponent : Int)
    (n : Nat) : Nat :=
  n * Nat.pow 2 s.power.toNat * Nat.pow 10 (-exponent).toNat

/- A multiple of a power of ten, ready to be compared. -/
def Span.scaledDecimal
    (s : Span)
    (exponent : Int)
    (n : Nat) : Nat :=
  n * Nat.pow 10 exponent.toNat * Nat.pow 2 (-s.power).toNat

/- Whether a decimal lies in the interval. -/
def Span.holds
    (s : Span)
    (exponent : Int)
    (n : Nat) : Bool :=
  let x := s.scaledDecimal exponent n
  let low := s.scaled exponent s.low
  let high := s.scaled exponent s.high
  if s.closed then low ≤ x && x ≤ high
  else low < x && x < high

/-
  The decimal of a grid that lies in the interval: one of the
  two neighbours of the number, the nearer one if both do, and
  the even one of two that are equally near.
-/
def Span.onGrid?
    (s : Span)
    (exponent : Int) : Option Nat :=
  let value := s.scaled exponent s.value
  let below := value / s.scaledDecimal exponent 1
  let above := below + 1
  match s.holds exponent below, s.holds exponent above with
  | true, true =>
    let down := value - s.scaledDecimal exponent below
    let up := s.scaledDecimal exponent above - value
    if down < up ∨ (down = up ∧ below % 2 = 0) then some below
    else some above
  | true, false => some below
  | false, true => some above
  | false, false => none

/- How many decimal digits a natural number has. -/
def decimalLength
    (n : Nat) : Nat :=
  (Nat.toDigits 10 n).length

/- The floor of the decimal logarithm of a positive quotient. -/
def floorLog10
    (num den : Nat) : Int :=
  let guess : Int := (decimalLength num : Int) - decimalLength den
  let reached :=
    num * Nat.pow 10 (-guess).toNat ≥
      den * Nat.pow 10 guess.toNat
  if reached then guess else guess - 1

/-
  The shortest decimal of a positive finite number, as digits
  and the power of ten of the last one. Seventeen digits are
  always enough.
-/
def shortest
    (digits : Nat)
    (power : Int) : Nat × Int :=
  let s := span digits power
  let top :=
    floorLog10 (digits * Nat.pow 2 power.toNat)
      (Nat.pow 2 (-power).toNat)
  let found :=
    (List.range 17).findSome? fun (extra : Nat) =>
      let exponent := top - (extra : Int)
      (s.onGrid? exponent).map (·, exponent)
  found.getD (0, 0)

end Binary64

------------------------------------------------------------
-- Layout
------------------------------------------------------------

/-
  How a decimal is laid out: the leading digit's powers of ten
  for which all places are written out, and the least number
  of digits of an exponent.
-/
structure Layout where
  leastPositional : Int
  greatestPositional : Int
  exponentDigits : Nat
deriving DecidableEq, Repr

/-
  Numbers are written out from a ten-thousandth up to sixteen
  places, otherwise with an exponent of two digits or more.
-/
def plainLayout : Layout :=
  { leastPositional := -4
    greatestPositional := 15
    exponentDigits := 2 }

/- Zeros in front of a text up to a length. -/
def padded
    (length : Nat)
    (s : String) : String :=
  String.ofList (List.replicate (length - s.length) '0') ++ s

/- The text of decimal digits whose first one has a power. -/
def Layout.write
    (layout : Layout)
    (digits : List Char)
    (lead : Int) : String :=
  if layout.leastPositional ≤ lead ∧
      lead ≤ layout.greatestPositional then
    if lead < 0 then
      String.ofList
        ("0.".toList ++ List.replicate (-lead - 1).toNat '0' ++
          digits)
    else
      let places := lead.toNat + 1
      let whole :=
        digits.take places ++
          List.replicate (places - digits.length) '0'
      let fraction := digits.drop places
      String.ofList
        (whole ++ ['.'] ++
          if fraction.isEmpty then ['0'] else fraction)
  else
    let fraction := digits.drop 1
    let mantissa :=
      digits.take 1 ++
        if fraction.isEmpty then [] else '.' :: fraction
    let sign := if lead < 0 then "e-" else "e+"
    String.ofList mantissa ++ sign ++
      padded layout.exponentDigits (toString lead.natAbs)

namespace Binary64

/- The decimal digits of a number without closing zeros. -/
def significant
    (n : Nat) : List Char :=
  ((Nat.toDigits 10 n).reverse.dropWhile (· == '0')).reverse

/- The text of a number. -/
def text :
    Binary64 → String
  | .nan => "nan"
  | .infinite negative => if negative then "-inf" else "inf"
  | .finite negative digits power =>
    let sign := if negative then "-" else ""
    if digits = 0 then sign ++ "0.0"
    else
      let (n, exponent) := shortest digits power
      let lead := exponent + (decimalLength n : Int) - 1
      sign ++ plainLayout.write (significant n) lead

end Binary64

end LookingGlass.Number
