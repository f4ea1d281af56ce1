/-
  This file defines floating-point numbers of 64 bits as exact
  binary fractions, and the one that is nearest to a decimal
  numeral.

  A finite number is `digits * 2 ^ power` with at most 53
  binary digits; all of them are used unless the power is the
  least one. A tie goes to the even neighbour, and what rounds
  past the greatest finite number is infinite.

  Key definitions include:
    * `Binary64`
    * `Binary64.nearest`
    * `Binary64.ofDecimal`
    * `Binary64.isZero`
    * `Binary64.integral?`
-/

namespace LookingGlass.Number

/- A floating-point number of 64 bits. -/
inductive Binary64
  | finite (negative : Bool) (digits : Nat) (power : Int)
  | infinite (negative : Bool)
  | nan
deriving DecidableEq, Repr

namespace Binary64

/- The power of the numbers nearest to zero. -/
def leastPower : Int := -1074

/- The power of the greatest numbers. -/
def greatestPower : Int := 971

------------------------------------------------------------
-- Rounding
------------------------------------------------------------

/- The quotient rounded to an integer, ties to even. -/
def roundedQuotient
    (num den : Nat) : Nat :=
  let q := num / den
  let twice := 2 * (num % den)
  if twice < den ∨ (twice = den ∧ q % 2 = 0) then q else q + 1

/- The floor of the binary logarithm of a positive quotient. -/
def floorLog2
    (num den : Nat) : Int :=
  let guess : Int := (num.log2 : Int) - (den.log2 : Int)
  let reached :=
    num * Nat.pow 2 (-guess).toNat ≥ den * Nat.pow 2 guess.toNat
  if reached then guess else guess - 1

/- The number nearest to a quotient of natural numbers. -/
def nearest
    (negative : Bool)
    (num den : Nat) : Binary64 :=
  if num = 0 then .finite negative 0 leastPower
  else
    let power := max (floorLog2 num den - 52) leastPower
    let digits :=
      roundedQuotient (num * Nat.pow 2 (-power).toNat)
        (den * Nat.pow 2 power.toNat)
    let normal :=
      if digits = Nat.pow 2 53 then (Nat.pow 2 52, power + 1)
      else (digits, power)
    if normal.2 > greatestPower then .infinite negative
    else .finite negative normal.1 normal.2

/-
  The number nearest to `mantissa * 10 ^ exponent`, where the
  mantissa is written with the given number of places. What is
  far outside of the range is decided without writing the
  power of ten out.
-/
def ofDecimal
    (negative : Bool)
    (mantissa : Nat)
    (places : Nat)
    (exponent : Int) : Binary64 :=
  if mantissa = 0 ∨ places + exponent < -400 then
    .finite negative 0 leastPower
  else if exponent > 400 then
    .infinite negative
  else
    nearest negative (mantissa * Nat.pow 10 exponent.toNat)
      (Nat.pow 10 (-exponent).toNat)

------------------------------------------------------------
-- Tests
------------------------------------------------------------

/- Whether a number is zero, of either sign. -/
def isZero :
    Binary64 → Bool
  | .finite _ digits _ => digits == 0
  | _ => false

/- The integer that a number is equal to, if there is one. -/
def integral? :
    Binary64 → Option Int
  | .finite negative digits power =>
    let scaled := digits * Nat.pow 2 power.toNat
    let den := Nat.pow 2 (-power).toNat
    if scaled % den = 0 then
      let n : Int := (scaled / den : Nat)
      some (if negative then -n else n)
    else none
  | _ => none

end Binary64

end LookingGlass.Number
