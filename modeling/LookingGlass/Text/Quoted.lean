import LookingGlass.Text.Percent
import LookingGlass.Text.Printable

/-
  This file defines quoted texts, the form in which messages
  show a text: between quotation marks, with escapes for the
  quotation mark, the backslash and all that is not printable.

  Key definitions include:
    * `Quoted.mark`
    * `Quoted.escapeChar`
    * `Quoted.escapePoint`
    * `quoted`
    * `quotedPoints`
-/

namespace LookingGlass.Text

namespace Quoted

/-
  The quotation mark of a text: the single one, unless the
  text holds single ones and no double one.
-/
def mark
    (cs : List Char) : Char :=
  if cs.contains '\'' && !cs.contains '"' then '"' else '\''

/- A number as hexadecimal digits of lower case. -/
def hexDigits
    (width n : Nat) : List Char :=
  match width with
  | 0 => []
  | width + 1 =>
    hexDigits width (n / 16) ++
      [(Percent.hexDigit (n % 16)).toLower]

/- A code point as an escape. -/
def escaped
    (point : Nat) : List Char :=
  if point < 0x100 then '\\' :: 'x' :: hexDigits 2 point
  else if point < 0x10000 then '\\' :: 'u' :: hexDigits 4 point
  else '\\' :: 'U' :: hexDigits 8 point

/- One character between quotation marks of the given kind. -/
def escapeChar
    (quote : Char)
    (c : Char) : List Char :=
  if c = quote ∨ c = '\\' then ['\\', c]
  else if c = '\n' then ['\\', 'n']
  else if c = '\r' then ['\\', 'r']
  else if c = '\t' then ['\\', 't']
  else if isPrintable c then [c]
  else escaped c.toNat

/- One code point between quotation marks of the given kind. -/
def escapePoint
    (quote : Char)
    (point : Nat) : List Char :=
  if Nat.isValidChar point then escapeChar quote (Char.ofNat point)
  else escaped point

end Quoted

/- The quoted form of a text. -/
def quoted
    (s : String) : String :=
  let quote := Quoted.mark s.toList
  String.ofList
    (quote :: s.toList.flatMap (Quoted.escapeChar quote) ++ [quote])

/- The quoted form of code points, not all of them characters. -/
def quotedPoints
    (points : List Nat) : String :=
  let quote := Quoted.mark (points.map Char.ofNat)
  String.ofList
    (quote :: points.flatMap (Quoted.escapePoint quote) ++ [quote])

end LookingGlass.Text
