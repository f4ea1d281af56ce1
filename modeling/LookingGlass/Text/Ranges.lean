/-
  This file defines sets of code points that are written down as
  ranges. A code point is a number, as not every one of them is
  a character.

  Key definitions include:
    * `Ranges`
    * `Ranges.has`
-/

namespace LookingGlass.Text

/- Closed ranges of code points. -/
abbrev Ranges :=
  List (Nat × Nat)

/- Whether a code point is in one of the ranges. -/
def Ranges.has
    (ranges : Ranges)
    (point : Nat) : Bool :=
  ranges.any fun range =>
    range.1 ≤ point && point ≤ range.2

end LookingGlass.Text
