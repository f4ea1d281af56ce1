import LookingGlass.Text.Cut

/-
  This file defines the resolution of the segments `.` and
  `..` in paths.

  Key definitions include:
    * `resolveStep`
    * `resolveDots`
-/

namespace LookingGlass.Url

/- The segments so far, the last one first, and one more. -/
def resolveStep
    (held : List (List Char))
    (segment : List Char) : List (List Char) :=
  if segment = ['.'] then held
  else if segment = ['.', '.'] then
    if held = [[]] then held else held.drop 1
  else segment :: held

/- A path without the segments `.` and `..`. -/
def resolveDots
    (path : List Char) : List Char :=
  let segments := (Text.pieces '/' path).foldl resolveStep []
  ['/'].intercalate segments.reverse

end LookingGlass.Url
