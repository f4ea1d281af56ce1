import LookingGlass.Text.Percent

/-
  This file defines the escaping of the parts of an address.
  Escapes that are there already stay as they are, and each
  part keeps characters of its own.

  Key definitions include:
    * `isPrintable`
    * `isPathChar`
    * `isQueryChar`
    * `isFragmentChar`
    * `isUserChar`
    * `isNameChar`
    * `escape`
-/

namespace LookingGlass.Url

------------------------------------------------------------
-- Characters of the parts
------------------------------------------------------------

/- The printable characters of ASCII, the space among them. -/
def isPrintable
    (c : Char) : Bool :=
  0x20 ≤ c.toNat && c.toNat < 0x7F

/- The printable characters that are not among given ones. -/
def printableExcept
    (marks : String)
    (c : Char) : Bool :=
  isPrintable c && !marks.toList.contains c

/- The characters that a fragment keeps. -/
def isFragmentChar : Char → Bool :=
  printableExcept " \"<>\x60"

/- The characters that a query string keeps. -/
def isQueryChar : Char → Bool :=
  printableExcept " \"#<>"

/- The characters that a path keeps. -/
def isPathChar : Char → Bool :=
  printableExcept " \"#<>?\x60\x7b\x7d"

/- The characters that a user with a password keeps. -/
def isUserChar : Char → Bool :=
  printableExcept " \"#<>?\x60\x7b\x7d/;=@[\\]^|"

/- The characters that the name of a host keeps. -/
def isNameChar : Char → Bool :=
  Text.Percent.keeping "!$&'()*+,;=\"\x60\x7b\x7d%|\\"

------------------------------------------------------------
-- Escaping
------------------------------------------------------------

/- Escapes what a part does not keep, but no escape. -/
def escape
    (keep : Char → Bool) :
    List Char → List Char
  | [] => []
  | '%' :: a :: b :: rest =>
    if (Text.Percent.hexValue? a).isSome ∧
        (Text.Percent.hexValue? b).isSome then
      '%' :: a :: b :: escape keep rest
    else
      Text.Percent.encode keep ['%'] ++ escape keep (a :: b :: rest)
  | c :: rest => Text.Percent.encode keep [c] ++ escape keep rest

end LookingGlass.Url
