import LookingGlass.Text.Quoted

/-
  This file defines which texts consist of ASCII only, and how
  it is reported when one does not.

  Key definitions include:
    * `Ascii.Error`
    * `Ascii.Error.message`
    * `Ascii.check`
-/

namespace LookingGlass.Text.Ascii

/- Whether a character is one of ASCII. -/
def isAscii
    (c : Char) : Bool :=
  c.toNat < 0x80

/- The first characters in a row that are not of ASCII. -/
structure Error where
  position : Nat
  first : Char
  count : Nat
deriving DecidableEq, Repr

/- The wording of an error. -/
def Error.message
    (e : Error) : String :=
  let what :=
    if e.count = 1 then
      let char := String.ofList (Quoted.escaped e.first.toNat)
      s!"character '{char}' in position {e.position}"
    else
      s!"characters in position {e.position}-" ++
        toString (e.position + e.count - 1)
  s!"'ascii' codec can't encode {what}: ordinal not in range(128)"

/- Checks that a text is of ASCII. -/
def check
    (cs : List Char) : Except Error Unit :=
  let before := cs.takeWhile isAscii
  match cs.drop before.length with
  | [] => .ok ()
  | c :: rest =>
    .error ⟨before.length, c, 1 + (rest.takeWhile (!isAscii ·)).length⟩

end LookingGlass.Text.Ascii
