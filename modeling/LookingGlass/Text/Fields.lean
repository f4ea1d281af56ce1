import LookingGlass.Text.Cut
import LookingGlass.Text.Percent

/-
  This file defines form fields: names and values joined by
  `=` and separated by `&`, in which a plus sign stands for a
  space and percent escapes for bytes.

  Key definitions include:
    * `Fields`
    * `Fields.read`
    * `Fields.first?`
    * `Fields.last?`
-/

namespace LookingGlass.Text

/- Named values in the order in which they were written. -/
abbrev Fields :=
  List (String × String)

namespace Fields

/- A name or value before its escapes are read. -/
def spaced
    (cs : List Char) : List Char :=
  cs.map fun c => if c = '+' then ' ' else c

/-
  Reads fields. An empty piece is no field, and a piece
  without `=` has an empty value. How bytes that are no UTF-8
  come out is up to the reader of escapes.
-/
def read
    (decode : List Char → List Char)
    (cs : List Char) : Fields :=
  ((pieces '&' cs).filter fun piece => !piece.isEmpty).map
    fun piece =>
      let parts := cut '=' piece
      (String.ofList (decode (spaced parts.1)),
        String.ofList (decode (spaced (parts.2.getD []))))

/- The value of the first field of a name. -/
def first?
    (fields : Fields)
    (name : String) : Option String :=
  fields.lookup name

/- The value of the last field of a name. -/
def last?
    (fields : Fields)
    (name : String) : Option String :=
  fields.reverse.lookup name

end Fields

end LookingGlass.Text
