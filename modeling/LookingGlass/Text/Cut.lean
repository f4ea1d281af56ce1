/-
  This file defines how a text is taken apart at a separator.

  A text is handled as a list of letters, which are characters,
  code points or bytes; a `String` is only its outer form.

  Key definitions include:
    * `cut`
    * `pieces`
    * `dropLead`
    * `dropAll`
-/

namespace LookingGlass.Text

variable {α : Type} [DecidableEq α]

------------------------------------------------------------
-- Separators
------------------------------------------------------------

/-
  Cuts a text at the first separator. The second part is
  missing when the text holds no separator.
-/
def cut
    (sep : α) :
    List α → List α × Option (List α)
  | [] => ([], none)
  | c :: rest =>
    if c = sep then ([], some rest)
    else
      let parts := cut sep rest
      (c :: parts.1, parts.2)

/-
  Cuts a text at every separator. There is always one piece
  more than there are separators.
-/
def pieces
    (sep : α) :
    List α → List (List α)
  | [] => [[]]
  | c :: rest =>
    if c = sep then [] :: pieces sep rest
    else
      match pieces sep rest with
      | [] => [[c]]
      | piece :: others => (c :: piece) :: others

------------------------------------------------------------
-- Leading letters
------------------------------------------------------------

/- Drops one leading letter, if it is the given one. -/
def dropLead
    (lead : α) :
    List α → List α
  | [] => []
  | c :: rest => if c = lead then rest else c :: rest

/- Drops every leading occurrence of a letter. -/
def dropAll
    (lead : α)
    (cs : List α) : List α :=
  cs.dropWhile (· == lead)

end LookingGlass.Text
