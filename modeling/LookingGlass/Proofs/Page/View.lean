import LookingGlass.Proofs.Page.Controls

/-
  This file defines what a reader of a page sees: selects with
  options and their labels, inputs, and links; and the frame of
  a page, which is its tags without the texts that fill them.

  Texts of a page that are read in one or in several pieces
  make no difference to either.

  Key definitions include:
    * `Item`
    * `Part`
    * `View.push`
    * `parts`
    * `frame`
-/

namespace LookingGlass.Page

------------------------------------------------------------
-- Parts
------------------------------------------------------------

/- An option of a select, with the text that shows it. -/
structure Item where
  value : String
  label : String
  isSelected : Bool
deriving DecidableEq, Repr

/-
  A part of a page that a user acts on. A select may name what
  happens when another option is chosen.
-/
inductive Part
  | select (name onChange : Option String) (items : List Item)
  | input (name kind : Option String) (value : String)
  | link (target : Option String) (label : String)
deriving DecidableEq, Repr

/-
  What is seen from the end of a page up to some token: the text
  there, the options that no select holds yet, and the parts.
-/
structure View where
  text : String := ""
  items : List Item := []
  parts : List Part := []
deriving DecidableEq, Repr

namespace View

/- A view with a start tag in front; the text is what it shows. -/
def pushTag
    (name : String)
    (entries : List Attribute)
    (view : View) : View :=
  let rest := { view with text := "" }
  if name = "option" then
    let item : Item :=
      { value := (value? "value" entries).getD view.text
        label := view.text
        isSelected := isMarked "selected" entries }
    { rest with items := item :: view.items }
  else if name = "select" then
    { parts :=
        .select (value? "name" entries) (value? "onchange" entries)
            view.items ::
          view.parts }
  else if name = "input" then
    { rest with
      parts :=
        .input (value? "name" entries) (value? "type" entries)
            ((value? "value" entries).getD "") ::
          view.parts }
  else if name = "a" then
    { rest with
      parts := .link (value? "href" entries) view.text :: view.parts }
  else rest

/- A view with a token in front. -/
def push :
    Token → View → View
  | .text s, view => { view with text := s ++ view.text }
  | .opening name entries, view => pushTag name entries view
  | .single name entries, view => pushTag name entries view
  | .closing name, view =>
    { view with
      text := ""
      items := if name = "select" then [] else view.items }
  | _, view => { view with text := "" }

/- A view with many tokens in front. -/
def behind
    (tokens : List Token)
    (view : View) : View :=
  tokens.foldr push view

end View

/- The parts of a page. -/
def parts
    (tokens : List Token) : List Part :=
  (View.behind tokens {}).parts

------------------------------------------------------------
-- Frames
------------------------------------------------------------

/- The attributes whose values fill a page. -/
def filledNames : List String := ["value", "href"]

/- An attribute without the value that fills it. -/
def Attribute.blank :
    Attribute → Attribute
  | .valued name value =>
    .valued name (if filledNames.contains name then "" else value)
  | entry => entry

/- A token of the frame of a page. -/
def Token.frame? :
    Token → Option Token
  | .text _ => none
  | .opening name entries =>
    some (.opening name ((tidy entries).map Attribute.blank))
  | .single name entries =>
    some (.single name ((tidy entries).map Attribute.blank))
  | token => some token

/- The tags of a page, without what fills them. -/
def frame
    (tokens : List Token) : List Token :=
  tokens.filterMap Token.frame?

------------------------------------------------------------
-- Texts in Pieces
------------------------------------------------------------

namespace View

@[simp] theorem behind_nil
    (view : View) :
    behind [] view = view :=
  rfl

@[simp] theorem behind_cons
    (token : Token)
    (rest : List Token)
    (view : View) :
    behind (token :: rest) view = push token (behind rest view) :=
  rfl

@[simp] theorem behind_append
    (before after : List Token)
    (view : View) :
    behind (before ++ after) view =
      behind before (behind after view) :=
  List.foldr_append

/- A tag shows the same without the gaps in it. -/
theorem pushTag_tidy
    (name : String)
    (entries : List Attribute) :
    pushTag name (tidy entries) = pushTag name entries := by
  funext view
  simp only [pushTag, value?_tidy, isMarked_tidy]

theorem push_opening_tidy
    (name : String)
    (entries : List Attribute) :
    push (.opening name (tidy entries)) =
      push (.opening name entries) :=
  pushTag_tidy name entries

theorem push_single_tidy
    (name : String)
    (entries : List Attribute) :
    push (.single name (tidy entries)) =
      push (.single name entries) :=
  pushTag_tidy name entries

/- A text is as good as its pieces, and an empty one as none. -/
theorem behind_shown
    (seen : List Char)
    (view : View) :
    behind (shown seen) view =
      push (.text (String.ofList seen)) view := by
  cases seen with
  | nil => simp [shown, push]
  | cons c cs => rfl

theorem push_text_append
    (seen : List Char)
    (s : String)
    (view : View) :
    push (.text (String.ofList (seen ++ s.toList))) view =
      push (.text (String.ofList seen)) (push (.text s) view) := by
  simp [push, String.append_assoc]

/-
  What a reader finds shows what the page was printed from. By
  induction on the tokens, with the text seen in front of them.
-/
theorem behind_gather
    (tokens : List Token)
    (seen : List Char)
    (view : View) :
    behind (gather seen tokens) view =
      push (.text (String.ofList seen)) (behind tokens view) := by
  have hNone (other : View) :
      push (.text (String.ofList [])) other = other := by
    simp [push]
  induction tokens generalizing seen with
  | nil => exact behind_shown seen view
  | cons token rest ih =>
      have hShown (found : Token) :
          behind (shown seen ++ found :: gather [] rest) view =
            push (.text (String.ofList seen))
              (push found (behind rest view)) := by
        rw [behind_append, behind_cons, behind_shown, ih, hNone]
      rw [behind_cons]
      cases token with
      | text s => rw [gather, ih, push_text_append]
      | opening name entries =>
          rw [gather, hShown, push_opening_tidy]
      | single name entries => rw [gather, hShown, push_single_tidy]
      | closing name => exact hShown (.closing name)
      | declaration s => exact hShown (.declaration s)
      | verbatim s => exact hShown (.verbatim s)

end View

theorem parts_gather
    (tokens : List Token) :
    parts (gather [] tokens) = parts tokens := by
  rw [parts, View.behind_gather]
  rfl

@[simp] theorem frame_nil :
    frame [] = [] :=
  rfl

@[simp] theorem frame_cons
    (token : Token)
    (rest : List Token) :
    frame (token :: rest) = token.frame?.toList ++ frame rest := by
  cases hToken : token.frame? <;> simp [frame, hToken]

@[simp] theorem frame_append
    (before after : List Token) :
    frame (before ++ after) = frame before ++ frame after :=
  List.filterMap_append

theorem tidy_tidy
    (entries : List Attribute) :
    tidy (tidy entries) = tidy entries := by
  simp [tidy]

/- Texts have no part in the frame of a page. -/
theorem frame_shown
    (seen : List Char) :
    frame (shown seen) = [] := by
  cases seen <;> rfl

theorem frame_gather
    (tokens : List Token)
    (seen : List Char) :
    frame (gather seen tokens) = frame tokens := by
  induction tokens generalizing seen with
  | nil => exact frame_shown seen
  | cons token rest ih =>
      cases token <;>
        simp [gather, ih, frame_shown, Token.frame?, tidy_tidy]

end LookingGlass.Page
