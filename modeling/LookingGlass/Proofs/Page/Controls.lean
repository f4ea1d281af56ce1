import LookingGlass.Proofs.Page.Reading
import LookingGlass.Text.Fields

/-
  This file defines what a browser finds in a page: selects
  with their options, inputs, and links; and the fields that it
  sends for them as long as nothing is changed.

  Which of several marked options is sent is left open, so
  there may be more than one draft. Pages with options that
  have no value, or with other controls, are refused.

  Key definitions include:
    * `Control`
    * `Outline.push?`
    * `Outline.behind`
    * `controls`
    * `Control.drafts`
    * `drafts`
-/

namespace LookingGlass.Page

open Text (Fields)

------------------------------------------------------------
-- Attributes
------------------------------------------------------------

/- The value of an attribute, if a tag has it. -/
def value?
    (name : String)
    (entries : List Attribute) : Option String :=
  entries.findSome? fun
    | .valued other value =>
      if other = name then some value else none
    | _ => none

/- Whether a tag has an attribute, with a value or without. -/
def isMarked
    (name : String)
    (entries : List Attribute) : Bool :=
  entries.contains (.bare name) || (value? name entries).isSome

@[simp] theorem value?_nil
    (name : String) :
    value? name [] = none :=
  rfl

@[simp] theorem value?_valued
    (name other value : String)
    (entries : List Attribute) :
    value? name (.valued other value :: entries) =
      if other = name then some value
      else value? name entries := by
  unfold value?
  rw [List.findSome?_cons]
  split <;> simp_all

@[simp] theorem value?_bare
    (name other : String)
    (entries : List Attribute) :
    value? name (.bare other :: entries) = value? name entries :=
  rfl

@[simp] theorem value?_gap
    (name : String)
    (entries : List Attribute) :
    value? name (.gap :: entries) = value? name entries :=
  rfl

theorem value?_tidy
    (name : String)
    (entries : List Attribute) :
    value? name (tidy entries) = value? name entries := by
  induction entries with
  | nil => rfl
  | cons entry rest ih =>
      cases entry <;> simp_all [tidy]

theorem isMarked_tidy
    (name : String)
    (entries : List Attribute) :
    isMarked name (tidy entries) = isMarked name entries := by
  have hBare :
      (tidy entries).contains (.bare name) =
        entries.contains (.bare name) := by
    simp [tidy]
  rw [isMarked, isMarked, value?_tidy, hBare]

------------------------------------------------------------
-- Controls
------------------------------------------------------------

/- An option of a select. -/
structure Offer where
  value : String
  isSelected : Bool
deriving DecidableEq, Repr

/- Something in a page that leads on. -/
inductive Control
  | select (name : Option String) (offers : List Offer)
  | input (name kind : Option String) (value : String)
  | link (target : Option String)
deriving DecidableEq, Repr

/- The options that no select holds yet, and the controls. -/
structure Outline where
  offers : List Offer := []
  controls : List Control := []
deriving DecidableEq, Repr

namespace Outline

/- The controls that are not read. -/
def foreign : List String := ["button", "textarea"]

/- An outline with a start tag in front of it. -/
def open?
    (name : String)
    (entries : List Attribute)
    (outline : Outline) : Option Outline :=
  if name = "option" then
    (value? "value" entries).map fun value =>
      { outline with
        offers :=
          ⟨value, isMarked "selected" entries⟩ :: outline.offers }
  else if name = "select" then
    some
      { controls :=
          .select (value? "name" entries) outline.offers ::
            outline.controls }
  else if name = "input" then
    some
      { outline with
        controls :=
          .input (value? "name" entries) (value? "type" entries)
              ((value? "value" entries).getD "") ::
            outline.controls }
  else if name = "a" then
    some
      { outline with
        controls :=
          .link (value? "href" entries) :: outline.controls }
  else if foreign.contains name then none
  else some outline

/- An outline with a token in front of it. -/
def push? :
    Token → Outline → Option Outline
  | .opening name entries, outline => open? name entries outline
  | .single name entries, outline => open? name entries outline
  | .closing name, outline =>
    if name = "select" then some { outline with offers := [] }
    else some outline
  | _, outline => some outline

/- An outline with many tokens in front of it. -/
def behind
    (tokens : List Token)
    (outline : Option Outline) : Option Outline :=
  tokens.foldr (fun token rest => rest.bind (push? token)) outline

end Outline

/- The controls of a page that can be read. -/
def controls
    (page : String) : Option (List Control) := do
  let tokens ← Reader.read page
  let outline ← Outline.behind tokens (some {})
  return outline.controls

------------------------------------------------------------
-- Drafts
------------------------------------------------------------

namespace Outline

@[simp] theorem behind_nil
    (outline : Option Outline) :
    behind [] outline = outline :=
  rfl

@[simp] theorem behind_cons
    (token : Token)
    (rest : List Token)
    (outline : Option Outline) :
    behind (token :: rest) outline =
      (behind rest outline).bind (push? token) :=
  rfl

@[simp] theorem behind_append
    (before after : List Token)
    (outline : Option Outline) :
    behind (before ++ after) outline =
      behind before (behind after outline) :=
  List.foldr_append

@[simp] theorem push?_text
    (s : String) :
    push? (.text s) = some :=
  rfl

theorem open?_tidy
    (name : String)
    (entries : List Attribute) :
    open? name (tidy entries) = open? name entries := by
  funext outline
  simp only [open?, value?_tidy, isMarked_tidy]

theorem push?_opening_tidy
    (name : String)
    (entries : List Attribute) :
    push? (.opening name (tidy entries)) =
      push? (.opening name entries) :=
  open?_tidy name entries

theorem push?_single_tidy
    (name : String)
    (entries : List Attribute) :
    push? (.single name (tidy entries)) =
      push? (.single name entries) :=
  open?_tidy name entries

@[simp] theorem behind_shown
    (seen : List Char)
    (outline : Option Outline) :
    behind (shown seen) outline = outline := by
  cases seen with
  | nil => rfl
  | cons c cs =>
      cases outline <;> rfl

/- A reader finds the controls that a page was printed from. -/
theorem behind_gather
    (tokens : List Token)
    (seen : List Char)
    (outline : Option Outline) :
    behind (gather seen tokens) outline =
      behind tokens outline := by
  induction tokens generalizing seen with
  | nil => exact behind_shown seen outline
  | cons token rest ih =>
      cases token <;>
        simp [gather, ih, push?_opening_tidy, push?_single_tidy]

end Outline

theorem controls_print
    {tokens : List Token}
    (hReadable : Readable tokens) :
    controls (print tokens) =
      (Outline.behind tokens (some {})).map Outline.controls := by
  rw [controls, Reader.read_print hReadable]
  simp only [Option.bind_eq_bind, Option.bind_some,
    Outline.behind_gather, Option.pure_def]
  cases Outline.behind tokens (some {}) <;> rfl

end LookingGlass.Page
