import LookingGlass.Page.Markup
import LookingGlass.Proofs.Text.Markup

/-
  This file defines a reader of pages: it walks through markup
  character by character and gives the tokens that it finds.

  The reader knows start tags with quoted or bare attributes,
  end tags, declarations, texts with character references, and
  scripts, which end at their end tag only. It refuses all
  other markup, so that no two readers of pages would differ
  on what it accepts. Line ends stay as they are.

  Key definitions include:
    * `Reader.State`
    * `Reader.step`
    * `Reader.run`
    * `Reader.read`
-/

namespace LookingGlass.Page.Reader

------------------------------------------------------------
-- States
------------------------------------------------------------

/- A start tag as far as it has been read. -/
structure Tag where
  name : String
  attributes : List Attribute := []
deriving DecidableEq, Repr

/- A tag with one attribute more. -/
def Tag.add
    (tag : Tag)
    (entry : Attribute) : Tag :=
  { tag with attributes := tag.attributes ++ [entry] }

/-
  Where a reader is: in a text, behind a `<`, in a declaration,
  in the name of an end tag or of a start tag, between the
  attributes of a tag, in the name of an attribute, in front of
  a value or in it, behind the slash of a tag that is closed at
  once, or in a script.
-/
inductive State
  | text (seen : List Char)
  | angle
  | declaration (seen : List Char)
  | closing (name : List Char)
  | opening (name : List Char)
  | inside (tag : Tag)
  | naming (tag : Tag) (name : List Char)
  | equals (tag : Tag) (name : List Char)
  | value (tag : Tag) (name seen : List Char)
  | slash (tag : Tag)
  | script (seen : List Char)
deriving DecidableEq, Repr

------------------------------------------------------------
-- Steps
------------------------------------------------------------

/- What the names of tags and attributes consist of. -/
def isNameChar
    (c : Char) : Bool :=
  let v := c.toNat
  (0x61 ≤ v && v ≤ 0x7A) || (0x30 ≤ v && v ≤ 0x39) || c == '-'

/- The name of the tag that holds a script. -/
def scriptName : String := "script"

/- The end tag of a script. -/
def scriptEnd : List Char := "</script>".toList

/- The token of a text; there is none of an empty text. -/
def texts
    (seen : List Char) : List Token :=
  if seen.isEmpty then []
  else [.text (String.ofList (Text.Markup.unescape seen))]

/- One character in a tag, in front of its next attribute. -/
def within
    (tag : Tag)
    (c : Char) : Option (List Token × State) :=
  if c = ' ' then some ([], .inside tag)
  else if c = '/' then some ([], .slash tag)
  else if c = '>' then
    some ([.opening tag.name tag.attributes],
      if tag.name = scriptName then .script [] else .text [])
  else if isNameChar c then some ([], .naming tag [c])
  else none

/- One character: the tokens that it ends, and the next state. -/
def step :
    State → Char → Option (List Token × State)
  | .text seen, c =>
    if c = '<' then some (texts seen, .angle)
    else some ([], .text (seen ++ [c]))
  | .angle, c =>
    if c = '!' then some ([], .declaration [])
    else if c = '/' then some ([], .closing [])
    else if isNameChar c then some ([], .opening [c])
    else none
  | .declaration seen, c =>
    if c = '>' then
      some ([.declaration (String.ofList seen)], .text [])
    else some ([], .declaration (seen ++ [c]))
  | .closing name, c =>
    if c = '>' then
      some ([.closing (String.ofList name)], .text [])
    else if isNameChar c then some ([], .closing (name ++ [c]))
    else none
  | .opening name, c =>
    if isNameChar c then some ([], .opening (name ++ [c]))
    else within ⟨String.ofList name, []⟩ c
  | .inside tag, c => within tag c
  | .naming tag name, c =>
    if c = '=' then some ([], .equals tag name)
    else if isNameChar c then
      some ([], .naming tag (name ++ [c]))
    else within (tag.add (.bare (String.ofList name))) c
  | .equals tag name, c =>
    if c = '"' then some ([], .value tag name []) else none
  | .value tag name seen, c =>
    if c = '"' then
      some ([], .inside (tag.add (.valued (String.ofList name)
        (String.ofList (Text.Markup.unescape seen)))))
    else some ([], .value tag name (seen ++ [c]))
  | .slash tag, c =>
    if c = '>' then
      some ([.single tag.name tag.attributes], .text [])
    else none
  | .script seen, c =>
    let seen := seen ++ [c]
    if scriptEnd.isSuffixOf seen then
      let length := seen.length - scriptEnd.length
      some ([.verbatim (String.ofList (seen.take length)),
        .closing scriptName], .text [])
    else some ([], .script seen)

/- The tokens that characters end, and the state behind them. -/
def run
    (state : State) :
    List Char → Option (List Token × State)
  | [] => some ([], state)
  | c :: rest => do
    let (tokens, next) ← step state c
    let (more, last) ← run next rest
    return (tokens ++ more, last)

/- The tokens of a page. A page does not end inside of a tag. -/
def read
    (page : String) : Option (List Token) := do
  let (tokens, last) ← run (.text []) page.toList
  match last with
  | .text seen => some (tokens ++ texts seen)
  | _ => none

end LookingGlass.Page.Reader
