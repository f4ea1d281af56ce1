import LookingGlass.Text.Markup

/-
  This file defines pages as sequences of tokens: tags with
  attributes, and texts between them.

  Only the printing of a token turns it into markup. Texts and
  the values of attributes are escaped there, so what they hold
  cannot end them.

  Key definitions include:
    * `Attribute`
    * `Attribute.print`
    * `Token`
    * `Token.print`
    * `print`
-/

namespace LookingGlass.Page

------------------------------------------------------------
-- Attributes
------------------------------------------------------------

/-
  An attribute of a tag: a name with a value, a name alone, or
  a gap where there might have been one.
-/
inductive Attribute
  | valued (name value : String)
  | bare (name : String)
  | gap
deriving DecidableEq, Repr

/- An attribute as it stands in a tag. -/
def Attribute.print :
    Attribute → String
  | .valued name value =>
    " " ++ name ++ "=\"" ++ Text.Markup.escape value ++ "\""
  | .bare name => " " ++ name
  | .gap => " "

------------------------------------------------------------
-- Tokens
------------------------------------------------------------

/-
  A token of a page: a declaration, a start tag that may be
  closed at once, an end tag, a text, or a text that is printed
  as it is.
-/
inductive Token
  | declaration (s : String)
  | opening (name : String) (attributes : List Attribute)
  | single (name : String) (attributes : List Attribute)
  | closing (name : String)
  | text (s : String)
  | verbatim (s : String)
deriving DecidableEq, Repr

/- The attributes of a tag. -/
def printAttributes
    (attributes : List Attribute) : String :=
  String.join (attributes.map Attribute.print)

/- A token as it stands in a page. -/
def Token.print :
    Token → String
  | .declaration s => "<!" ++ s ++ ">"
  | .opening name attributes =>
    "<" ++ name ++ printAttributes attributes ++ ">"
  | .single name attributes =>
    "<" ++ name ++ printAttributes attributes ++ " />"
  | .closing name => "</" ++ name ++ ">"
  | .text s => Text.Markup.escape s
  | .verbatim s => s

/- The markup of a page. -/
def print
    (tokens : List Token) : String :=
  String.join (tokens.map Token.print)

end LookingGlass.Page
