/-
  This file defines texts inside of markup: the five
  characters that could end a text or an attribute are
  written as character references.

  Key definitions include:
    * `escapeChar`
    * `escape`
-/

namespace LookingGlass.Text.Markup

/- One character as it stands in a page. -/
def escapeChar
    (c : Char) : List Char :=
  if c = '&' then "&amp;".toList
  else if c = '<' then "&lt;".toList
  else if c = '>' then "&gt;".toList
  else if c = '"' then "&#34;".toList
  else if c = '\'' then "&#39;".toList
  else [c]

/- A text as it stands in a page. -/
def escape
    (s : String) : String :=
  String.ofList (s.toList.flatMap escapeChar)

end LookingGlass.Text.Markup
