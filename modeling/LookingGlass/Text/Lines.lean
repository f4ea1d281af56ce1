/-
  This file defines the ends of lines in files: a line feed, a
  carriage return, or both.

  Key definitions include:
    * `lineFeeds`
-/

namespace LookingGlass.Text

/- A text in which every line ends with a line feed alone. -/
def lineFeeds :
    List Char → List Char
  | [] => []
  | '\r' :: '\n' :: rest => '\n' :: lineFeeds rest
  | '\r' :: rest => '\n' :: lineFeeds rest
  | c :: rest => c :: lineFeeds rest

end LookingGlass.Text
