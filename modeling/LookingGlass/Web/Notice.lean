import LookingGlass.Page.Markup
import LookingGlass.Web.Location
import LookingGlass.Web.Message

/-
  This file defines the answers of the web application that
  are not the lookup page: redirects, and short pages that say
  why there is nothing else.

  Key definitions include:
    * `Notice`
    * `Notice.status`
    * `Notice.title`
    * `Notice.description`
    * `Notice.answer`
    * `Fault`
    * `Fault.settle`
    * `redirect`
-/

namespace LookingGlass.Web

open LookingGlass.Page (Token Attribute)

------------------------------------------------------------
-- Notices
------------------------------------------------------------

/- Why a request is not answered with a lookup page. -/
inductive Notice
  | badRequest (reason : String)
  | notFound
  | notAllowed
  | tooLarge
  | failed
deriving DecidableEq, Repr

namespace Notice

/- The status of a notice. -/
def status :
    Notice → Nat
  | .badRequest _ => 400
  | .notFound => 404
  | .notAllowed => 405
  | .tooLarge => 413
  | .failed => 500

/- The title of a notice. -/
def title :
    Notice → String
  | .badRequest _ => "Bad Request"
  | .notFound => "Not Found"
  | .notAllowed => "Method Not Allowed"
  | .tooLarge => "Request Entity Too Large"
  | .failed => "Internal Server Error"

/- The text of a notice. -/
def description :
    Notice → String
  | .badRequest reason => reason
  | .notFound =>
    "The requested URL was not found on the server. If you " ++
      "entered the URL manually please check your spelling " ++
      "and try again."
  | .notAllowed =>
    "The method is not allowed for the requested URL."
  | .tooLarge =>
    "The data value transmitted exceeds the capacity limit."
  | .failed =>
    "The server encountered an internal error and was unable " ++
      "to complete your request. Either the server is " ++
      "overloaded or there is an error in the application."

------------------------------------------------------------
-- Pages
------------------------------------------------------------

/- The start of a short page, up to its first paragraph. -/
def heading
    (title heading : String) : List Token :=
  [.declaration "doctype html", .text "\n",
    .opening "html" [.bare "lang=en"], .text "\n",
    .opening "title" [], .text title, .closing "title",
    .text "\n",
    .opening "h1" [], .text heading, .closing "h1",
    .text "\n",
    .opening "p" []]

/- A text of several lines. -/
def lines
    (s : String) : List Token :=
  let texts := (Text.pieces '\n' s.toList).map fun cs =>
    Token.text (String.ofList cs)
  texts.intersperse (.opening "br" [])

/- The page of a notice. -/
def page
    (notice : Notice) : List Token :=
  heading s!"{notice.status} {notice.title}" notice.title ++
    lines notice.description ++ [.closing "p", .text "\n"]

/- The answer that a notice is. -/
def answer
    (notice : Notice) : Answer :=
  { status := notice.status, body := Page.print notice.page }

end Notice

------------------------------------------------------------
-- Faults
------------------------------------------------------------

/-
  What keeps the application from an answer of its own: a query
  string that is no text, a page that cannot be written, or a
  location of several lines.
-/
inductive Fault
  | unreadableQuery
  | unwritablePage
  | brokenLocation
deriving DecidableEq, Repr

/- The answer to a client; of any fault it says the same. -/
def Fault.settle :
    Except Fault Answer → Answer
  | .ok answer => answer
  | .error _ => Notice.answer .failed

------------------------------------------------------------
-- Redirects
------------------------------------------------------------

/- The page of a redirect. -/
def redirectPage
    (location : String) : List Token :=
  Notice.heading "Redirecting..." "Redirecting..." ++
  [.text
      "You should be redirected automatically to the target URL: ",
    .opening "a" [.valued "href" location], .text location,
    .closing "a", .text ". If not, click the link.\n"]

/- Sends the client elsewhere. -/
def redirect
    (status : Nat)
    (location : String) : Except Fault Answer :=
  if Location.isSendable location then
    .ok
      { status
        location := some (Location.sent location)
        body := Page.print (redirectPage location) }
  else .error .brokenLocation

end LookingGlass.Web
