import LookingGlass.Page.Lookup
import LookingGlass.Settings
import LookingGlass.Text.LetterCase
import LookingGlass.Web.Notice
import LookingGlass.Web.Route

/-
  This file defines the web application: a directory with
  settings, and its answer to a request. Where a fault keeps it
  from an answer of its own, the client is told so.

  Key definitions include:
    * `Application`
    * `Application.form`
    * `Application.present`
    * `Application.lookup`
    * `Application.search`
    * `Application.answer`
-/

namespace LookingGlass.Web

open LookingGlass.Text (Wording)

variable {T : Type} [Wording T]

/-
  The web application. A form that is no text is refused, or
  read as an empty one.
-/
structure Application (T : Type := String) where
  directory : Directory T := {}
  settings : Settings.Holder := { defaults := Settings.webDefaults }
  refusesBytes : Bool := true
deriving Repr

namespace Application

------------------------------------------------------------
-- Endpoints
------------------------------------------------------------

/- Whether choosing in a selector submits the form. -/
def autoSubmit
    (app : Application T) : Bool :=
  match app.settings.current.get? Settings.autoSubmitName with
  | some value => value.isTrue
  | none => false

/- The lookup form with a current query. -/
def form
    (app : Application T)
    (current : Query) : Form T :=
  { directory := app.directory
    current
    autoSubmit := app.autoSubmit }

/- The page of a query, if it can be written. -/
def page
    (app : Application T)
    (current : Query) : Except Fault Answer :=
  match (app.form current).page? with
  | some body => .ok { status := 200, body }
  | none => .error .unwritablePage

/- The answer that is the page of a query. -/
def present
    (app : Application T)
    (current : Query) : Answer :=
  Fault.settle (app.page current)

/-
  The page of the query that a path names. The parameters are
  read before the path is looked at.
-/
def lookup
    (app : Application T)
    (path : List Char)
    (request : Request) : Except Fault Answer :=
  if !request.isReadable then .error .unreadableQuery
  else
    match Query.ofPath path request.parameters.first? with
    | .error e => .ok (Notice.answer (.badRequest e.message))
    | .ok current => app.page current

/- The greatest size of a submitted form, in bytes. -/
def greatestForm : Nat := 500000

/- Whether a form is refused: it is too large, or no text. -/
def refusesForm
    (app : Application T)
    (request : Request) : Bool :=
  request.bodySize > greatestForm ||
    app.refusesBytes && !request.body.all Text.Octets.isText

/- Leads to the page of the query that a form asks for. -/
def search
    (app : Application T)
    (request : Request) : Except Fault Answer :=
  if app.refusesForm request then
    .ok (Notice.answer .tooLarge)
  else
    match (app.form .empty).submit request.fields with
    | .error e => .ok (Notice.answer (.badRequest e.message))
    | .ok link => redirect 302 ("/" ++ link)

/- What an endpoint answers to a request. -/
def serve
    (app : Application T)
    (request : Request) :
    Endpoint → Except Fault Answer
  | .index => app.page .empty
  | .lookup path => app.lookup path request
  | .search => app.search request
  | .file _ => .ok (Notice.answer .notFound)

------------------------------------------------------------
-- Answers
------------------------------------------------------------

/- The application's own answer, with its body. -/
def handle
    (app : Application T)
    (request : Request) : Except Fault Answer :=
  let method :=
    String.ofList (Text.capitalAscii request.method.toList)
  match route method request.path with
  | .found endpoint =>
    if method = "OPTIONS" then .ok { status := 200, body := "" }
    else app.serve request endpoint
  | .moved path =>
    redirect 308 (Location.ofPath path request.queryString)
  | .notAllowed => .ok (Notice.answer .notAllowed)
  | .notFound => .ok (Notice.answer .notFound)

/- The answer with its body. -/
def fullAnswer
    (app : Application T)
    (request : Request) : Answer :=
  Fault.settle (app.handle request)

/- The answer to a request; without a body where it asks so. -/
def answer
    (app : Application T)
    (request : Request) : Answer :=
  if request.method = "HEAD" then
    (app.fullAnswer request).withoutBody
  else app.fullAnswer request

end Application

end LookingGlass.Web
