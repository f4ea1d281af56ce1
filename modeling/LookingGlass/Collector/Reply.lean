import LookingGlass.Collector.Fault

/-
  This file defines what comes of a request to the collector,
  and when that is a JSON document.

  Redirects are not followed, but the location of one is
  checked before its status is reported. Cookies are kept, as
  they bear on which locations lead somewhere.

  Key definitions include:
    * `Reply`
    * `Service`
    * `checkDestination`
    * `locate`
    * `resolve`
    * `checkLocation`
    * `checkCookies`
    * `Visit`
    * `Reply.read`
    * `Service.ask`
-/

namespace LookingGlass.Collector

------------------------------------------------------------
-- Replies
------------------------------------------------------------

/- The headers of an answer, as names and values. -/
abbrev Headers :=
  List (String × String)

/- What comes of a request: no answer, or an answer. -/
inductive Reply
  | failed (message : String)
  | answered (status : Nat) (headers : Headers) (body : List UInt8)
deriving Repr

/- A collector: the replies that its addresses give, and when. -/
structure Service where
  reply : Url → Reply
  clock : Cookie.Date.Clock

/- What a request yields, and the cookies that are kept. -/
structure Visit where
  document : Json.Value
  jar : Cookie.Jar

------------------------------------------------------------
-- Headers
------------------------------------------------------------

/- The values under a name, of which the case does not matter. -/
def Headers.values
    (headers : Headers)
    (name : String) : List String :=
  (headers.filter fun header =>
    header.1.map Char.toLower == name).map Prod.snd

/- The values under a name in one text, if there are any. -/
def Headers.joined?
    (headers : Headers)
    (name : String) : Option String :=
  match headers.values name with
  | [] => none
  | values => some (", ".intercalate values)

/- The codings that headers name. -/
def Headers.codings
    (headers : Headers) : List Coding :=
  (headers.values "content-encoding").flatMap Coding.ofNames

/- Checks that headers are of ASCII. -/
def Headers.check :
    Headers → Except Fault Unit
  | [] => .ok ()
  | (name, value) :: rest => do
    (Text.Ascii.check name.toList).mapError .noAscii
    (Text.Ascii.check value.toList).mapError .noAscii
    Headers.check rest

------------------------------------------------------------
-- Addresses
------------------------------------------------------------

/- The host of an address in characters. -/
def readHost
    (url : Url) : Except Fault String :=
  url.shownHost.mapError .label

/-
  Checks where a request is sent to: a host that can be read,
  with a name in ASCII.
-/
def checkDestination
    (url : Url) : Except Fault Unit := do
  let host ← readHost url
  if host.isEmpty then return ()
  (Text.Ascii.check url.destination.toList).mapError .noAscii

/- The origin at an address. -/
def originOf
    (url : Url) : Except Fault Cookie.Origin :=
  (Cookie.Origin.ofUrl url).mapError .origin

/- Checks that cookies can be chosen for an address. -/
def checkCookies
    (jar : Cookie.Jar)
    (url : Url) : Except Fault Unit := do
  if jar.isEmpty then return ()
  (jar.check (← originOf url)).mapError .cookie

/-
  The address of a location by itself. One with a scheme but
  without a host is taken to be at the host of the request.
-/
def locate
    (request : Url)
    (location : String) : Except Fault Url := do
  let url ← (Url.read location).mapError .location
  if url.scheme.isEmpty then return url
  if !(← readHost url).isEmpty then return url
  (url.withHost (← readHost request)).mapError .address

/- The address that another one leads to behind a request. -/
def resolve
    (request url : Url) : Except Fault Url := do
  if !url.scheme.isEmpty && !url.host.isEmpty then return url
  (Url.Bracket.check request.text).mapError .bracket
  (Url.Bracket.check url.text).mapError .bracket
  (Url.read (Url.join request.text url.text)).mapError .address

/-
  An address with the fragment of the request, unless it has one
  of its own.
-/
def inheritFragment
    (request target : Url) : Except Fault Url :=
  let fragment := request.decodedFragment
  if fragment.isEmpty || !target.decodedFragment.isEmpty then
    .ok target
  else (target.withFragment fragment).mapError .address

/- Checks that a location leads somewhere. -/
def checkLocation
    (jar : Cookie.Jar)
    (request : Url)
    (location : String) : Except Fault Unit := do
  let url ← locate request location
  let target ← inheritFragment request (← resolve request url)
  checkDestination target
  checkCookies jar target

------------------------------------------------------------
-- Reading
------------------------------------------------------------

/- The document in an answer to a request. -/
def readAnswer
    (clock : Cookie.Date.Clock)
    (held : Cookie.Jar)
    (request : Url)
    (status : Nat)
    (headers : Headers)
    (body : List UInt8) : Except Fault Visit := do
  headers.check
  let bytes ← (undoAll headers.codings body).mapError .coding
  let origin ← originOf request
  let plain := headers.values "set-cookie"
  let listed := headers.values "set-cookie2"
  let jar ← (held.take clock origin plain listed).mapError .cookie
  let redirect :=
    if isRedirect status then headers.joined? "location" else none
  match redirect with
  | none => pure ()
  | some location => checkLocation jar request location
  if !isSuccess status then
    throw (.status status request.text redirect)
  let document ← (Json.Value.ofBytes bytes).mapError .document
  return { document, jar }

/- The document in a reply to a request. -/
def Reply.read
    (clock : Cookie.Date.Clock)
    (held : Cookie.Jar)
    (request : Url) :
    Reply → Except Fault Visit
  | .failed message => .error (.noAnswer message)
  | .answered status headers body =>
    readAnswer clock held request status headers body

/- The document that a collector has at an address. -/
def Service.ask
    (service : Service)
    (held : Cookie.Jar)
    (url : Url) : Except Fault Visit := do
  checkCookies held url
  checkDestination url
  (service.reply url).read service.clock held url

end LookingGlass.Collector
