import LookingGlass.Text.Fields
import LookingGlass.Text.Octets

/-
  This file defines what a client sends to the web application
  and what it gets back.

  A request is sent as bytes, which may be any. Its target is a
  path and, behind a question mark, a query string. Only the
  path is decoded here; slashes at its very start count as one.

  Key definitions include:
    * `Request`
    * `Request.path`
    * `Request.queryString`
    * `Request.isReadable`
    * `Request.parameters`
    * `Request.fields`
    * `Answer`
-/

namespace LookingGlass.Web

open LookingGlass.Text (Octets)

------------------------------------------------------------
-- Requests
------------------------------------------------------------

/- A request to the web application. -/
structure Request where
  method : String := "GET"
  target : Octets
  body : Option Octets := none
deriving DecidableEq, Repr

namespace Request

/- The path of a target as it was sent. -/
def sentPath
    (request : Request) : Octets :=
  ⟨(Text.cut 0x3F request.target.bytes).1⟩

/- The decoded path of a target; empty, or with a slash first. -/
def path
    (request : Request) : List Char :=
  let bytes := Text.Percent.unescape request.sentPath.bytes
  match Text.Utf8.decodeLossy bytes with
  | [] => []
  | cs => '/' :: Text.dropAll '/' cs

/- The query string of a target as it was sent. -/
def sentQuery
    (request : Request) : Octets :=
  ⟨(Text.cut 0x3F request.target.bytes).2.getD []⟩

/- The query string of a target before its escapes are read. -/
def queryString
    (request : Request) : List Char :=
  request.sentQuery.lossy

/- Whether the parameters of a target can be read at all. -/
def isReadable
    (request : Request) : Bool :=
  request.sentQuery.isText

/- The parameters of a target. -/
def parameters
    (request : Request) : Text.Fields :=
  Text.Fields.read Text.Percent.decodeKeeping
    request.queryString

/- How many bytes were submitted. -/
def bodySize
    (request : Request) : Nat :=
  (request.body.map fun body => body.bytes.length).getD 0

/- The fields of a submitted form; of what is no text, none. -/
def fields
    (request : Request) : Text.Fields :=
  match request.body with
  | none => []
  | some body =>
    if body.isText then
      Text.Fields.read Text.Percent.decodeKeeping body.lossy
    else []

end Request

------------------------------------------------------------
-- Answers
------------------------------------------------------------

/- An answer of the web application. -/
structure Answer where
  status : Nat
  location : Option String := none
  body : String
deriving DecidableEq, Repr

/- An answer without its body. -/
def Answer.withoutBody
    (answer : Answer) : Answer :=
  { answer with body := "" }

end LookingGlass.Web
