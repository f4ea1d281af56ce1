import LookingGlass.Text.Cut

/-
  This file defines which path and method lead where in the
  web application.

  A path with several slashes in a row leads nowhere itself,
  but where the path with one in their place leads somewhere,
  the client is sent there.

  Key definitions include:
    * `Endpoint`
    * `Endpoint.ofPath?`
    * `Endpoint.methods`
    * `Routing`
    * `route`
-/

namespace LookingGlass.Web

------------------------------------------------------------
-- Endpoints
------------------------------------------------------------

/- What can be asked for. -/
inductive Endpoint
  | index
  | lookup (path : List Char)
  | search
  | file (path : List Char)
deriving DecidableEq, Repr

namespace Endpoint

/-
  Whether a text can stand for the rest of a path: it does not
  start with a slash, and has no line feed behind its start.
-/
def isRest :
    List Char → Bool
  | [] => false
  | c :: cs => c != '/' && !cs.contains '\n'

/- What follows a lead in a path, if it can be such a rest. -/
def rest?
    (lead : List Char)
    (path : List Char) : Option (List Char) :=
  if lead.isPrefixOf path ∧ isRest (path.drop lead.length) then
    some (path.drop lead.length)
  else none

/- The endpoint at a path. -/
def ofPath?
    (path : List Char) : Option Endpoint :=
  if path = "/".toList then some .index
  else if path = "/lookup".toList then some (.lookup [])
  else if path = "/lookup/".toList then some (.lookup [])
  else if path = "/search".toList then some .search
  else
    match rest? "/lookup/".toList path with
    | some cs => some (.lookup cs)
    | none => (rest? "/static/".toList path).map .file

/- The methods that can be used at an endpoint. -/
def methods :
    Endpoint → List String
  | .search => ["POST", "OPTIONS"]
  | _ => ["GET", "HEAD", "OPTIONS"]

/- Whether a method can be used at an endpoint. -/
def allows
    (endpoint : Endpoint)
    (method : String) : Bool :=
  endpoint.methods.contains method

end Endpoint

------------------------------------------------------------
-- Routing
------------------------------------------------------------

/- Where a path and a method lead. -/
inductive Routing
  | found (endpoint : Endpoint)
  | moved (path : List Char)
  | notAllowed
  | notFound
deriving DecidableEq, Repr

/- Merges slashes in a row to one. -/
def mergeSlashes :
    List Char → List Char
  | '/' :: '/' :: rest => mergeSlashes ('/' :: rest)
  | [] => []
  | c :: rest => c :: mergeSlashes rest

/-
  Where a path and a method lead. The empty path leads to the
  root.
-/
def route
    (method : String)
    (path : List Char) : Routing :=
  let here := Endpoint.ofPath? path
  let merged := mergeSlashes path
  let there := Endpoint.ofPath? merged
  match here.filter (·.allows method) with
  | some endpoint => .found endpoint
  | none =>
    if path.isEmpty ∧ Endpoint.index.allows method then
      .moved ['/']
    else if there.any (·.allows method) then .moved merged
    else if here.isSome || there.isSome then .notAllowed
    else .notFound

end LookingGlass.Web
