import LookingGlass.Query.Basic
import LookingGlass.Text.Fields

/-
  This file defines the links of queries: the navigation string
  `#/<mode>/<value>?<filters>` that can be shared, and the page
  address that shows the query.

  The path is left out for an empty value, and a filter only
  stands in a link when it differs from its default. Reading is
  more tolerant than writing.

  Key definitions include:
    * `Query.link`
    * `Query.lookupUrl`
    * `Query.ofPath`
    * `Query.ofLink`
    * `Submission.link`
-/

namespace LookingGlass

namespace Query

------------------------------------------------------------
-- Writing
------------------------------------------------------------

/- The characters that stand for themselves in a link. -/
def isPlain
    (c : Char) : Bool :=
  Text.Percent.keeping ":/@" c

/- A text as it stands in a link. -/
def escaped
    (s : String) : String :=
  String.ofList (Text.Percent.encode isPlain s.toList)

/- The path of a link: mode and value, unless that is empty. -/
def linkPath
    (q : Query) : String :=
  if q.value = "" then ""
  else q.mode.name ++ "/" ++ escaped q.value

/- The filters of a link. -/
def linkFilters
    (q : Query) : String :=
  if q.filters.isEmpty then ""
  else
    "?" ++ "&".intercalate (q.filters.map fun (name, value) =>
      name ++ "=" ++ escaped value)

/- What a link holds behind its first two characters. -/
def linkBody
    (q : Query) : String :=
  q.linkPath ++ q.linkFilters

/- The link of a query. -/
def link
    (q : Query) : String :=
  "#/" ++ q.linkBody

/- The address of the page that shows a query. -/
def lookupUrl
    (q : Query) : String :=
  "/lookup/" ++ q.linkBody

------------------------------------------------------------
-- Reading
------------------------------------------------------------

/-
  The query of a mode, a value behind it and the parameters of
  an address. Without mode and value it is the empty query with
  these parameters.
-/
def ofParts
    (mode : List Char)
    (value : Option (List Char))
    (parameter : String → Option String) : Except Error Query :=
  let router := (parameter routerFilter).getD allRouters
  let rd := parameter instanceFilter
  if mode.isEmpty ∧ value.isNone then
    .ok (make .fallback "" router rd)
  else
    ofNames (String.ofList mode)
      (String.ofList (value.getD [])) router rd

/- The query of a path that is decoded already. -/
def ofPath
    (path : List Char)
    (parameter : String → Option String) : Except Error Query :=
  let parts := Text.cut '/' path
  ofParts parts.1 parts.2 parameter

/-
  Reads a link, with or without its first two characters. Of
  parameters of the same name the last one counts.
-/
def ofLink
    (link : String) : Except Error Query :=
  let body := Text.dropLead '/' (Text.dropLead '#' link.toList)
  let parts := Text.cut '?' body
  let fields :=
    Text.Fields.read Text.Percent.decodeLossy (parts.2.getD [])
  let segments := Text.cut '/' parts.1
  ofParts segments.1 (segments.2.map Text.Percent.decodeLossy)
    fields.last?

end Query

/- The link of the query of a submission. -/
def Submission.link
    (submission : Submission)
    (offersInstances : Bool) : Except Query.Error String :=
  (submission.query offersInstances).map Query.link

end LookingGlass
