import LookingGlass.Text.Cut
import LookingGlass.Text.Percent

/-
  This file defines the locations that redirects lead to: the
  address of a path of this host, and the form in which an
  address is sent along.

  A location is taken apart before it is sent. What its parts
  cannot hold is escaped, and an empty part is left out.

  Key definitions include:
    * `Location.host`
    * `Location.ofPath`
    * `Location.isSendable`
    * `Location.sent`
-/

namespace LookingGlass.Web.Location

------------------------------------------------------------
-- Addresses of this host
------------------------------------------------------------

/- The address of the host itself. -/
def host : String := "http://localhost"

/- The marks that stand for themselves in a path. -/
def pathMarks : String := "!$&'()*+,/:;=@"

/- The address of a path, with a query string if there is one. -/
def ofPath
    (path queryString : List Char) : String :=
  let keep := Text.Percent.keeping pathMarks
  let query :=
    if queryString.isEmpty then [] else '?' :: queryString
  host ++ String.ofList (Text.Percent.encode keep path ++ query)

------------------------------------------------------------
-- Locations on the wire
------------------------------------------------------------

/- Whether a location can be sent at all: it is one line. -/
def isSendable
    (location : String) : Bool :=
  !location.toList.any fun c => c = '\n' || c = '\r'

/- A part of a location with its mark, unless it is empty. -/
def marked
    (mark : Char)
    (marks : String)
    (part : Option (List Char)) : List Char :=
  match part.getD [] with
  | [] => []
  | cs => mark :: Text.Percent.encode (Text.Percent.keeping marks) cs

/- What ends or indents a line; it is dropped from locations. -/
def isLayout
    (c : Char) : Bool :=
  c == '\t' || c == '\r' || c == '\n'

/- A path, a query string and a fragment, all of them escaped. -/
def escaped
    (cs : List Char) : List Char :=
  let outer := Text.cut '#' cs
  let inner := Text.cut '?' outer.1
  let path := Text.Percent.keeping ("%" ++ pathMarks)
  Text.Percent.encode path inner.1 ++
    marked '?' "%!$&'()*+,/:;=?@" inner.2 ++
    marked '#' "%!#$&'()*+,/:;=?@" outer.2

/- An address of this host in the form in which it is sent. -/
def sent
    (location : String) : String :=
  let cs := location.toList.filter (!isLayout ·)
  let lead := if host.toList.isPrefixOf cs then host.toList else []
  String.ofList (lead ++ escaped (cs.drop lead.length))

end LookingGlass.Web.Location
