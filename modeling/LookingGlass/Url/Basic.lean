import LookingGlass.Network.Address
import LookingGlass.Number.Integer
import LookingGlass.Text.Cut
import LookingGlass.Text.Quoted
import LookingGlass.Url.Escape
import LookingGlass.Url.Host
import LookingGlass.Url.Path

/-
  This file defines addresses of resources: a scheme, an
  authority (user, host and port), a path, a query string and a
  fragment. All but the path may be missing.

  Reading normalises: scheme and host are lower case, a port
  that the scheme implies is dropped, the segments `.` and `..`
  are resolved, and what a part cannot hold is escaped.

  Key definitions include:
    * `Url`
    * `Url.Error`
    * `Url.Parts`
    * `Url.Parts.ofText`
    * `Url.ofParts`
    * `Url.read`
    * `Url.text`
    * `Url.target`
    * `Url.withTarget`
    * `Url.withHost`
    * `Url.withFragment`
    * `Url.shownHost`
    * `Url.decodedPath`
    * `Url.destination`
    * `Url.decodedFragment`
-/

namespace LookingGlass

------------------------------------------------------------
-- Addresses
------------------------------------------------------------

/- The address of a resource. -/
structure Url where
  scheme : String
  user : String
  host : String
  port : Option Int
  path : String
  query : Option String
  fragment : Option String
deriving DecidableEq, Repr

namespace Url

/- Why a text is no address. -/
inductive Error
  | tooLong (part : Option String)
  | unprintable (part : Option String) (c : Char) (position : Nat)
  | host (e : Host.Error)
  | port (text : String)
  | pathWithoutSlash
  | pathWithSlashes
  | pathWithColon
deriving DecidableEq, Repr

/- The wording of an error. -/
def Error.message :
    Error → String
  | .tooLong none => "URL too long"
  | .tooLong (some part) => s!"URL component '{part}' too long"
  | .unprintable part c position =>
    let place :=
      match part with
      | none => "URL"
      | some part => s!"URL {part} component"
    s!"Invalid non-printable ASCII character in {place}, " ++
      Text.quoted (String.ofList [c]) ++ s!" at position {position}."
  | .host e => e.message
  | .port text => "Invalid port: " ++ Text.quoted text
  | .pathWithoutSlash =>
    "For absolute URLs, path must be empty or begin with '/'"
  | .pathWithSlashes =>
    "Relative URLs cannot have a path starting with '//'"
  | .pathWithColon =>
    "Relative URLs cannot have a path starting with ':'"

------------------------------------------------------------
-- Parts
------------------------------------------------------------

/- The parts of an address as they are written. -/
structure Parts where
  scheme : List Char
  authority : List Char
  path : List Char
  query : Option (List Char)
  fragment : Option (List Char)
deriving DecidableEq, Repr

/- The greatest length of an address or a part of it. -/
def greatestLength : Nat := 65536

/- The name of the first part that is too long. -/
def Parts.tooLong?
    (parts : Parts) : Option String :=
  let named : List (String × List Char) :=
    [("scheme", parts.scheme),
      ("authority", parts.authority),
      ("path", parts.path),
      ("query", parts.query.getD []),
      ("fragment", parts.fragment.getD [])]
  (named.find? fun part =>
    part.2.length > greatestLength).map Prod.fst

/- Whether a character may stand in a scheme. -/
def isSchemeChar
    (c : Char) : Bool :=
  c.isAlphanum || c == '+' || c == '.' || c == '-'

/- Whether a text is a scheme; there need not be one. -/
def isScheme :
    List Char → Bool
  | [] => true
  | c :: cs => c.isAlpha && cs.all isSchemeChar

/- A scheme before a colon, and the rest. -/
def cutScheme
    (cs : List Char) : List Char × List Char :=
  match Text.cut ':' cs with
  | (scheme, some rest) =>
    if isScheme scheme then (scheme, rest) else ([], cs)
  | (_, none) => ([], cs)

/- An authority behind two slashes, and the rest. -/
def cutAuthority :
    List Char → List Char × List Char
  | '/' :: '/' :: rest => rest.span (· ≠ '/')
  | cs => ([], cs)

/-
  Takes a text apart. The fragment is cut off first, then the
  query string, so neither mark ends up in an earlier part.
-/
def Parts.ofText
    (cs : List Char) : Parts :=
  let outer := Text.cut '#' cs
  let inner := Text.cut '?' outer.1
  let scheme := cutScheme inner.1
  let authority := cutAuthority scheme.2
  { scheme := scheme.1
    authority := authority.1
    path := authority.2
    query := inner.2
    fragment := outer.2 }

------------------------------------------------------------
-- Authorities
------------------------------------------------------------

/- What precedes the last occurrence of a separator. -/
def cutLast
    (sep : Char)
    (cs : List Char) : Option (List Char) × List Char :=
  match Text.cut sep cs.reverse with
  | (after, some before) => (some before.reverse, after.reverse)
  | (_, none) => (none, cs)

/-
  A host and what follows it. A host in brackets ends with the
  last closing bracket, any other at the first colon.
-/
def cutHost
    (cs : List Char) : List Char × List Char :=
  let plain := cs.span (· ≠ ':')
  match cs with
  | '[' :: _ =>
    match cutLast ']' cs with
    | (some before, after) => (before ++ [']'], after)
    | (none, _) => plain
  | _ => plain

/- The port that a scheme implies. -/
def impliedPort? :
    String → Option Int
  | "ftp" => some 21
  | "http" | "ws" => some 80
  | "https" | "wss" => some 443
  | _ => none

/- The port of a text. -/
def readPort
    (scheme : String)
    (cs : List Char) : Except Error (Option Int) :=
  if cs.isEmpty then .ok none
  else
    match Number.Integer.read cs with
    | none => .error (.port (String.ofList cs))
    | some port =>
      .ok (if impliedPort? scheme = some port then none
        else some port)

------------------------------------------------------------
-- Reading
------------------------------------------------------------

/- Checks a path against the parts in front of it. -/
def checkPath
    (hasScheme hasAuthority : Bool)
    (path : List Char) : Except Error Unit :=
  if hasAuthority then
    if path.isEmpty ∨ path.head? = some '/' then .ok ()
    else .error .pathWithoutSlash
  else if hasScheme then .ok ()
  else if "//".toList.isPrefixOf path then .error .pathWithSlashes
  else if path.head? = some ':' then .error .pathWithColon
  else .ok ()

/- The normal form of an address in parts. -/
def ofParts
    (parts : Parts) : Except Error Url := do
  let scheme := String.ofList (parts.scheme.map Char.toLower)
  let outer := cutLast '@' parts.authority
  let user := escape isUserChar (outer.1.getD [])
  let inner := cutHost outer.2
  let host ← (Host.read inner.1).mapError .host
  let port ← readPort scheme (Text.dropLead ':' inner.2)
  let hasScheme := !parts.scheme.isEmpty
  let hasAuthority :=
    !user.isEmpty || !host.isEmpty || port.isSome
  checkPath hasScheme hasAuthority parts.path
  let path :=
    if hasScheme || hasAuthority then resolveDots parts.path
    else parts.path
  return {
    scheme
    user := String.ofList user
    host
    port
    path := String.ofList (escape isPathChar path)
    query := parts.query.map fun cs =>
      String.ofList (escape isQueryChar cs)
    fragment := parts.fragment.map fun cs =>
      String.ofList (escape isFragmentChar cs) }

/- The first character of ASCII that is not printable. -/
def unprintable?
    (cs : List Char) : Option (Char × Nat) :=
  (cs.zipIdx.find? fun entry =>
    entry.1.toNat < 0x80 && !isPrintable entry.1)

/- Reads an address. -/
def read
    (text : String) : Except Error Url :=
  let cs := text.toList
  if cs.length > greatestLength then .error (.tooLong none)
  else
    match unprintable? cs with
    | some (c, position) => .error (.unprintable none c position)
    | none => ofParts (.ofText cs)

------------------------------------------------------------
-- Writing
------------------------------------------------------------

/- The host as it stands in an authority. -/
def hostText
    (url : Url) : String :=
  if url.host.toList.contains ':' then "[" ++ url.host ++ "]"
  else url.host

/- Where an address leads: its host and port. -/
def destination
    (url : Url) : String :=
  match url.port with
  | none => url.hostText
  | some port => url.hostText ++ s!":{port}"

/- The authority of an address. -/
def authority
    (url : Url) : String :=
  let user := if url.user.isEmpty then "" else url.user ++ "@"
  user ++ url.destination

/- A part with its mark, if there is one. -/
def marked
    (mark : String) :
    Option String → String
  | none => ""
  | some part => mark ++ part

/- The text of an address. -/
def text
    (url : Url) : String :=
  (if url.scheme.isEmpty then "" else url.scheme ++ ":") ++
    (if url.authority.isEmpty then "" else "//" ++ url.authority) ++
    url.path ++ marked "?" url.query ++ marked "#" url.fragment

/- The path that is asked for; never empty. -/
def fullPath
    (url : Url) : String :=
  if url.path.isEmpty then "/" else url.path

/- The path that is asked for, with the query string. -/
def target
    (url : Url) : String :=
  url.fullPath ++ marked "?" url.query

/- The parts that an address is written with. -/
def parts
    (url : Url) : Parts :=
  { scheme := url.scheme.toList
    authority := url.authority.toList
    path := url.path.toList
    query := url.query.map String.toList
    fragment := url.fragment.map String.toList }

/- The address of parts, none of which is too long. -/
def ofShortParts
    (parts : Parts) : Except Error Url :=
  match parts.tooLong? with
  | some part => .error (.tooLong (some part))
  | none => ofParts parts

/- The same address with another path and query string. -/
def withTarget
    (url : Url)
    (target : String) : Except Error Url :=
  let cut := Text.cut '?' target.toList
  ofShortParts { url.parts with path := cut.1, query := cut.2 }

/- The same address with another host. -/
def withHost
    (url : Url)
    (host : String) : Except Error Url :=
  ofShortParts (Url.parts { url with host })

/-
  The same address with another fragment, given in characters.
-/
def withFragment
    (url : Url)
    (fragment : List Char) : Except Error Url :=
  match unprintable? fragment with
  | none => ofShortParts { url.parts with fragment }
  | some (c, position) =>
    match Parts.tooLong? { url.parts with fragment } with
    | some part => .error (.tooLong (some part))
    | none => .error (.unprintable (some "fragment") c position)

/- The host in characters. -/
def shownHost
    (url : Url) : Except Label.Error String :=
  Host.decode url.host

/- The path that is asked for, with its escapes read. -/
def decodedPath
    (url : Url) : String :=
  String.ofList (Text.Percent.decodeLossy url.fullPath.toList)

/- The fragment, with its escapes read. -/
def decodedFragment
    (url : Url) : List Char :=
  Text.Percent.decodeLossy ((url.fragment.getD "").toList)

end Url

end LookingGlass
