import LookingGlass.Url.Bracket

/-
  This file defines the origins that cookies come from and are
  sent to: what matters of an address for cookies.

  Key definitions include:
    * `Origin`
    * `Origin.Error`
    * `Origin.Error.message`
    * `Origin.ofUrl`
    * `Origin.portOf`
-/

namespace LookingGlass.Cookie

/-
  What matters of an address. The place is what stands behind
  two slashes, with its escapes read.
-/
structure Origin where
  scheme : String
  place : Option (List Char)
  host : List Char
  path : List Char
deriving DecidableEq, Repr

namespace Origin

------------------------------------------------------------
-- Errors
------------------------------------------------------------

/- Why an address is no origin. -/
inductive Error
  | noScheme (address : String)
  | bracket (e : Url.Bracket.Error)
deriving DecidableEq, Repr

/- The wording of an error. -/
def Error.message :
    Error → String
  | .noScheme address =>
    "unknown url type: " ++ Text.quoted address
  | .bracket e => e.message

------------------------------------------------------------
-- Texts
------------------------------------------------------------

/- The word that may stand in front of an address. -/
def lead : List Char := "URL:".toList

/- An address without the word in front, and its fragment. -/
def written
    (url : Url) : List Char × List Char :=
  let cs := url.text.toList
  let address := if lead.isPrefixOf cs then cs.drop lead.length else cs
  match Url.cutLast '#' address with
  | (some before, fragment) => (before, fragment)
  | (none, cs) => (cs, [])

/- The text of an address, without an empty fragment. -/
def text
    (url : Url) : String :=
  let (address, fragment) := written url
  String.ofList (address ++ Url.Reference.markedPart '#' fragment)

/- The scheme of a text, and what follows it. -/
def cutScheme
    (cs : List Char) : Option (List Char × List Char) :=
  let word := cs.takeWhile fun c => c != '/' && c != ':'
  match cs.drop word.length with
  | ':' :: rest => if word.isEmpty then none else some (word, rest)
  | _ => none

/- The place behind two slashes. -/
def placeOf :
    List Char → Option (List Char)
  | '/' :: '/' :: rest =>
    some (Text.Percent.decodeLossy
      (rest.takeWhile fun c => c != '/' && c != '?' && c != '#'))
  | _ => none

/- A host without the port behind it. -/
def withoutPort
    (cs : List Char) : List Char :=
  match Url.cutLast ':' cs with
  | (some before, port) =>
    if !port.isEmpty && port.all Char.isDigit then before else cs
  | (none, _) => cs

/- The marks that stand for themselves in a path. -/
def pathMarks : String := "%/;:@&=+$,!~*'()"

/- Writes the digits of escapes in upper case. -/
def capitalEscapes :
    List Char → List Char
  | '%' :: a :: b :: rest =>
    if (Text.Percent.hexValue? a).isSome &&
        (Text.Percent.hexValue? b).isSome then
      '%' :: a.toUpper :: b.toUpper :: capitalEscapes rest
    else '%' :: capitalEscapes (a :: b :: rest)
  | c :: rest => c :: capitalEscapes rest
  | [] => []

/- A path in the form in which paths are compared. -/
def pathText
    (cs : List Char) : List Char :=
  capitalEscapes
    (Text.Percent.encode (Text.Percent.keeping pathMarks) cs)

/- The same path with a slash in front. -/
def rooted
    (path : List Char) : List Char :=
  if path.head? = some '/' then path else '/' :: path

------------------------------------------------------------
-- Origins
------------------------------------------------------------

/- The origin at an address. -/
def ofUrl
    (url : Url) : Except Error Origin :=
  match cutScheme (written url).1 with
  | none => .error (.noScheme (text url))
  | some (scheme, rest) => do
    (Url.Bracket.check (text url)).mapError .bracket
    let reference := Url.Reference.ofText (text url).toList
    return {
      scheme := String.ofList (scheme.map Char.toLower)
      place := placeOf rest
      host := (withoutPort reference.authority).map Char.toLower
      path := rooted (pathText reference.path) }

/- A host with dots. One without is taken to be a local one. -/
def fullHost
    (origin : Origin) : List Char :=
  if origin.host.contains '.' then origin.host
  else origin.host ++ ".local".toList

/- The port that is taken where there is none. -/
def usualPort : List Char := "80".toList

/-
  The port at a place. What follows the first colon is only
  taken for one if it is a number.
-/
def portOf
    (place : List Char) : Option (List Char) :=
  match Text.cut ':' place with
  | (_, none) => some usualPort
  | (_, some port) =>
    if (Number.Integer.read port).isSome then some port else none

/- Whether an origin is reached in a way that is secret. -/
def isSecure
    (origin : Origin) : Bool :=
  origin.scheme == "https" || origin.scheme == "wss"

end Origin

end LookingGlass.Cookie
