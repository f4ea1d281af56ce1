import LookingGlass.Network.Address
import LookingGlass.Text.Ascii
import LookingGlass.Text.LetterCase
import LookingGlass.Text.Quoted
import LookingGlass.Url.Escape
import LookingGlass.Url.Label

/-
  This file defines the hosts of addresses: names, dotted
  quads, and addresses of version 6 in brackets.

  A name is taken in lower case. One that is not of ASCII is an
  international name, which is written in ASCII. One that is
  written so is read back where its characters matter.

  Key definitions include:
    * `Host.Error`
    * `Host.isQuadLike`
    * `Host.isIpv6`
    * `Host.read`
    * `Host.decode`
-/

namespace LookingGlass.Url.Host

------------------------------------------------------------
-- Errors
------------------------------------------------------------

/- Why a text is no host. -/
inductive Error
  | ipv4 (text : String)
  | ipv6 (text : String)
  | name (text : String)
deriving DecidableEq, Repr

/- The wording of an error. -/
def Error.message :
    Error → String
  | .ipv4 text => "Invalid IPv4 address: " ++ Text.quoted text
  | .ipv6 text => "Invalid IPv6 address: " ++ Text.quoted text
  | .name text => "Invalid IDNA hostname: " ++ Text.quoted text

------------------------------------------------------------
-- Addresses
------------------------------------------------------------

/- Whether a text is four numbers with dots between them. -/
def isQuadLike
    (cs : List Char) : Bool :=
  let parts := Text.pieces '.' cs
  parts.length == 4 &&
    parts.all fun part => !part.isEmpty && part.all Char.isDigit

/- Whether a text is in brackets. -/
def isBracketed
    (cs : List Char) : Bool :=
  cs.head? == some '[' && cs.length ≥ 2 &&
    cs.getLast? == some ']'

/- Whether a text is an address that may name a zone. -/
def isIpv6
    (cs : List Char) : Bool :=
  match Text.cut '%' cs with
  | (address, none) => (Network.Ipv6.read address).isSome
  | (address, some zone) =>
    (Network.Ipv6.read address).isSome && !zone.isEmpty &&
      !zone.contains '%'

------------------------------------------------------------
-- Reading
------------------------------------------------------------

/- The host of a text; it is empty where the text is. -/
def read
    (cs : List Char) : Except Error String :=
  let text := String.ofList cs
  if cs.isEmpty then .ok ""
  else if isQuadLike cs then
    if (Network.Ipv4.read cs).isSome then .ok text
    else .error (.ipv4 text)
  else if isBracketed cs then
    let inner := (cs.drop 1).dropLast
    if isIpv6 inner then .ok (String.ofList inner)
    else .error (.ipv6 text)
  else if cs.all Text.Ascii.isAscii then
    .ok (String.ofList (escape isNameChar (cs.map Char.toLower)))
  else
    match Label.encodeName (Text.lower cs) with
    | .ok name => .ok (String.ofList name)
    | .error _ => .error (.name text)

/- A host in characters, which may be an international name. -/
def decode
    (host : String) : Except Label.Error String :=
  let cs := host.toList
  if Label.mark.isPrefixOf cs then
    (Label.decodeName cs).map String.ofList
  else .ok host

end LookingGlass.Url.Host
