import LookingGlass.Url.Reference

/-
  This file defines when the brackets in the text of an address
  are right: what stands between them is an address of version
  6, or one of a later version.

  Key definitions include:
    * `Bracket.Error`
    * `Bracket.Error.message`
    * `Bracket.checkHost`
    * `Bracket.check`
-/

namespace LookingGlass.Url.Bracket

/- Why brackets are wrong. -/
inductive Error
  | unpaired
  | laterVersion
  | noAddress (text : String)
  | version4
deriving DecidableEq, Repr

/- The wording of an error. -/
def Error.message :
    Error → String
  | .unpaired => "Invalid IPv6 URL"
  | .laterVersion => "IPvFuture address is invalid"
  | .noAddress text =>
    Text.quoted text ++
      " does not appear to be an IPv4 or IPv6 address"
  | .version4 => "An IPv4 address cannot be in brackets"

/-
  Whether a text is an address of a later version: a number in
  hexadecimal digits, a point, and more.
-/
def isLaterVersion
    (cs : List Char) : Bool :=
  match Text.cut '.' cs with
  | ('v' :: number, some rest) =>
    !number.isEmpty && !rest.isEmpty &&
      number.all fun c => (Text.Percent.hexValue? c).isSome
  | _ => false

/- Checks what stands between brackets. -/
def checkInside
    (cs : List Char) : Except Error Unit :=
  if cs.head? = some 'v' then
    if isLaterVersion cs then .ok () else .error .laterVersion
  else if (Network.Ipv4.read cs).isSome then .error .version4
  else if Host.isIpv6 cs then .ok ()
  else .error (.noAddress (String.ofList cs))

/-
  Checks where the brackets of a host stand: nothing may precede
  them, and only a port may follow. Without brackets behind the
  user, the host has to be one that could stand in them.
-/
def checkHost
    (cs : List Char) : Except Error Unit :=
  match Text.cut '[' cs with
  | (_, none) => checkInside (Text.cut ':' cs).1
  | (before, some rest) =>
    let parts := Text.cut ']' rest
    let behind := parts.2.getD []
    if !before.isEmpty then .error .unpaired
    else if !behind.isEmpty && behind.head? != some ':' then
      .error .unpaired
    else checkInside parts.1

/- Checks the brackets in the text of an address. -/
def check
    (text : String) : Except Error Unit :=
  let written := (Reference.ofText text.toList).authority
  let opens := written.contains '['
  let closes := written.contains ']'
  if opens != closes then .error .unpaired
  else if opens then checkHost (cutLast '@' written).2
  else .ok ()

end LookingGlass.Url.Bracket
