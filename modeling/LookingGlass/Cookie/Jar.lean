import LookingGlass.Cookie.Offer
import LookingGlass.Cookie.Origin

/-
  This file defines the keeping of cookies: what becomes of the
  offers in an answer, and which cookies go along with a
  request.

  Key definitions include:
    * `Key`
    * `Jar`
    * `Jar.put`
    * `Jar.forget`
    * `Verdict.ofOffer`
    * `isWelcome`
    * `Jar.settle`
    * `Jar.take`
    * `Jar.check`
-/

namespace LookingGlass

------------------------------------------------------------
-- Cookies
------------------------------------------------------------

/- What tells cookies apart. -/
structure Cookie.Key where
  domain : List Char
  path : List Char
  name : List Char
deriving DecidableEq, Repr

/- What is kept. Without a port it is for every one. -/
structure Cookie where
  key : Cookie.Key
  port : List Char
  isSecure : Bool
deriving DecidableEq, Repr

namespace Cookie

/-
  A port was needed of an origin that has no place. This breaks
  everything off.
-/
inductive Error
  | noPlace
deriving DecidableEq, Repr

/- The wording of an error. -/
def Error.message :
    Error → String
  | .noPlace => "there is no place to look for a port"

/- Cookies that are kept. -/
abbrev Jar :=
  List Cookie

/- A jar without the cookie of a key. -/
def Jar.forget
    (jar : Jar)
    (key : Key) : Jar :=
  jar.filter fun cookie => cookie.key != key

/- A jar with one more cookie, in place of one of its key. -/
def Jar.put
    (jar : Jar)
    (cookie : Cookie) : Jar :=
  jar.forget cookie.key ++ [cookie]

------------------------------------------------------------
-- What an offer comes to
------------------------------------------------------------

/-
  What an offer comes to at an origin. One without a place has
  no port to offer, and an expiry can be unread or out of range;
  each of these spoils all offers of the form.
-/
inductive Verdict
  | none
  | expired (key : Key)
  | spoiled
  | cookie (cookie : Cookie)
deriving DecidableEq, Repr

/- The directory of a path. -/
def directoryOf
    (keepsSlash : Bool)
    (path : List Char) : List Char :=
  let before := ((Url.cutLast '/' path).1).getD path
  let path := if keepsSlash then before ++ ['/'] else before
  if path.isEmpty then ['/'] else path

/- The path that an offer is for. -/
def pathOf
    (origin : Origin)
    (keepsSlash : Bool)
    (given : Option (List Char)) : List Char :=
  match given.getD [] with
  | [] => directoryOf keepsSlash origin.path
  | path => Origin.pathText path

/- A domain with a dot in front. -/
def dotted
    (domain : List Char) : List Char :=
  if domain.head? = some '.' then domain else '.' :: domain

/- The domain that an offer is for. -/
def domainOf
    (origin : Origin)
    (given : Option (List Char)) : List Char :=
  match given with
  | .none => origin.fullHost
  | .some domain => dotted domain

/- The port that an offer is for; nothing if it has no place. -/
def portOf?
    (origin : Origin)
    (given : Option (Option (List Char))) : Option (List Char) :=
  match given with
  | .none => some []
  | .some (.some port) => some (port.filter (!Attribute.isBlank ·))
  | .some .none => origin.place.map fun place =>
    (Origin.portOf place).getD []

/- The first moment that is too late to be held. -/
def firstTooLate : Int := Int.pow 2 1024 - Int.pow 2 970

/- What comes of a cookie with an expiry. -/
def Verdict.ofExpiry
    (now : Int)
    (cookie : Cookie) :
    Option Expiry → Verdict
  | .none => .cookie cookie
  | .some .unread => .spoiled
  | .some (.moment n) =>
    if n ≤ now then .expired cookie.key
    else if n ≥ firstTooLate then .spoiled
    else .cookie cookie

/- What an offer comes to. Its version has to be a number. -/
def Verdict.ofOffer
    (now : Int)
    (origin : Origin)
    (offer : Offer) : Verdict :=
  let version := offer.version.map Number.Integer.read
  match version, portOf? origin offer.port with
  | .some .none, _ => .none
  | _, .none => .spoiled
  | _, .some port =>
    let keepsSlash := version != .some (.some 0)
    let key : Key :=
      { domain := domainOf origin offer.domain
        path := pathOf origin keepsSlash offer.path
        name := offer.name }
    let isSecure := offer.secure.getD false
    ofExpiry now { key, port, isSecure } offer.expiry

------------------------------------------------------------
-- Which cookies are taken
------------------------------------------------------------

/- The domain that local hosts are taken to be in. -/
def localDomain : List Char := ".local".toList

/-
  Whether an origin may speak for a domain. Local hosts may do
  so for one without dots.
-/
def speaksFor
    (origin : Origin)
    (version : Int)
    (domain : List Char) : Bool :=
  let host := origin.fullHost
  let bare := domain.drop 1
  let isInside :=
    domain.isSuffixOf host || (bare ++ localDomain).isSuffixOf host ||
      host.head? = some '.' || domain.isSuffixOf ('.' :: host)
  (bare.contains '.' || localDomain.isSuffixOf host) &&
    (version != 0 || isInside)

/- Whether a port is among those of a list. -/
def hasPort
    (port : List Char) :
    List (List Char) → Bool
  | [] => false
  | listed :: rest =>
    (Number.Integer.read listed).isSome &&
      (listed == port || hasPort port rest)

/- Whether a cookie is for the port of its origin. -/
def isForPort
    (origin : Origin)
    (port : List Char) : Except Error Bool :=
  match origin.place with
  | none => .error .noPlace
  | some place =>
    let own := (Origin.portOf place).getD Origin.usualPort
    .ok (hasPort own (Text.pieces ',' port))

/- Whether the cookie of an offer is taken. -/
def isWelcome
    (origin : Origin)
    (offer : Offer)
    (cookie : Cookie) : Except Error Bool :=
  match offer.countedVersion? with
  | none => .ok false
  | some version =>
    if version > 0 then .ok false
    else if offer.domain.isSome &&
        !speaksFor origin version cookie.key.domain then
      .ok false
    else if (offer.port.getD none).isNone then .ok true
    else isForPort origin cookie.port

/- A jar with the cookie of an offer, if it is taken. -/
def Jar.welcome
    (origin : Origin)
    (jar : Jar)
    (made : Offer × Verdict) : Except Error Jar :=
  match made with
  | (offer, .cookie cookie) => do
    return if ← isWelcome origin offer cookie then jar.put cookie
      else jar
  | _ => .ok jar

/- A jar without what has expired. -/
def Jar.expire
    (jar : Jar) :
    Verdict → Jar
  | .expired key => jar.forget key
  | _ => jar

/-
  What offers come to, and a jar without what has expired.
  Nothing behind an offer that spoils all is looked at.
-/
def Jar.settle
    (clock : Date.Clock)
    (origin : Origin)
    (form : Form)
    (texts : List String)
    (jar : Jar) : List (Offer × Verdict) × Jar :=
  match Offer.ofTexts clock form texts with
  | .error _ => ([], jar)
  | .ok offers =>
    let made := offers.map fun offer =>
      (offer, Verdict.ofOffer clock.now origin offer)
    let sound := made.takeWhile fun entry => entry.2 != .spoiled
    let left := (sound.map Prod.snd).foldl Jar.expire jar
    (if sound.length < made.length then [] else made, left)

/-
  A jar after an answer with offers. Those in the listed form
  are only looked at together with plain ones.
-/
def Jar.take
    (clock : Date.Clock)
    (origin : Origin)
    (plain listed : List String)
    (jar : Jar) : Except Error Jar :=
  if plain.isEmpty then .ok jar
  else
    let first := jar.settle clock origin .listed listed
    let second := first.2.settle clock origin .plain plain
    (first.1 ++ second.1).foldlM (Jar.welcome origin) second.2

------------------------------------------------------------
-- Which cookies go along
------------------------------------------------------------

/- Whether an origin is in a domain. -/
def isInDomain
    (origin : Origin)
    (domain : List Char) : Bool :=
  (dotted domain).isSuffixOf (dotted origin.host) ||
    (dotted domain).isSuffixOf (dotted origin.fullHost)

/- Whether a path is that of a cookie, or below it. -/
def isBelow
    (held path : List Char) : Bool :=
  held.isPrefixOf path &&
    (path.length == held.length || held.getLast? = some '/' ||
      (path.drop held.length).head? = some '/')

/- Whether a cookie is looked at for a request to an origin. -/
def concerns
    (cookie : Cookie)
    (origin : Origin) : Bool :=
  isInDomain origin cookie.key.domain &&
    isBelow cookie.key.path origin.path &&
    (origin.isSecure || !cookie.isSecure)

/-
  Checks that cookies can be chosen for a request to an origin:
  where one is for a port, there has to be one.
-/
def Jar.check
    (jar : Jar)
    (origin : Origin) : Except Error Unit :=
  let isForPort := jar.any fun cookie =>
    cookie.concerns origin && !cookie.port.isEmpty
  if isForPort && origin.place.isNone then .error .noPlace
  else .ok ()

end Cookie

end LookingGlass
