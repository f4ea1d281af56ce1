import LookingGlass.Cookie.Attribute
import LookingGlass.Cookie.Date

/-
  This file defines what an answer offers to keep: a name, and
  the attributes that say where and how long it is kept.

  The first attribute of a kind counts; only an age stands above
  another time that is given. One attribute that reads wrongly
  can spoil the offer, or all offers of its form.

  Key definitions include:
    * `Offer`
    * `Form`
    * `Expiry`
    * `Offer.Fault`
    * `Offer.add`
    * `Offer.ofAttributes`
    * `Offer.ofTexts`
-/

namespace LookingGlass.Cookie

/- The forms of an offer. A plain one has always a version. -/
inductive Form
  | plain
  | listed
deriving DecidableEq, Repr

/-
  How long something is kept. A date in the listed form is
  never read, so it is only known to be one.
-/
inductive Expiry
  | moment (n : Int)
  | unread
deriving DecidableEq, Repr

/-
  What is offered. The port of an offer may be named without
  a number, which is then that of the origin.
-/
structure Offer where
  form : Form
  name : List Char
  version : Option (List Char) := none
  domain : Option (List Char) := none
  path : Option (List Char) := none
  port : Option (Option (List Char)) := none
  secure : Option Bool := none
  expiry : Option Expiry := none
deriving DecidableEq, Repr

namespace Offer

------------------------------------------------------------
-- Values
------------------------------------------------------------

/- What spoils all offers of a form. -/
inductive Fault
  | date (e : Date.Fault)
  | noAge
deriving DecidableEq, Repr

/- What is read of an offer: all, nothing, or a fault. -/
abbrev Reading :=
  OptionT (Except Fault)

/- A text without a quotation mark at either end. -/
def unquoted
    (cs : List Char) : List Char :=
  (Text.dropLead '"' (Text.dropLead '"' cs).reverse).reverse

/- A value that there has to be. -/
def needed :
    Option (List Char) → Reading (List Char)
  | some value => pure value
  | none => failure

/- The time in a value, if it has one. -/
def timeOf
    (clock : Date.Clock)
    (form : Form)
    (value : Option (List Char)) :
    Except Fault (Option Expiry) :=
  match form, value with
  | _, none => .ok none
  | .listed, some _ => .ok (some .unread)
  | .plain, some cs => do
    let found ←
      (Date.read clock.year (unquoted cs)).mapError .date
    return found.map .moment

/- The end of an age in a value. -/
def ageEnd
    (clock : Date.Clock) :
    Option (List Char) → Reading Int
  | none => throwThe Fault .noAge
  | some cs =>
    match Number.Integer.read cs with
    | none => failure
    | some age => pure (clock.now + age)

/- The version in a value. -/
def versionOf
    (form : Form)
    (value : Option (List Char)) : Reading (List Char) := do
  let written ← needed value
  return if form = .plain then unquoted written else written

------------------------------------------------------------
-- Reading
------------------------------------------------------------

/- An offer with one more attribute. -/
def add
    (clock : Date.Clock)
    (offer : Offer)
    (a : Attribute) : Reading Offer := do
  match a.kind with
  | "version" =>
    if offer.version.isSome then return offer
    return { offer with version := ← versionOf offer.form a.value }
  | "domain" =>
    if offer.domain.isSome then return offer
    let domain := (← needed a.value).map Char.toLower
    return { offer with domain }
  | "path" =>
    if offer.path.isSome then return offer
    return { offer with path := ← needed a.value }
  | "port" =>
    return { offer with port := offer.port <|> some a.value }
  | "secure" =>
    let secure := offer.secure <|> some (a.value != some [])
    return { offer with secure }
  | "expires" =>
    let given ← OptionT.lift (timeOf clock offer.form a.value)
    return { offer with expiry := offer.expiry <|> given }
  | "max-age" =>
    let expiry := some (.moment (← ageEnd clock a.value))
    return { offer with expiry }
  | _ => return offer

/- Checks the dates among attributes. -/
def checkDates
    (clock : Date.Clock)
    (form : Form)
    (given : List Attribute) : Except Fault Unit :=
  given.forM fun a => do
    if a.kind = "expires" then
      let _ ← timeOf clock form a.value

/- The version of an offer that names none. -/
def usualVersion : Form → Option (List Char)
  | .plain => some ['0']
  | .listed => none

/- The offer that attributes make, if there is one. -/
def ofAttributes
    (clock : Date.Clock)
    (form : Form) :
    List Attribute → Except Fault (Option Offer)
  | [] => .ok none
  | first :: given => do
    checkDates clock form given
    let offer : Offer := { form, name := first.name }
    let made ← (given.foldlM (add clock) offer).run
    return made.map fun offer =>
      { offer with version := offer.version <|> usualVersion form }

/- The offers in texts. -/
def ofTexts
    (clock : Date.Clock)
    (form : Form)
    (texts : List String) : Except Fault (List Offer) := do
  let lists :=
    match form with
    | .plain => texts.map Attribute.plain
    | .listed => Attribute.listed texts
  return (← lists.mapM (ofAttributes clock form)).filterMap id

------------------------------------------------------------
-- Versions
------------------------------------------------------------

/-
  The version that an offer is taken for. A plain one of version
  1 counts as one of version 0.
-/
def countedVersion?
    (offer : Offer) : Option Int :=
  match offer.version.bind Number.Integer.read with
  | none => none
  | some version =>
    some (if offer.form = .plain ∧ version = 1 then 0 else version)

end Offer

end LookingGlass.Cookie
