import LookingGlass.Network.Address
import LookingGlass.Number.Integer
import LookingGlass.Text.Wide

/-
  This file defines route distinguishers, which tell routing
  instances apart, and their text notation: administrator and
  assigned value, separated by a colon.

  There are three types, by the sizes of their two fields, and
  the distinguisher `0:0` of the default routing instance. The
  fields are bounded by their types, so a distinguisher always
  fits into its eight bytes.

  Key definitions include:
    * `RouteDistinguisher`
    * `RouteDistinguisher.Fault`
    * `RouteDistinguisher.Fault.message`
    * `RouteDistinguisher.Fault.isOfNotation`
    * `RouteDistinguisher.read`
    * `RouteDistinguisher.readName`
    * `RouteDistinguisher.text`
    * `RouteDistinguisher.typeName`
    * `RouteDistinguisher.typeNameOf?`
-/

namespace LookingGlass

open LookingGlass.Network (Ipv4)
open LookingGlass.Text (Point Wide Wording)

/- A route distinguisher. -/
inductive RouteDistinguisher
  | default
  | type0 (asn : Fin 65536) (value : Fin 4294967296)
  | type1 (address : Ipv4) (value : Fin 65536)
  | type2 (asn : Fin 4294967296) (value : Fin 65536)
deriving DecidableEq, Repr

namespace RouteDistinguisher

------------------------------------------------------------
-- Faults
------------------------------------------------------------

/-
  Why reading a text gives no route distinguisher. An
  administrator that may be an address is looked at in UTF-8.
  The last fault is that of an administrator that has passed
  for an address and then is none.
-/
inductive Fault
  | unrecognised
  | digits (fault : Number.Integer.Fault)
  | nulCharacter
  | spelling (fault : Wide.Fault)
  | noAddress (administrator : String)
deriving DecidableEq, Repr

/- The formats that are understood. -/
def expectedFormats : String :=
  "expecting a route distinguisher in one of the following " ++
    "formats:\n" ++
    "Type0: \"\x7b2-byte ASN\x7d:\x7b4-byte value\x7d\" " ++
    "(example: 2222:1000000)\n" ++
    "Type1: \"\x7b4-byte IP\x7d:\x7b2-byte value\x7d\" " ++
    "(example: 1.2.3.4:555)\n" ++
    "Type2: \"\x7b4-byte ASN\x7d:\x7b2-byte value\x7d\" " ++
    "(example: 1000000:3232)"

/- The wording of a fault. -/
def Fault.message :
    Fault → String
  | .unrecognised => expectedFormats
  | .digits fault => fault.message
  | .nulCharacter => "embedded null character"
  | .spelling fault => fault.message
  | .noAddress administrator =>
    "failed to detect a valid IP address from " ++
      Text.quoted administrator

/-
  Whether a fault is one of the notation. Those who ask for the
  type of a text are prepared for these faults only.
-/
def Fault.isOfNotation :
    Fault → Bool
  | .noAddress _ => false
  | _ => true

------------------------------------------------------------
-- Reading
------------------------------------------------------------

/- Whether a text is digits only, and not empty. -/
def isDigits
    (cs : List Char) : Bool :=
  !cs.isEmpty && cs.all Text.isDigit

/- Reads a text that is digits only. -/
def number
    (cs : List Char) : Except Fault Nat :=
  (Number.Integer.readDigits cs).mapError .digits

/- The distinguisher of a number as administrator. -/
def ofNumber
    (asn value : Nat) : Except Fault RouteDistinguisher :=
  if hAsn : asn < 65536 then
    if hValue : value < 4294967296 then
      .ok (.type0 ⟨asn, hAsn⟩ ⟨value, hValue⟩)
    else .error .unrecognised
  else if hAsn : asn < 4294967296 then
    if hValue : value < 65536 then
      .ok (.type2 ⟨asn, hAsn⟩ ⟨value, hValue⟩)
    else .error .unrecognised
  else .error .unrecognised

/- Whether a part of a dotted text starts with a needless zero. -/
def hasLeadingZero
    (cs : List Char) : Bool :=
  (Text.pieces '.' cs).any fun part =>
    part.head? == some '0' && part.length > 1

/-
  Whether an administrator passes for an address. A leading
  zero is noticed first, then a NUL, with which there is no
  looking at it.
-/
def passesForAddress
    (administrator : List Char) : Except Fault Bool :=
  if hasLeadingZero administrator then .ok false
  else if administrator.contains '\x00' then .error .nulCharacter
  else .ok (Ipv4.read administrator).isSome

/- The address of an administrator that passes for one. -/
def addressOf
    (administrator : List Char) : Except Fault Ipv4 :=
  match Ipv4.read administrator with
  | some address => .ok address
  | none => .error (.noAddress (String.ofList administrator))

/- The distinguisher of an address as administrator. -/
def ofAddress
    (administrator : List Char)
    (value : Nat) : Except Fault RouteDistinguisher := do
  let passes ← passesForAddress administrator
  if hType : passes ∧ value < 65536 then
    let address ← addressOf administrator
    return .type1 address ⟨value, hType.2⟩
  else .error .unrecognised

/-
  Reads a route distinguisher. The value is looked at before
  the administrator.
-/
def read
    (s : String) : Except Fault RouteDistinguisher :=
  if s = "0:0" then .ok .default
  else
    match Text.cut ':' s.toList with
    | (_, none) => .error .unrecognised
    | (administrator, some assigned) =>
      if !isDigits assigned then .error .unrecognised
      else do
        let value ← number assigned
        if value ≥ 4294967296 then .error .unrecognised
        else if isDigits administrator then
          let asn ← number administrator
          ofNumber asn value
        else ofAddress administrator value

------------------------------------------------------------
-- Reading names
------------------------------------------------------------

/-
  The fault of an administrator that is not of characters only.
  It has no digits, so it may only be an address, and a leading
  zero is noticed before it is looked at in UTF-8.
-/
def faultOfAdministrator
    (administrator : List Point) : Fault :=
  let startsWithZero (part : List Point) : Bool :=
    part.head? == some (.scalar '0') && part.length > 1
  if (Text.pieces (.scalar '.') administrator).any startsWithZero
  then .unrecognised
  else .spelling (Wide.fault ⟨administrator⟩)

/-
  The fault of a text that is not of characters only. It is no
  distinguisher, and the value is looked at first here as well.
-/
def faultOfPoints
    (points : List Point) : Fault :=
  match Text.cut (.scalar ':') points with
  | (_, none) => .unrecognised
  | (administrator, some assigned) =>
    match assigned.mapM Point.char? with
    | none => .unrecognised
    | some assigned =>
      if !isDigits assigned then .unrecognised
      else
        match number assigned with
        | .error fault => fault
        | .ok value =>
          if value ≥ 4294967296 then .unrecognised
          else faultOfAdministrator administrator

/- Reads a route distinguisher in a name of any kind. -/
def readName
    {T : Type}
    [Wording T]
    (name : T) : Except Fault RouteDistinguisher :=
  match Wording.string? name with
  | some s => read s
  | none => .error (faultOfPoints (Wording.wide name).points)

------------------------------------------------------------
-- Writing
------------------------------------------------------------

/- The text of an administrator. -/
def administrator :
    RouteDistinguisher → String
  | .default => "0"
  | .type0 asn _ => toString asn.val
  | .type1 address _ => address.text
  | .type2 asn _ => toString asn.val

/- The assigned value. -/
def value :
    RouteDistinguisher → Nat
  | .default => 0
  | .type0 _ value => value.val
  | .type1 _ value => value.val
  | .type2 _ value => value.val

/- The notation of a route distinguisher. -/
def text
    (rd : RouteDistinguisher) : String :=
  rd.administrator ++ ":" ++ toString rd.value

/- The number of the type; the default has none. -/
def typeNumber? :
    RouteDistinguisher → Option Nat
  | .default => none
  | .type0 _ _ => some 0
  | .type1 _ _ => some 1
  | .type2 _ _ => some 2

/- The name of the type. -/
def typeName
    (rd : RouteDistinguisher) : String :=
  match rd.typeNumber? with
  | none => "default"
  | some n => s!"type{n}"

/-
  The type that a name is of, if it is of one. A fault that is
  not of the notation goes on.
-/
def typeNameOf?
    {T : Type}
    [Wording T]
    (name : T) : Except Fault (Option String) :=
  match readName name with
  | .ok rd => .ok (some rd.typeName)
  | .error fault =>
    if fault.isOfNotation then .ok none else .error fault

end RouteDistinguisher

end LookingGlass
