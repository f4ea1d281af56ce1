import LookingGlass.Text.Cut
import LookingGlass.Text.Percent

/-
  This file defines internet addresses and their strict text
  notations: the dotted quad without leading zeros, and the
  groups of hexadecimal digits of which one run of zeros may
  be left out.

  Key definitions include:
    * `Ipv4`
    * `Ipv4.read`
    * `Ipv4.text`
    * `Ipv4.value`
    * `Ipv6`
    * `Ipv6.read`
    * `Ipv6.value`
-/

namespace LookingGlass.Network

open LookingGlass.Text (pieces)

------------------------------------------------------------
-- Version 4
------------------------------------------------------------

/- An address of four bytes. -/
structure Ipv4 where
  a : Fin 256
  b : Fin 256
  c : Fin 256
  d : Fin 256
deriving DecidableEq, Repr

namespace Ipv4

/-
  Reads a part of a dotted quad: one to three decimal digits of
  ASCII without a leading zero.
-/
def readPart
    (cs : List Char) : Option (Fin 256) :=
  if cs.isEmpty || !cs.all Char.isDigit || cs.length > 3 ||
      (cs.length > 1 && cs.head? == some '0') then
    none
  else
    let n := cs.foldl (fun n c => 10 * n + (c.toNat - 0x30)) 0
    if h : n < 256 then some ⟨n, h⟩ else none

/- Reads a dotted quad. -/
def read
    (cs : List Char) : Option Ipv4 :=
  match pieces '.' cs with
  | [p, q, r, s] =>
    match readPart p, readPart q, readPart r, readPart s with
    | some a, some b, some c, some d => some ⟨a, b, c, d⟩
    | _, _, _, _ => none
  | _ => none

/- The dotted quad of an address. -/
def text
    (address : Ipv4) : String :=
  s!"{address.a.val}.{address.b.val}." ++
    s!"{address.c.val}.{address.d.val}"

/- An address as a number. -/
def value
    (address : Ipv4) : Nat :=
  ((address.a.val * 256 + address.b.val) * 256 +
    address.c.val) * 256 + address.d.val

end Ipv4

------------------------------------------------------------
-- Version 6
------------------------------------------------------------

/- An address of eight groups of two bytes. -/
structure Ipv6 where
  groups : Vector (Fin 65536) 8
deriving DecidableEq, Repr

namespace Ipv6

/- Reads a group: one to four hexadecimal digits. -/
def readGroup
    (cs : List Char) : Option (Fin 65536) :=
  if cs.isEmpty || cs.length > 4 then none
  else
    match cs.mapM Text.Percent.hexValue? with
    | none => none
    | some digits =>
      let n := digits.foldl (fun n d => 16 * n + d) 0
      if h : n < 65536 then some ⟨n, h⟩ else none

/- The two groups that a dotted quad stands for. -/
def ofIpv4
    (address : Ipv4) : List (Fin 65536) :=
  [Fin.ofNat 65536 (address.value / 65536),
    Fin.ofNat 65536 (address.value % 65536)]

/- Reads groups, of which the last may be a dotted quad. -/
def readGroups :
    List (List Char) → Option (List (Fin 65536))
  | [] => some []
  | [last] =>
    match readGroup last with
    | some group => some [group]
    | none => (Ipv4.read last).map ofIpv4
  | first :: rest =>
    match readGroup first, readGroups rest with
    | some group, some groups => some (group :: groups)
    | _, _ => none

/- Reads one side of a gap; no text means no group. -/
def readSide
    (cs : List Char) : Option (List (Fin 65536)) :=
  if cs.isEmpty then some [] else readGroups (pieces ':' cs)

/- A text up to its first gap, and what follows the gap. -/
def cutGap :
    List Char → List Char × Option (List Char)
  | ':' :: ':' :: rest => ([], some rest)
  | [] => ([], none)
  | c :: rest =>
    let parts := cutGap rest
    (c :: parts.1, parts.2)

/- The address of a list of groups, if there are eight. -/
def ofGroups
    (groups : List (Fin 65536)) : Option Ipv6 :=
  if h : groups.length = 8 then
    some ⟨⟨groups.toArray, by simpa using h⟩⟩
  else none

/-
  Reads an address. A gap stands for one group of zeros at
  least, and a dotted quad only for the last two groups.
-/
def read
    (cs : List Char) : Option Ipv6 :=
  match cutGap cs with
  | (_, none) => (readGroups (pieces ':' cs)).bind ofGroups
  | (before, some after) =>
    if before.contains '.' then none
    else
      match readSide before, readSide after with
      | some front, some back =>
        let missing := 8 - (front.length + back.length)
        if missing = 0 then none
        else ofGroups (front ++ List.replicate missing 0 ++ back)
      | _, _ => none

/- An address as a number. -/
def value
    (address : Ipv6) : Nat :=
  address.groups.toList.foldl (fun n g => 65536 * n + g.val) 0

end Ipv6

end LookingGlass.Network
