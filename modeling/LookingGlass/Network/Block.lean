import LookingGlass.Network.Address
import LookingGlass.Number.Integer

/-
  This file defines the texts that name an address or a block
  of addresses: an address alone, or an address, a slash and
  the size of the block.

  The size is a number of leading bits, or a mask in address
  notation whose ones, or whose zeros, all come first.

  Key definitions include:
    * `isMask`
    * `isSize`
    * `isAddressOrBlock`
-/

namespace LookingGlass.Network

/- Whether a number is a power of two, or zero. -/
def isPowerOrZero
    (n : Nat) : Bool :=
  n == 0 || n == Nat.pow 2 n.log2

/-
  Whether a number of a given width is a mask: ones followed by
  zeros, or zeros followed by ones.
-/
def isMask
    (width n : Nat) : Bool :=
  isPowerOrZero (Nat.pow 2 width - n) || isPowerOrZero (n + 1)

/- Whether a text is the size of a block of a given width. -/
def isSize
    (width : Nat)
    (mask? : List Char → Option Nat)
    (cs : List Char) : Bool :=
  match Number.Integer.read cs with
  | some bits => 0 ≤ bits && bits ≤ width
  | none =>
    match mask? cs with
    | some n => isMask width n
    | none => false

/- Whether a text names an address or a block of addresses. -/
def isAddressOrBlock
    (cs : List Char) : Bool :=
  let parts := Text.cut '/' cs
  let size (width : Nat) (mask? : List Char → Option Nat) :=
    match parts.2 with
    | none => true
    | some text => isSize width mask? text
  if (Ipv4.read parts.1).isSome then
    size 32 fun text => (Ipv4.read text).map Ipv4.value
  else if (Ipv6.read parts.1).isSome then
    size 128 fun text => (Ipv6.read text).map Ipv6.value
  else false

end LookingGlass.Network
