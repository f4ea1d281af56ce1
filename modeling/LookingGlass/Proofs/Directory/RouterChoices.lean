import LookingGlass.Proofs.Directory.Instances
import LookingGlass.Proofs.Directory.Routers
import Mathlib.Data.List.Sort

/-
  The choice among the routers of a payload. A client name is
  kept where it first appears; as the routers come in the order
  of their client names, what is kept is the one increasing list
  of the names, and the payload only decides which ones there
  are.

  Main declarations:
    * `Payload.NamesClient` and `Payload.namesClient_iff`
    * `pairwise_lt_eraseDups`
    * `Payload.routerChoices_are_canonical`
-/

namespace LookingGlass

open LookingGlass.Text (Wide)

------------------------------------------------------------
-- Client Names
------------------------------------------------------------

namespace Payload

/- Whether a member of a payload has this client name. -/
def NamesClient
    (payload : Json.Value)
    (clientName : Wide) : Prop :=
  ∃ members, payload = .object members ∧
    ∃ member ∈ members, HasClientName member.2 clientName

/- Members have the client names of the routers they describe. -/
theorem exists_hasClientName_iff
    {members : Json.Members}
    {listed : List (Router Wide)}
    (hListed : List.Forall₂ Describes members listed)
    (clientName : Wide) :
    (∃ member ∈ members, HasClientName member.2 clientName) ↔
      ∃ router ∈ listed, router.clientName = clientName := by
  induction hListed with
  | nil => simp
  | cons hDescribes _ ih =>
      rw [List.exists_mem_cons_iff, List.exists_mem_cons_iff, ih,
        hDescribes.hasClientName_iff]

/- So the routers of a payload have the names that are in it. -/
theorem namesClient_iff
    {payload : Json.Value}
    {found : List (Router Wide)}
    (hFound : routers payload = .ok found)
    (clientName : Wide) :
    NamesClient payload clientName ↔
      ∃ router ∈ found, router.clientName = clientName := by
  rcases routers_eq_ok_iff.mp hFound with
    ⟨members, listed, rfl, hListed, hSorting⟩
  simp only [hSorting.perm.mem_iff,
    ← exists_hasClientName_iff hListed]
  constructor
  · rintro ⟨_, hMembers, hNamed⟩
    rwa [Json.Value.object.inj hMembers]
  · intro hNamed
    exact ⟨members, rfl, hNamed⟩

/- The routers of a payload come in the order of their names. -/
theorem pairwise_clientNames
    {payload : Json.Value}
    {found : List (Router Wide)}
    (hFound : routers payload = .ok found) :
    (found.map Router.clientName).Pairwise (· ≤ ·) := by
  rcases routers_eq_ok_iff.mp hFound with ⟨_, _, _, _, hSorting⟩
  exact List.pairwise_map.mpr hSorting.ordered

end Payload

------------------------------------------------------------
-- Choices
------------------------------------------------------------

/- Names in order are increasing once none is there twice. -/
theorem pairwise_lt_eraseDups
    {names : List Wide}
    (hOrder : names.Pairwise (· ≤ ·)) :
    names.eraseDups.Pairwise (· < ·) := by
  have hKept := hOrder.sublist (eraseDups_sublist names)
  apply (hKept.and (nodup_eraseDups names)).imp
  intro a b hBoth
  exact lt_of_le_of_ne hBoth.1 hBoth.2

namespace Payload

/-
  The choices among the routers of a payload: all routers, and
  one choice for each client name in it, in increasing order.
  Payloads with the same client names leave the same choices,
  whatever else they hold and however they are ordered.
-/
theorem routerChoices_are_canonical
    {payload : Json.Value}
    {found : List (Router Wide)}
    (hFound : routers payload = .ok found) :
    (∃ names : List Wide,
      routerChoices found =
        ⟨"all", "on all"⟩ ::
          names.map (fun name => ⟨name, ("on " : Wide) ++ name⟩) ∧
      names.Pairwise (· < ·) ∧
      ∀ name, name ∈ names ↔ NamesClient payload name) ∧
    ∀ (other : Json.Value) (again : List (Router Wide)),
      routers other = .ok again →
      (∀ name, NamesClient payload name ↔ NamesClient other name) →
      routerChoices found = routerChoices again := by
  have hNames {source : Json.Value} {result : List (Router Wide)}
      (hResult : routers source = .ok result)
      (name : Wide) :
      name ∈ (result.map Router.clientName).eraseDups ↔
        NamesClient source name := by
    rw [List.mem_eraseDups, List.mem_map, namesClient_iff hResult]
  constructor
  · exact ⟨_, rfl,
      pairwise_lt_eraseDups (pairwise_clientNames hFound),
      hNames hFound⟩
  · intro other again hAgain hSame
    have hLists :
        (found.map Router.clientName).eraseDups =
          (again.map Router.clientName).eraseDups := by
      apply List.Pairwise.eq_of_mem_iff
        (pairwise_lt_eraseDups (pairwise_clientNames hFound))
        (pairwise_lt_eraseDups (pairwise_clientNames hAgain))
      intro name
      rw [hNames hFound, hNames hAgain, hSame]
    rw [routerChoices, routerChoices, hLists]

/- Three routers, of which two have the same client name. -/
def repeatedNames : Json.Value :=
  .object
    [("3", .object [("client_name", .text "edge")]),
      ("1", .object
        [("as", .int 1), ("client_name", .text "Core")]),
      ("2", .object [("client_name", .text "edge")])]

/- Two routers with the same client names in another order. -/
def singleNames : Json.Value :=
  .object
    [("4", .object [("client_name", .text "Core")]),
      ("5", .object [("client_name", .text "edge")])]

theorem routerChoices_are_canonical_repeatedNames :
    ∃ found again,
      routers repeatedNames = .ok found ∧
        routers singleNames = .ok again ∧
        (∀ name,
          NamesClient repeatedNames name ↔
            NamesClient singleNames name) ∧
        found.length = 3 ∧ again.length = 2 ∧
        routerChoices found = routerChoices again := by
  have hFound :
      routers repeatedNames =
        .ok
          (List.mergeSort
            [{ id := "3", clientName := "edge" },
              { id := "1", clientName := "Core"
                attributes := [(.text "as", .int 1)] },
              { id := "2", clientName := "edge" }]
            routerBefore) :=
    rfl
  have hAgain :
      routers singleNames =
        .ok
          (List.mergeSort
            [{ id := "4", clientName := "Core" },
              { id := "5", clientName := "edge" }]
            routerBefore) :=
    rfl
  have hSame (name : Wide) :
      NamesClient repeatedNames name ↔
        NamesClient singleNames name := by
    rw [namesClient_iff hFound, namesClient_iff hAgain]
    simp only [List.mem_mergeSort, List.exists_mem_cons_iff,
      List.not_mem_nil, false_and, exists_false, or_false]
    tauto
  rcases routerChoices_are_canonical hFound with ⟨_, hCanonical⟩
  exact ⟨_, _, hFound, hAgain, hSame, List.length_mergeSort _,
    List.length_mergeSort _, hCanonical singleNames _ hAgain hSame⟩

end Payload

end LookingGlass
