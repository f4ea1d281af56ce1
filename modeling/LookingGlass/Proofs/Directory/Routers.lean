import LookingGlass.Directory.Payload
import LookingGlass.Proofs.Outcome
import LookingGlass.Proofs.Text.Quoted
import LookingGlass.Proofs.Text.Wide
import Mathlib.Data.List.Forall2
import Mathlib.Order.Lattice

/-
  The routers of a payload: each member of it that is read is
  one router, and all of them are put in the order of their
  client names, in which routers of the same client name stay
  as they came. The first member without a client name is
  reported, and nothing else is read as a fault.

  Main declarations:
    * `IsSorting`, `isSorting_mergeSort` and `IsSorting.unique`
    * `Payload.Describes` and `Payload.routersOf_eq_ok_iff`
    * `Payload.RouterFault` and `Payload.routersOf_eq_error_iff`
    * `Payload.routers_eq_ok_iff`
    * `Payload.routers_are_sorted_members`
-/

namespace LookingGlass

open LookingGlass.Text (Wide)

------------------------------------------------------------
-- Stable Sorting
------------------------------------------------------------

section Sorting

variable {α κ : Type} [LinearOrder κ] [DecidableEq κ]
variable {key : α → κ}

/-
  Whether a list is another one put in the order of a key: the
  same entries, none of them behind a greater one, and those of
  the same key in the order that they had before.
-/
structure IsSorting
    (key : α → κ)
    (xs sorted : List α) : Prop where
  perm : sorted.Perm xs
  ordered : sorted.Pairwise fun a b => key a ≤ key b
  stable (k : κ) :
    sorted.filter (fun a => key a = k) =
      xs.filter fun a => key a = k

/- The entries of one key are in order as they come. -/
theorem pairwise_filter_key
    (xs : List α)
    (k : κ) :
    (xs.filter fun a => key a = k).Pairwise fun a b =>
      key a ≤ key b := by
  apply List.pairwise_of_forall_mem_list
  intro a hFirst b hSecond
  have hFirst : key a = k := by
    simpa using (List.mem_filter.mp hFirst).2
  have hSecond : key b = k := by
    simpa using (List.mem_filter.mp hSecond).2
  rw [hFirst, hSecond]

/-
  Sorting keeps every part that is in order already. So it keeps
  the entries of one key, and as it keeps their number too,
  there are no other ones among them.
-/
theorem isSorting_mergeSort
    {before : α → α → Bool}
    (hBefore : ∀ a b, before a b = true ↔ key a ≤ key b)
    (xs : List α) :
    IsSorting key xs (xs.mergeSort before) := by
  have hTrans (a b c : α)
      (hFirst : before a b = true)
      (hSecond : before b c = true) :
      before a c = true := by
    rw [hBefore] at *
    exact le_trans hFirst hSecond
  have hTotal (a b : α) : (before a b || before b a) = true := by
    rw [Bool.or_eq_true, hBefore, hBefore]
    exact le_total (key a) (key b)
  have hPerm : (xs.mergeSort before).Perm xs :=
    List.mergeSort_perm xs before
  refine ⟨hPerm, ?_, ?_⟩
  · have hSorted := List.pairwise_mergeSort hTrans hTotal xs
    simpa only [hBefore] using hSorted
  · intro k
    have hPart :
        (xs.filter fun a => key a = k).Sublist
          (xs.mergeSort before) := by
      apply List.sublist_mergeSort hTrans hTotal
      · simpa only [hBefore] using pairwise_filter_key xs k
      · exact List.filter_sublist
    have hKept := hPart.filter fun a => key a = k
    rw [List.filter_filter] at hKept
    simp only [Bool.and_self] at hKept
    exact (hKept.eq_of_length (hPerm.filter _).length_eq.symm).symm

omit [LinearOrder κ] in
/- Lists with the same entries of each key have the same ones. -/
theorem mem_of_filter_key
    {xs ys : List α}
    (hFilter : ∀ k,
      xs.filter (fun a => key a = k) =
        ys.filter fun a => key a = k)
    {a : α}
    (hMem : a ∈ xs) :
    a ∈ ys := by
  have hFound : a ∈ xs.filter fun b => key b = key a := by
    simpa using hMem
  rw [hFilter (key a)] at hFound
  exact (List.mem_filter.mp hFound).1

omit [DecidableEq κ] in
/- The first entry in order is behind no other one. -/
theorem key_le_of_mem
    {a b : α}
    {rest : List α}
    (hOrder : (a :: rest).Pairwise fun c d => key c ≤ key d)
    (hMem : b ∈ a :: rest) :
    key a ≤ key b := by
  rcases List.mem_cons.mp hMem with rfl | hRest
  · exact le_rfl
  · exact List.rel_of_pairwise_cons hOrder hRest

/-
  Lists in order are the same if they have the same entries of
  each key. By induction: the first entries have the same key,
  as neither is behind the other, and come first among those.
-/
theorem eq_of_filter_key
    {xs ys : List α}
    (hFirst : xs.Pairwise fun a b => key a ≤ key b)
    (hSecond : ys.Pairwise fun a b => key a ≤ key b)
    (hFilter : ∀ k,
      xs.filter (fun a => key a = k) =
        ys.filter fun a => key a = k) :
    xs = ys := by
  induction xs generalizing ys with
  | nil =>
      symm
      rw [List.eq_nil_iff_forall_not_mem]
      intro b hMem
      cases mem_of_filter_key (fun k => (hFilter k).symm) hMem
  | cons a rest ih =>
      cases ys with
      | nil => cases mem_of_filter_key hFilter List.mem_cons_self
      | cons b more =>
          have hLess : key b ≤ key a :=
            key_le_of_mem hSecond
              (mem_of_filter_key hFilter List.mem_cons_self)
          have hGreater : key a ≤ key b :=
            key_le_of_mem hFirst
              (mem_of_filter_key (fun k => (hFilter k).symm)
                List.mem_cons_self)
          have hSame : key a = key b := le_antisymm hGreater hLess
          have hHead : a = b := by
            have hEqual := hFilter (key a)
            simp only [List.filter_cons, hSame, decide_true,
              if_true] at hEqual
            exact (List.cons.inj hEqual).1
          subst hHead
          congr 1
          apply ih hFirst.tail hSecond.tail
          intro k
          have hEqual := hFilter k
          simp only [List.filter_cons] at hEqual
          split at hEqual
          · exact (List.cons.inj hEqual).2
          · exact hEqual

/- There is one way to put a list in order. -/
theorem IsSorting.unique
    {xs ys zs : List α}
    (hFirst : IsSorting key xs ys)
    (hSecond : IsSorting key xs zs) :
    ys = zs := by
  apply eq_of_filter_key hFirst.ordered hSecond.ordered
  intro k
  rw [hFirst.stable, hSecond.stable]

end Sorting

namespace Payload

open Json (Members)

------------------------------------------------------------
-- Members
------------------------------------------------------------

/- Whether data is an object with this text as client name. -/
def HasClientName
    (data : Json.Value)
    (clientName : Wide) : Prop :=
  ∃ fields, data = .object fields ∧
    Members.get? fields "client_name" = some (.text clientName)

/- Whether data is an object with any text as client name. -/
def IsNamed
    (data : Json.Value) : Prop :=
  ∃ clientName, HasClientName data clientName

/-
  What a member of a payload says about a router: its id is the
  name of the member, the client name is one of the fields, and
  the other fields are its attributes, in their order.
-/
inductive Describes :
    Wide × Json.Value → Router Wide → Prop
  | router
      (id clientName : Wide)
      (fields : Members)
      (hName :
        Members.get? fields "client_name" =
          some (.text clientName)) :
      Describes (id, .object fields)
        { id, clientName
          attributes :=
            (fields.filter fun field =>
              field.1 != ("client_name" : Wide)).map fun field =>
                (.text field.1, field.2) }

theorem router?_eq_some_iff
    {id : Wide}
    {data : Json.Value}
    {router : Router Wide} :
    router? id data = some router ↔
      Describes (id, data) router := by
  constructor
  · intro hRead
    unfold router? at hRead
    split at hRead
    case h_1 fields =>
      split at hRead
      case h_1 clientName hName =>
        rw [← Option.some.inj hRead]
        exact .router id clientName fields hName
      case h_2 => cases hRead
    case h_2 => cases hRead
  · rintro ⟨_, clientName, fields, hName⟩
    simp [router?, clientNameMember, hName, Json.Table.ofMembers]

theorem router?_eq_none_iff
    {id : Wide}
    {data : Json.Value} :
    router? id data = none ↔ ¬ IsNamed data := by
  constructor
  · rintro hNone ⟨clientName, fields, rfl, hName⟩
    have hRead :=
      router?_eq_some_iff.mpr (.router id clientName fields hName)
    rw [hNone] at hRead
    cases hRead
  · intro hMissing
    rw [Option.eq_none_iff_forall_ne_some]
    intro router hRead
    cases router?_eq_some_iff.mp hRead with
    | router _ clientName fields hName =>
        exact hMissing ⟨clientName, fields, rfl, hName⟩

/- The client name of a router is the one that a member has. -/
theorem Describes.hasClientName_iff
    {member : Wide × Json.Value}
    {router : Router Wide}
    (hDescribes : Describes member router)
    (clientName : Wide) :
    HasClientName member.2 clientName ↔
      router.clientName = clientName := by
  cases hDescribes with
  | router id found fields hFound =>
      constructor
      · rintro ⟨_, hFields, hName⟩
        rw [← Json.Value.object.inj hFields, hFound] at hName
        exact Json.Value.text.inj (Option.some.inj hName)
      · rintro rfl
        exact ⟨fields, rfl, hFound⟩

/- How a member of a payload is read. -/
def readMember
    (member : Wide × Json.Value) : Except Error (Router Wide) :=
  match router? member.1 member.2 with
  | none => .error (.routerWithoutName member.1)
  | some router => .ok router

theorem routersOf_eq_mapM
    (members : Members) :
    routersOf members = members.mapM readMember := by
  apply eq_mapM_of_cons
  · rfl
  · rintro ⟨id, data⟩ rest
    rw [routersOf, readMember]
    cases router? id data <;> rfl

theorem readMember_eq_ok_iff
    {member : Wide × Json.Value}
    {router : Router Wide} :
    readMember member = .ok router ↔ Describes member router := by
  rw [← router?_eq_some_iff, readMember]
  cases router? member.1 member.2 <;> simp

theorem exists_readMember_iff
    {member : Wide × Json.Value} :
    (∃ router, readMember member = .ok router) ↔
      IsNamed member.2 := by
  rw [← not_iff_not, ← router?_eq_none_iff, readMember]
  cases router? member.1 member.2 <;> simp

theorem readMember_eq_error_iff
    {member : Wide × Json.Value}
    {e : Error} :
    readMember member = .error e ↔
      ¬ IsNamed member.2 ∧ e = .routerWithoutName member.1 := by
  rw [← router?_eq_none_iff, readMember]
  cases router? member.1 member.2 <;> simp [eq_comm]

/- Members are read as one router each, in their order. -/
theorem routersOf_eq_ok_iff
    {members : Members}
    {listed : List (Router Wide)} :
    routersOf members = .ok listed ↔
      List.Forall₂ Describes members listed := by
  rw [routersOf_eq_mapM, mapM_eq_ok_iff]
  simp only [readMember_eq_ok_iff]

/- The first member without a client name ends the reading. -/
theorem routersOf_eq_error_iff
    {members : Members}
    {e : Error} :
    routersOf members = .error e ↔
      ∃ before member after, members = before ++ member :: after ∧
        (∀ earlier ∈ before, IsNamed earlier.2) ∧
        ¬ IsNamed member.2 ∧ e = .routerWithoutName member.1 := by
  rw [routersOf_eq_mapM, mapM_eq_error_iff]
  simp only [exists_readMember_iff, readMember_eq_error_iff]

------------------------------------------------------------
-- Payloads
------------------------------------------------------------

/-
  What is wrong with a payload of routers, and the words in
  which that is reported: it is no object, or some member has no
  client name, in which case the first such member is named.
-/
inductive RouterFault :
    Json.Value → Error → String → Prop
  | noObject
      (payload : Json.Value)
      (hPayload : ∀ members, payload ≠ .object members) :
      RouterFault payload (.routersNoObject payload)
        ("Expected router list to be an object, got " ++
          payload.kind)
  | noClientName
      (before after : Members)
      (id : Wide)
      (data : Json.Value)
      (hBefore : ∀ member ∈ before, IsNamed member.2)
      (hData : ¬ IsNamed data) :
      RouterFault (.object (before ++ (id, data) :: after))
        (.routerWithoutName id)
        ("Router " ++ id.quoted ++ " has no client_name")

/- The message for a member names this member and no other. -/
theorem message_routerWithoutName_iff
    {id other : Wide} :
    (Error.routerWithoutName id).message =
        (Error.routerWithoutName other).message ↔
      id = other := by
  constructor
  · intro hSame
    have hWords :
        "Router " ++ id.quoted ++ " has no client_name" =
          "Router " ++ other.quoted ++ " has no client_name" :=
      hSame
    apply Wide.quoted_inj.mp
    exact (String.append_right_inj _).mp
      ((String.append_left_inj _).mp hWords)
  · intro hSame
    rw [hSame]

theorem routerBefore_iff
    (r s : Router Wide) :
    routerBefore r s = true ↔ r.clientName ≤ s.clientName :=
  decide_eq_true_iff

/- Routers are what the members describe, put in order. -/
theorem routers_eq_ok_iff
    {payload : Json.Value}
    {found : List (Router Wide)} :
    routers payload = .ok found ↔
      ∃ members listed, payload = .object members ∧
        List.Forall₂ Describes members listed ∧
        IsSorting Router.clientName listed found := by
  constructor
  · intro hFound
    unfold routers at hFound
    split at hFound
    case h_1 members =>
      rcases map_eq_ok_iff.mp hFound with ⟨listed, hListed, rfl⟩
      exact ⟨members, listed, rfl, routersOf_eq_ok_iff.mp hListed,
        isSorting_mergeSort routerBefore_iff listed⟩
    case h_2 => cases hFound
  · rintro ⟨members, listed, rfl, hListed, hSorting⟩
    rw [routers, map_eq_ok_iff]
    exact ⟨listed, routersOf_eq_ok_iff.mpr hListed,
      (isSorting_mergeSort routerBefore_iff listed).unique hSorting⟩

theorem exists_routers_iff
    {payload : Json.Value} :
    (∃ found, routers payload = .ok found) ↔
      ∃ members, payload = .object members ∧
        ∀ member ∈ members, IsNamed member.2 := by
  constructor
  · rintro ⟨found, hFound⟩
    rcases routers_eq_ok_iff.mp hFound with
      ⟨members, listed, rfl, hListed, _⟩
    refine ⟨members, rfl, ?_⟩
    intro member hMember
    rw [← exists_readMember_iff]
    apply exists_mapM_eq_ok_iff.mp ?_ member hMember
    exact ⟨listed, (routersOf_eq_mapM members).symm.trans
      (routersOf_eq_ok_iff.mpr hListed)⟩
  · rintro ⟨members, rfl, hMembers⟩
    have hListed : ∃ listed, routersOf members = .ok listed := by
      rw [routersOf_eq_mapM, exists_mapM_eq_ok_iff]
      simpa only [exists_readMember_iff] using hMembers
    rcases hListed with ⟨listed, hListed⟩
    exact ⟨_, map_eq_ok_iff.mpr ⟨listed, hListed, rfl⟩⟩

/- A payload that is refused is refused for its fault. -/
theorem routers_error_iff
    {payload : Json.Value}
    {e : Error}
    {text : String} :
    routers payload = .error e ∧ e.message = text ↔
      RouterFault payload e text := by
  constructor
  · rintro ⟨hError, rfl⟩
    unfold routers at hError
    split at hError
    case h_1 members =>
      have hMembers := map_eq_error_iff.mp hError
      rcases routersOf_eq_error_iff.mp hMembers with
        ⟨before, ⟨id, data⟩, after, rfl, hBefore, hData, rfl⟩
      exact .noClientName before after id data hBefore hData
    case h_2 hPayload =>
      cases hError
      exact .noObject payload hPayload
  · intro hFault
    cases hFault with
    | noObject _ hPayload =>
        refine ⟨?_, rfl⟩
        unfold routers
        split
        case h_1 members => exact absurd rfl (hPayload members)
        case h_2 => rfl
    | noClientName before after id data hBefore hData =>
        refine ⟨?_, rfl⟩
        rw [routers, map_eq_error_iff, routersOf_eq_error_iff]
        exact ⟨before, (id, data), after, rfl, hBefore, hData, rfl⟩

/- The ids of routers are the names of the members. -/
theorem ids_of_describes
    {members : Members}
    {listed : List (Router Wide)}
    (hListed : List.Forall₂ Describes members listed) :
    listed.map Router.id = members.map Prod.fst := by
  induction hListed with
  | nil => rfl
  | cons hDescribes _ ih =>
      cases hDescribes
      simp [ih]

/-
  A payload of routers is refused exactly for a fault, and in
  the words for it, which name the first member without a client
  name and no other. Otherwise its routers are those that the
  members describe, one of each member, sorted by client name
  with members of the same client name in their order.
-/
theorem routers_are_sorted_members
    (payload : Json.Value) :
    ((∃ e, routers payload = .error e) ↔
      ¬ ∃ members, payload = .object members ∧
        ∀ member ∈ members, IsNamed member.2) ∧
    (∀ e text,
      routers payload = .error e ∧ e.message = text ↔
        RouterFault payload e text) ∧
    (∀ id other : Wide,
      (Error.routerWithoutName id).message =
          (Error.routerWithoutName other).message ↔
        id = other) ∧
    (∀ found, routers payload = .ok found ↔
      ∃ members listed, payload = .object members ∧
        List.Forall₂ Describes members listed ∧
        IsSorting Router.clientName listed found ∧
        (found.map Router.id).Perm (members.map Prod.fst)) := by
  refine ⟨?_, fun _ _ => routers_error_iff,
    fun _ _ => message_routerWithoutName_iff, ?_⟩
  · rw [exists_error_iff_not_exists_ok, exists_routers_iff]
  · intro found
    rw [routers_eq_ok_iff]
    constructor
    · rintro ⟨members, listed, hPayload, hListed, hSorting⟩
      refine ⟨members, listed, hPayload, hListed, hSorting, ?_⟩
      rw [← ids_of_describes hListed]
      exact hSorting.perm.map Router.id
    · rintro ⟨members, listed, hPayload, hListed, hSorting, _⟩
      exact ⟨members, listed, hPayload, hListed, hSorting⟩

end Payload

end LookingGlass
