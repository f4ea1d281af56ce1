import LookingGlass.Directory.Payload
import LookingGlass.Proofs.Json.Quoted
import LookingGlass.Proofs.Outcome

/-
  The routing instances of a payload: what is read of it lists
  the payload itself, every group and every entry in its place.
  A payload of another shape is refused, and the first group or
  entry out of shape is the one that is reported.

  Main declarations:
    * `RoutingInstance.pair` and `Payload.listing`
    * `Payload.IsEntry`, `Payload.IsGroup` and `Payload.IsListing`
    * `Payload.GroupFault` and `Payload.InstancesFault`
    * `Payload.groupOf_eq_ok_iff` and `Payload.groupsOf_eq_ok_iff`
    * `Payload.routingInstances_eq_ok_iff`
    * `Payload.routingInstances_error_iff`
    * `Directory.ofPayloads_eq_ok_iff`
    * `Payload.groups_are_listed_verbatim`
-/

namespace LookingGlass

open LookingGlass.Text (Wide)

/- The pair that lists a routing instance. -/
def RoutingInstance.pair
    (r : RoutingInstance Wide) : Json.Value :=
  .list [.text r.rd, r.name.elim .null .text]

/- A directory is made of its routers and of its groups. -/
theorem Directory.ofPayloads_eq_ok_iff
    {others payload : Json.Value}
    {directory : Directory Wide} :
    Directory.ofPayloads others payload = .ok directory ↔
      Payload.routers others = .ok directory.routers ∧
        Payload.routingInstances payload = .ok directory.groups := by
  simp only [Directory.ofPayloads, bind_eq_ok_iff, pure,
    Except.pure, Except.ok.injEq]
  constructor
  · intro hMade
    rcases hMade with ⟨found, hRouters, groups, hGroups, rfl⟩
    exact ⟨hRouters, hGroups⟩
  · intro hParts
    exact ⟨_, hParts.1, _, hParts.2, rfl⟩

namespace Payload

open Json (Members)

------------------------------------------------------------
-- Entries
------------------------------------------------------------

/-
  Whether an entry of a group lists a routing instance: it is a
  pair of a text, and of a text or nothing.
-/
def IsEntry
    (entry : Json.Value) : Prop :=
  ∃ rd name, entry = .list [.text rd, name] ∧
    (name = .null ∨ ∃ shown, name = .text shown)

theorem isEntry_iff
    {entry : Json.Value} :
    IsEntry entry ↔
      ∃ found : RoutingInstance Wide, found.pair = entry := by
  constructor
  · intro hEntry
    rcases hEntry with ⟨rd, name, rfl, hNull | ⟨shown, hText⟩⟩
    · subst hNull
      exact ⟨⟨rd, none⟩, rfl⟩
    · subst hText
      exact ⟨⟨rd, some shown⟩, rfl⟩
  · intro hFound
    rcases hFound with ⟨⟨rd, name⟩, rfl⟩
    refine ⟨rd, _, rfl, ?_⟩
    cases name with
    | none => exact .inl rfl
    | some shown => exact .inr ⟨shown, rfl⟩

theorem routingInstance?_eq_some_iff
    {entry : Json.Value}
    {found : RoutingInstance Wide} :
    routingInstance? entry = some found ↔ found.pair = entry := by
  constructor
  · intro hRead
    unfold routingInstance? at hRead
    split at hRead
    case h_1 => cases hRead; rfl
    case h_2 => cases hRead; rfl
    case h_3 => cases hRead
  · intro hPair
    subst hPair
    rcases found with ⟨rd, name⟩
    cases name with
    | none => rfl
    | some shown => rfl

theorem routingInstance?_eq_none_iff
    {entry : Json.Value} :
    routingInstance? entry = none ↔ ¬ IsEntry entry := by
  rw [Option.eq_none_iff_forall_ne_some, isEntry_iff, not_exists]
  simp only [ne_eq, routingInstance?_eq_some_iff]

/- How an entry of a group is read. -/
def readEntry
    (group : Wide)
    (entry : Json.Value) : Except Error (RoutingInstance Wide) :=
  match routingInstance? entry with
  | none => .error (.malformedInstance entry group)
  | some found => .ok found

theorem readEntry_eq_ok_iff
    {group : Wide}
    {entry : Json.Value}
    {found : RoutingInstance Wide} :
    readEntry group entry = .ok found ↔ found.pair = entry := by
  rw [← routingInstance?_eq_some_iff, readEntry]
  cases routingInstance? entry <;> simp

theorem exists_readEntry_iff
    {group : Wide}
    {entry : Json.Value} :
    (∃ found, readEntry group entry = .ok found) ↔
      IsEntry entry := by
  simp only [readEntry_eq_ok_iff, isEntry_iff]

theorem readEntry_eq_error_iff
    {group : Wide}
    {entry : Json.Value}
    {e : Error} :
    readEntry group entry = .error e ↔
      ¬ IsEntry entry ∧ e = .malformedInstance entry group := by
  rw [← routingInstance?_eq_none_iff, readEntry]
  cases routingInstance? entry <;> simp [eq_comm]

theorem groupOf_eq_mapM
    (group : Wide)
    (entries : List Json.Value) :
    groupOf group entries = entries.mapM (readEntry group) := by
  apply eq_mapM_of_cons
  · rfl
  · intro entry rest
    rw [groupOf, readEntry]
    cases routingInstance? entry <;> rfl

/- The entries of a group are listed by what is read of them. -/
theorem groupOf_eq_ok_iff
    {group : Wide}
    {entries : List Json.Value}
    {found : List (RoutingInstance Wide)} :
    groupOf group entries = .ok found ↔
      found.map RoutingInstance.pair = entries := by
  rw [groupOf_eq_mapM]
  exact mapM_eq_ok_iff_map_eq fun _ _ => readEntry_eq_ok_iff

/- The first entry out of shape ends the reading of a group. -/
theorem groupOf_eq_error_iff
    {group : Wide}
    {entries : List Json.Value}
    {e : Error} :
    groupOf group entries = .error e ↔
      ∃ before entry after, entries = before ++ entry :: after ∧
        (∀ earlier ∈ before, IsEntry earlier) ∧
        ¬ IsEntry entry ∧ e = .malformedInstance entry group := by
  rw [groupOf_eq_mapM, mapM_eq_error_iff]
  simp only [exists_readEntry_iff, readEntry_eq_error_iff]

------------------------------------------------------------
-- Groups
------------------------------------------------------------

/- Whether data is a list of entries. -/
def IsGroup
    (data : Json.Value) : Prop :=
  ∃ entries, data = .list entries ∧
    ∀ entry ∈ entries, IsEntry entry

/- The member that lists a group of routing instances. -/
def listedGroup
    (group : Wide × List (RoutingInstance Wide)) :
    Wide × Json.Value :=
  (group.1, .list (group.2.map RoutingInstance.pair))

/-
  What is wrong with a group, and the words in which that is
  reported: it is no list, or the first of its entries that is
  out of shape.
-/
inductive GroupFault :
    Wide × Json.Value → Error → String → Prop
  | noList
      (group : Wide)
      (data : Json.Value)
      (hData : ∀ entries, data ≠ .list entries) :
      GroupFault (group, data) (.groupNoList group)
        ("Routing instances of " ++ group.quoted ++
          " are not a list")
  | noEntry
      (group : Wide)
      (before after : List Json.Value)
      (entry : Json.Value)
      (hBefore : ∀ earlier ∈ before, IsEntry earlier)
      (hEntry : ¬ IsEntry entry) :
      GroupFault (group, .list (before ++ entry :: after))
        (.malformedInstance entry group)
        ("Malformed routing instance " ++ entry.quoted ++ " in " ++
          group.quoted)

/- How a group is read. -/
def readGroup :
    Wide × Json.Value →
      Except Error (Wide × List (RoutingInstance Wide))
  | (group, .list entries) =>
    (groupOf group entries).map fun found => (group, found)
  | (group, _) => .error (.groupNoList group)

theorem readGroup_of_no_list
    {group : Wide}
    {data : Json.Value}
    (hData : ∀ entries, data ≠ .list entries) :
    readGroup (group, data) = .error (.groupNoList group) := by
  unfold readGroup
  split
  case h_1 hList => exact absurd (Prod.mk.inj hList).2 (hData _)
  case h_2 hMember => rw [(Prod.mk.inj hMember).1]

theorem readGroup_eq_ok_iff
    {member : Wide × Json.Value}
    {found : Wide × List (RoutingInstance Wide)} :
    readGroup member = .ok found ↔ listedGroup found = member := by
  constructor
  · intro hRead
    unfold readGroup at hRead
    split at hRead
    case h_1 group entries =>
      rcases map_eq_ok_iff.mp hRead with ⟨instances, hFound, rfl⟩
      rw [listedGroup, groupOf_eq_ok_iff.mp hFound]
    case h_2 => cases hRead
  · intro hListed
    subst hListed
    rw [listedGroup, readGroup, map_eq_ok_iff]
    exact ⟨found.2, groupOf_eq_ok_iff.mpr rfl, rfl⟩

theorem exists_readGroup_iff
    {member : Wide × Json.Value} :
    (∃ found, readGroup member = .ok found) ↔
      IsGroup member.2 := by
  rcases member with ⟨group, data⟩
  constructor
  · intro hFound
    rcases hFound with ⟨found, hRead⟩
    rw [← readGroup_eq_ok_iff.mp hRead]
    refine ⟨_, rfl, ?_⟩
    intro entry hEntry
    rcases List.mem_map.mp hEntry with ⟨r, _, rfl⟩
    exact isEntry_iff.mpr ⟨r, rfl⟩
  · intro hGroup
    rcases hGroup with ⟨entries, rfl, hEntries⟩
    have hFound : ∃ found, groupOf group entries = .ok found := by
      rw [groupOf_eq_mapM, exists_mapM_eq_ok_iff]
      simpa only [exists_readEntry_iff] using hEntries
    rcases hFound with ⟨found, hFound⟩
    exact ⟨(group, found), map_eq_ok_iff.mpr ⟨found, hFound, rfl⟩⟩

/- A group that is refused is refused for its fault. -/
theorem readGroup_error_iff
    {member : Wide × Json.Value}
    {e : Error}
    {text : String} :
    readGroup member = .error e ∧ e.message = text ↔
      GroupFault member e text := by
  constructor
  · intro hRefused
    rcases hRefused with ⟨hError, rfl⟩
    unfold readGroup at hError
    split at hError
    case h_1 group entries =>
      rcases groupOf_eq_error_iff.mp (map_eq_error_iff.mp hError) with
        ⟨before, entry, after, rfl, hBefore, hEntry, rfl⟩
      exact .noEntry group before after entry hBefore hEntry
    case h_2 group data hData =>
      cases hError
      exact .noList group data hData
  · intro hFault
    cases hFault with
    | noList group data hData =>
        exact ⟨readGroup_of_no_list hData, rfl⟩
    | noEntry group before after entry hBefore hEntry =>
        refine ⟨?_, rfl⟩
        rw [readGroup, map_eq_error_iff, groupOf_eq_error_iff]
        exact ⟨before, entry, after, rfl, hBefore, hEntry, rfl⟩

theorem groupsOf_eq_mapM
    (members : Members) :
    groupsOf members = members.mapM readGroup := by
  apply eq_mapM_of_cons
  · rfl
  · intro member rest
    rcases member with ⟨group, data⟩
    cases data with
    | list entries =>
        rw [groupsOf, readGroup]
        cases groupOf group entries <;> rfl
    | _ => rfl

/- The members are listed by the groups that are read of them. -/
theorem groupsOf_eq_ok_iff
    {members : Members}
    {groups : List (Wide × List (RoutingInstance Wide))} :
    groupsOf members = .ok groups ↔
      groups.map listedGroup = members := by
  rw [groupsOf_eq_mapM]
  exact mapM_eq_ok_iff_map_eq fun _ _ => readGroup_eq_ok_iff

------------------------------------------------------------
-- Payloads
------------------------------------------------------------

/- Whether a payload is an object of groups. -/
def IsListing
    (payload : Json.Value) : Prop :=
  ∃ members, payload = .object members ∧
    ∀ member ∈ members, IsGroup member.2

/- The payload that lists groups of routing instances. -/
def listing
    (groups : List (Wide × List (RoutingInstance Wide))) :
    Json.Value :=
  .object (groups.map listedGroup)

/-
  What is wrong with a payload of routing instances, and the
  words in which that is reported: it is no object, or what is
  wrong with the first group that has a fault.
-/
inductive InstancesFault :
    Json.Value → Error → String → Prop
  | noObject
      (payload : Json.Value)
      (hPayload : ∀ members, payload ≠ .object members) :
      InstancesFault payload (.instancesNoObject payload)
        ("Expected routing instances to be an object, got " ++
          payload.kind)
  | inGroup
      (before after : Members)
      (member : Wide × Json.Value)
      (e : Error)
      (text : String)
      (hBefore : ∀ earlier ∈ before, IsGroup earlier.2)
      (hMember : GroupFault member e text) :
      InstancesFault (.object (before ++ member :: after)) e text

/- The message for a group names this group and no other. -/
theorem message_groupNoList_iff
    {group other : Wide} :
    (Error.groupNoList group).message =
        (Error.groupNoList other).message ↔
      group = other := by
  constructor
  · intro hSame
    have hWords :
        "Routing instances of " ++ group.quoted ++
            " are not a list" =
          "Routing instances of " ++ other.quoted ++
            " are not a list" :=
      hSame
    apply Wide.quoted_inj.mp
    exact (String.append_right_inj _).mp
      ((String.append_left_inj _).mp hWords)
  · intro hSame
    rw [hSame]

/- The message for an entry shows it and names its group. -/
theorem message_malformedInstance_iff
    {entry other : Json.Value}
    {group also : Wide} :
    (Error.malformedInstance entry group).message =
        (Error.malformedInstance other also).message ↔
      entry.Alike other ∧ group = also := by
  constructor
  · intro hSame
    have hWords :
        "Malformed routing instance " ++ entry.quoted ++ " in " ++
            group.quoted =
          "Malformed routing instance " ++ other.quoted ++ " in " ++
            also.quoted :=
      hSame
    have hTexts := congrArg String.toList hWords
    simp only [String.toList_append, List.append_assoc] at hTexts
    have hParts := List.append_cancel_left hTexts
    have hEnds (rest : List Char) :
        Number.Ends (" in ".toList ++ rest) := by
      intro c hc
      cases hc
      decide
    rcases entry.tells other _ _ (hEnds _) (hEnds _) hParts with
      ⟨hEntry, hBehind⟩
    have hNames := List.append_cancel_left hBehind
    exact ⟨hEntry, Wide.quoted_inj.mp (String.toList_inj.mp hNames)⟩
  · intro hBoth
    rcases hBoth with ⟨hEntry, rfl⟩
    have hQuoted := Json.Value.quoted_eq_iff.mpr hEntry
    change "Malformed routing instance " ++ entry.quoted ++ _ ++ _ = _
    rw [hQuoted]
    rfl

theorem routingInstances_of_no_object
    {payload : Json.Value}
    (hPayload : ∀ members, payload ≠ .object members) :
    routingInstances payload =
      .error (.instancesNoObject payload) := by
  unfold routingInstances
  split
  case h_1 members => exact absurd rfl (hPayload members)
  case h_2 => rfl

/- A payload lists the groups that are read of it. -/
theorem routingInstances_eq_ok_iff
    {payload : Json.Value}
    {groups : List (Wide × List (RoutingInstance Wide))} :
    routingInstances payload = .ok groups ↔
      listing groups = payload := by
  constructor
  · intro hRead
    unfold routingInstances at hRead
    split at hRead
    case h_1 members => rw [listing, groupsOf_eq_ok_iff.mp hRead]
    case h_2 => cases hRead
  · intro hListing
    subst hListing
    exact groupsOf_eq_ok_iff.mpr rfl

theorem exists_routingInstances_iff
    {payload : Json.Value} :
    (∃ groups, routingInstances payload = .ok groups) ↔
      IsListing payload := by
  constructor
  · intro hFound
    rcases hFound with ⟨groups, hRead⟩
    refine ⟨_, (routingInstances_eq_ok_iff.mp hRead).symm, ?_⟩
    intro member hMember
    rcases List.mem_map.mp hMember with ⟨group, _, rfl⟩
    exact exists_readGroup_iff.mp
      ⟨group, readGroup_eq_ok_iff.mpr rfl⟩
  · intro hListing
    rcases hListing with ⟨members, rfl, hMembers⟩
    rw [routingInstances, groupsOf_eq_mapM, exists_mapM_eq_ok_iff]
    simpa only [exists_readGroup_iff] using hMembers

/- A payload that is refused is refused for its first fault. -/
theorem routingInstances_error_iff
    {payload : Json.Value}
    {e : Error}
    {text : String} :
    routingInstances payload = .error e ∧ e.message = text ↔
      InstancesFault payload e text := by
  constructor
  · intro hRefused
    rcases hRefused with ⟨hError, rfl⟩
    unfold routingInstances at hError
    split at hError
    case h_1 members =>
      rw [groupsOf_eq_mapM, mapM_eq_error_iff] at hError
      rcases hError with ⟨before, member, after, rfl, hBefore, hMember⟩
      simp only [exists_readGroup_iff] at hBefore
      exact .inGroup before after member e _ hBefore
        (readGroup_error_iff.mp ⟨hMember, rfl⟩)
    case h_2 hPayload =>
      cases hError
      exact .noObject payload hPayload
  · intro hFault
    cases hFault with
    | noObject _ hPayload =>
        exact ⟨routingInstances_of_no_object hPayload, rfl⟩
    | inGroup before after member _ _ hBefore hMember =>
        rcases readGroup_error_iff.mpr hMember with ⟨hError, rfl⟩
        refine ⟨?_, rfl⟩
        rw [routingInstances, groupsOf_eq_mapM, mapM_eq_error_iff]
        simp only [exists_readGroup_iff]
        exact ⟨before, member, after, rfl, hBefore, hError⟩

/- An early entry out of shape is reported, not a later group. -/
example :
    routingInstances
        (.object
          [("blue", .list [.list [.text "1:1", .null], .list []]),
            ("green", .null)]) =
      .error (.malformedInstance (.list []) "blue") :=
  rfl

/-
  A payload of routing instances is refused exactly if it is no
  object of groups. It is refused for its first fault, in words
  that tell the group, and the entry if there is one. Otherwise
  the groups that are read of it list the payload itself, and so
  do the groups of a directory that is made of it.
-/
theorem groups_are_listed_verbatim
    (payload : Json.Value) :
    ((∃ e, routingInstances payload = .error e) ↔
      ¬ IsListing payload) ∧
    (∀ e text,
      routingInstances payload = .error e ∧ e.message = text ↔
        InstancesFault payload e text) ∧
    (∀ group other : Wide,
      (Error.groupNoList group).message =
          (Error.groupNoList other).message ↔
        group = other) ∧
    (∀ entry other group also,
      (Error.malformedInstance entry group).message =
          (Error.malformedInstance other also).message ↔
        entry.Alike other ∧ group = also) ∧
    (∀ groups, routingInstances payload = .ok groups ↔
      listing groups = payload) ∧
    (∀ others directory,
      Directory.ofPayloads others payload = .ok directory ↔
        routers others = .ok directory.routers ∧
          listing directory.groups = payload) := by
  refine ⟨?_, fun _ _ => routingInstances_error_iff,
    fun _ _ => message_groupNoList_iff,
    fun _ _ _ _ => message_malformedInstance_iff,
    fun groups => routingInstances_eq_ok_iff, ?_⟩
  · rw [exists_error_iff_not_exists_ok, exists_routingInstances_iff]
  · intro others directory
    rw [Directory.ofPayloads_eq_ok_iff, routingInstances_eq_ok_iff]

end Payload

end LookingGlass
