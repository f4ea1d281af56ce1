import LookingGlass.Proofs.Form.Choice
import LookingGlass.Proofs.Page.Rendering

/-
  How many options are marked in the selects of a lookup page.
  An option is marked by its value, so there is more than one
  mark where choices share the selected value: a router with
  the name that stands for all routers, and routing instances
  that share a route distinguisher, or have the name of the
  default instance as one. There are no other cases.

  Main declarations:
    * `Page.selects` and `Page.IsUnambiguous`
    * `Form.selects_page_mode`, `Form.selects_page_router` and
      `Form.selects_page_instance`
    * `Form.marks_routers` and `Form.marks_instances`
    * `Form.selection_is_unambiguous_iff`
    * `Form.shared_values_are_marked_twice`
-/

namespace LookingGlass

namespace Page

------------------------------------------------------------
-- Marked Options
------------------------------------------------------------

/- The options of a part that is a select of some name. -/
def Part.itemsUnder?
    (name : String) :
    Part → Option (List Item)
  | .select (some found) _ items =>
    if found = name then some items else none
  | _ => none

@[simp] theorem Part.itemsUnder?_select
    (name found : String)
    (onChange : Option String)
    (items : List Item) :
    itemsUnder? name (.select (some found) onChange items) =
      if found = name then some items else none :=
  rfl

@[simp] theorem Part.itemsUnder?_input
    (name : String)
    (field kind : Option String)
    (value : String) :
    itemsUnder? name (.input field kind value) = none :=
  rfl

@[simp] theorem Part.itemsUnder?_link
    (name : String)
    (target : Option String)
    (label : String) :
    itemsUnder? name (.link target label) = none :=
  rfl

/- The options of each select of some name that a page shows. -/
def selects
    (name page : String) : List (List Item) :=
  match Reader.read page with
  | none => []
  | some tokens => (parts tokens).filterMap (Part.itemsUnder? name)

/- How many of the options of a select are marked. -/
def marksOf
    (items : List Item) : Nat :=
  items.countP Item.isSelected

/- Whether the selects of some name mark one option at most. -/
def IsUnambiguous
    (name page : String) : Prop :=
  ∀ items ∈ selects name page, marksOf items ≤ 1

/- Choices are marked if they have the selected value. -/
theorem marksOf_itemsOf
    (selected : String)
    (choices : List Choice) :
    marksOf (itemsOf selected choices) =
      choices.countP fun c => c.value = selected := by
  rw [marksOf, itemsOf, List.countP_map]
  rfl

end Page

/- Members without duplicates are counted if they differ. -/
theorem one_lt_countP_iff_of_nodup
    {α : Type}
    {xs : List α}
    (hNodup : xs.Nodup)
    (p : α → Bool) :
    1 < xs.countP p ↔
      ∃ a ∈ xs, ∃ b ∈ xs, a ≠ b ∧ p a = true ∧ p b = true := by
  rw [List.countP_eq_length_filter,
    one_lt_length_iff_of_nodup (hNodup.filter p)]
  simp only [List.mem_filter]
  constructor
  · rintro ⟨a, ⟨ha, hFirst⟩, b, ⟨hb, hSecond⟩, hNe⟩
    exact ⟨a, ha, b, hb, hNe, hFirst, hSecond⟩
  · rintro ⟨a, ha, b, hb, hNe, hFirst, hSecond⟩
    exact ⟨a, ⟨ha, hFirst⟩, b, ⟨hb, hSecond⟩, hNe⟩

namespace Form

open Page (IsUnambiguous itemsOf marksOf selects)

------------------------------------------------------------
-- Selects
------------------------------------------------------------

/- The selects of a page are those among the parts of its form. -/
theorem selects_page
    (form : Form)
    (name : String) :
    selects name form.page =
      form.parts.filterMap (Page.Part.itemsUnder? name) := by
  have hRead :
      Page.Reader.read form.page =
        some (Page.gather [] (Page.lookup form.screen)) :=
    Page.Reader.read_print (Page.readable_lookup form.screen)
  rw [selects, hRead]
  simp only [Page.parts_gather, parts_lookup]

theorem selects_page_mode
    (form : Form) :
    selects modeField form.page =
      [modeItems form.current.mode] := by
  rw [selects_page, parts]
  split <;> split <;>
    simp [List.filterMap_cons, selectPart, modeField, routerField,
      instanceField]

theorem selects_page_router
    (form : Form) :
    selects routerField form.page =
      [itemsOf form.current.router form.routers] := by
  rw [selects_page, parts]
  split <;> split <;>
    simp [List.filterMap_cons, selectPart, modeField, routerField,
      instanceField]

theorem selects_page_instance
    (form : Form) :
    selects instanceField form.page =
      if form.offersInstances then
        [itemsOf form.selectedInstance form.instances]
      else [] := by
  rw [selects_page, parts]
  split <;> split <;>
    simp [List.filterMap_cons, selectPart, modeField, routerField,
      instanceField]

------------------------------------------------------------
-- Marks
------------------------------------------------------------

/- The modes have different names, and one of them is current. -/
theorem marks_modes
    (mode : Mode) :
    marksOf (modeItems mode) = 1 := by
  cases mode <;> decide

/-
  A client name is on offer once at most. What may come to it is
  the mark of the choice of all routers, in front of the names.
-/
theorem marks_routers
    (form : Form)
    (selected : String) :
    marksOf (itemsOf selected form.routers) =
      (if ∃ router ∈ form.directory.routers,
          router.clientName = selected
        then 1 else 0) +
      if allRouters = selected then 1 else 0 := by
  let names :=
    (form.directory.routers.map Router.clientName).eraseDups
  have hNames :
      names.countP (fun name => name = selected) =
        if ∃ router ∈ form.directory.routers,
            router.clientName = selected
          then 1 else 0 := by
    refine List.count_eq_countP.symm.trans ?_
    rw [(nodup_eraseDups _).count]
    simp only [List.mem_eraseDups, List.mem_map]
  rw [Page.marksOf_itemsOf, routers, routerChoices,
    List.countP_cons, List.countP_map, ← hNames]
  simp only [decide_eq_true_eq]
  rfl

/- The default instance is selected if the query has none. -/
theorem selectedInstance_eq_default_iff
    (form : Form) :
    defaultInstance = form.selectedInstance ↔
      form.current.rd = none := by
  have hDefault := form.current.rd_ne_default
  rw [selectedInstance]
  cases hInstance : form.current.rd with
  | none => simp
  | some rd =>
      rw [hInstance] at hDefault
      simpa [eq_comm] using hDefault

/-
  Each distinct instance with the selected route distinguisher
  is marked, and the default one where it is selected.
-/
theorem marks_instances
    {form : Form}
    (hOffers : form.offersInstances = true) :
    marksOf (itemsOf form.selectedInstance form.instances) =
      form.directory.distinctInstances.countP
          (fun entry => entry.rd = form.selectedInstance) +
        if form.current.rd = none then 1 else 0 := by
  rw [Page.marksOf_itemsOf, instances_of_offersInstances hOffers,
    List.countP_cons, List.countP_map]
  simp only [decide_eq_true_eq, ← selectedInstance_eq_default_iff]
  rfl

------------------------------------------------------------
-- Ambiguous Selections
------------------------------------------------------------

/- There are two marks if a router has the name of all routers. -/
theorem isUnambiguous_router_iff
    (form : Form) :
    IsUnambiguous routerField form.page ↔
      ¬ (form.current.router = allRouters ∧
        ∃ router ∈ form.directory.routers,
          router.clientName = allRouters) := by
  rw [IsUnambiguous, selects_page_router, List.forall_mem_singleton,
    marks_routers]
  by_cases hAll : allRouters = form.current.router
  · rw [← hAll]
    split <;> simp_all
  · have hOther : ¬ form.current.router = allRouters :=
      fun hEqual => hAll hEqual.symm
    rw [if_neg hAll]
    split <;> simp [hOther]

/-
  Whether the selected routing instance stands for two of those
  on offer: for two that are distinct, or for the default one
  and another that has its name.
-/
def SharesSelection
    (form : Form) : Prop :=
  (∃ r ∈ form.directory.instances,
    ∃ s ∈ form.directory.instances,
      r ≠ s ∧ r.rd = form.selectedInstance ∧
        s.rd = form.selectedInstance) ∨
  (form.offersInstances = true ∧ form.current.rd = none ∧
    ∃ entry ∈ form.directory.instances,
      entry.rd = defaultInstance)

/- Only forms that offer instances have two that are different. -/
theorem SharesSelection.offersInstances
    {form : Form}
    (hShares : form.SharesSelection) :
    form.offersInstances = true := by
  rcases hShares with ⟨r, hr, s, hs, hNe, _⟩ | ⟨hOffers, _⟩
  · exact offersInstances_iff_differ.mpr ⟨r, hr, s, hs, hNe⟩
  · exact hOffers

/-
  The marks are counted: there are two of distinct instances, or
  one of them comes to that of the default instance.
-/
theorem marks_instances_le_one_iff
    {form : Form}
    (hOffers : form.offersInstances = true) :
    marksOf (itemsOf form.selectedInstance form.instances) ≤ 1 ↔
      ¬ form.SharesSelection := by
  have hTwo :=
    one_lt_countP_iff_of_nodup
      form.directory.nodup_distinctInstances
      fun entry => entry.rd = form.selectedInstance
  have hOne :
      0 < form.directory.distinctInstances.countP
          (fun entry => entry.rd = form.selectedInstance) ↔
        ∃ entry ∈ form.directory.instances,
          entry.rd = form.selectedInstance := by
    simp [List.countP_pos_iff, Directory.mem_distinctInstances]
  simp only [Directory.mem_distinctInstances,
    decide_eq_true_eq] at hTwo
  rw [marks_instances hOffers, SharesSelection, ← hTwo]
  by_cases hNone : form.current.rd = none
  · rw [(selectedInstance_eq_default_iff form).mpr hNone, ← hOne]
    simp only [hOffers, hNone, if_true, true_and]
    omega
  · simp only [hNone, if_false, false_and, and_false, or_false]
    omega

theorem isUnambiguous_instance_iff
    (form : Form) :
    IsUnambiguous instanceField form.page ↔
      ¬ form.SharesSelection := by
  rw [IsUnambiguous, selects_page_instance]
  by_cases hOffers : form.offersInstances = true
  · rw [if_pos hOffers, List.forall_mem_singleton,
      marks_instances_le_one_iff hOffers]
  · rw [if_neg hOffers]
    have hNone : ¬ form.SharesSelection :=
      fun hShares => hOffers hShares.offersInstances
    simp [hNone]

/-
  A page has one select for the mode, with one option marked in
  it, and one for the router. No more than one router is marked
  unless the query is about all routers and one of the routers
  has their name. There is one select for the instance where
  instances are on offer, and no more than one is marked in it
  unless two of those on offer share the selection.
-/
theorem selection_is_unambiguous_iff
    (form : Form) :
    (∃ items, selects modeField form.page = [items] ∧
      marksOf items = 1) ∧
    (selects routerField form.page).length = 1 ∧
    (IsUnambiguous routerField form.page ↔
      ¬ (form.current.router = allRouters ∧
        ∃ router ∈ form.directory.routers,
          router.clientName = allRouters)) ∧
    (selects instanceField form.page).length =
      (if form.offersInstances then 1 else 0) ∧
    (IsUnambiguous instanceField form.page ↔
      ¬ form.SharesSelection) := by
  refine ⟨⟨_, form.selects_page_mode, marks_modes _⟩, ?_,
    form.isUnambiguous_router_iff, ?_,
    form.isUnambiguous_instance_iff⟩
  · rw [selects_page_router]
    rfl
  · rw [selects_page_instance]
    split <;> rfl

/- A router called like all of them, and two names of one place. -/
def collidingPayloads : Json.Value × Json.Value :=
  (.object [("1", .object [("client_name", .text "all")])],
    .object
      [("g",
        .list [.list [.text "1:1", .text "blue"],
          .list [.text "1:1", .text "green"]])])

/- Their directory. -/
def collidingDirectory : Directory :=
  { routers := [{ id := "1", clientName := "all" }]
    groups :=
      [("g", [⟨"1:1", some "blue"⟩, ⟨"1:1", some "green"⟩])] }

/- Two routers and two routing instances are marked at once. -/
theorem shared_values_are_marked_twice :
    ∃ d, Directory.ofPayloads collidingPayloads.1
        collidingPayloads.2 = .ok d.wide ∧
      let form : Form :=
        { directory := d
          current := .make .fallback "" allRouters (some "1:1") }
      ¬ IsUnambiguous routerField form.page ∧
        ¬ IsUnambiguous instanceField form.page := by
  have hRouters :
      Payload.routers collidingPayloads.1 =
        .ok collidingDirectory.wide.routers := by
    simp [Payload.routers, Payload.routersOf, Payload.router?,
      Payload.clientNameMember, Json.Members.get?,
      Json.Table.ofMembers, collidingPayloads, collidingDirectory,
      Directory.wide, Router.wide, Except.map]
  have hAccepted :
      Directory.ofPayloads collidingPayloads.1
        collidingPayloads.2 = .ok collidingDirectory.wide := by
    rw [Directory.ofPayloads, hRouters]
    rfl
  refine ⟨collidingDirectory, hAccepted, ?_, ?_⟩
  · intro hOnce
    apply (isUnambiguous_router_iff _).mp hOnce
    refine ⟨by simp, { id := "1", clientName := "all" }, ?_, rfl⟩
    simp [collidingDirectory]
  · intro hOnce
    apply (isUnambiguous_instance_iff _).mp hOnce
    refine Or.inl ⟨⟨"1:1", some "blue"⟩, ?_,
      ⟨"1:1", some "green"⟩, ?_, by decide, rfl, rfl⟩
    · simp [collidingDirectory, Directory.instances]
    · simp [collidingDirectory, Directory.instances]

end Form

end LookingGlass
