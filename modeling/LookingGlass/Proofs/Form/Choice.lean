import LookingGlass.Directory.Payload
import LookingGlass.Proofs.Directory.Instances
import LookingGlass.Proofs.Form.Draft

/-
  What the choices of a form ask for: a router or a routing
  instance that is chosen by its label is what the submitted
  query filters by. The two names that stand for no filter are
  the only exceptions; no query ever has them in a filter.

  Main declarations:
    * `Query.mem_filters_iff`
    * `Form.AsksFor`
    * `Form.choices_ask_iff`
-/

namespace LookingGlass

open Text (Fields)

------------------------------------------------------------
-- Filters
------------------------------------------------------------

namespace Query

theorem mem_filters_iff
    {q : Query}
    {name value : String} :
    (name, value) ∈ q.filters ↔
      (name = routerFilter ∧ value = q.router ∧
        q.router ≠ allRouters) ∨
      (name = instanceFilter ∧ q.rd = some value) := by
  unfold filters
  cases hInstance : q.rd with
  | none =>
      by_cases hRouter : q.router = allRouters <;>
        simp [hRouter]
  | some rd =>
      by_cases hRouter : q.router = allRouters <;>
        simp [hRouter, eq_comm]

theorem router_mem_filters_iff
    {q : Query}
    {router : String} :
    (routerFilter, router) ∈ q.filters ↔
      q.router = router ∧ router ≠ allRouters := by
  have hNames : routerFilter ≠ instanceFilter := by decide
  rw [mem_filters_iff]
  constructor
  · rintro (⟨_, rfl, hAll⟩ | ⟨hName, _⟩)
    · exact ⟨rfl, hAll⟩
    · exact absurd hName hNames
  · rintro ⟨rfl, hAll⟩
    exact Or.inl ⟨rfl, rfl, hAll⟩

theorem instance_mem_filters_iff
    {q : Query}
    {rd : String} :
    (instanceFilter, rd) ∈ q.filters ↔ q.rd = some rd := by
  have hNames : instanceFilter ≠ routerFilter := by decide
  rw [mem_filters_iff]
  constructor
  · rintro (⟨hName, _⟩ | ⟨_, hInstance⟩)
    · exact absurd hName hNames
    · exact hInstance
  · intro hInstance
    exact Or.inr ⟨rfl, hInstance⟩

/- The names that stand for no filter are in none. -/
theorem allRouters_not_mem_filters
    (q : Query) :
    (routerFilter, allRouters) ∉ q.filters := by
  intro hMem
  exact (router_mem_filters_iff.mp hMem).2 rfl

theorem defaultInstance_not_mem_filters
    (q : Query) :
    (instanceFilter, defaultInstance) ∉ q.filters := by
  intro hMem
  exact q.rd_ne_default (instance_mem_filters_iff.mp hMem)

end Query

namespace Form

------------------------------------------------------------
-- What a Value Asks For
------------------------------------------------------------

/-
  Whether a value in a field asks for a filter, however the
  rest of the form is filled in with a mode.
-/
def AsksFor
    (form : Form)
    (field value : String)
    (filter : String × String) : Prop :=
  ∀ (mode : Mode) (fields : Fields),
    fields.first? modeField = some mode.name →
    fields.first? field = some value →
    ∃ q, form.query fields = .ok q ∧ filter ∈ q.filters

/- A form with a mode is always read as a query. -/
theorem query_of_mode
    {T : Type}
    [Text.Wording T]
    (form : Form T)
    {mode : Mode}
    {fields : Fields}
    (hMode : fields.first? modeField = some mode.name) :
    form.query fields =
      .ok (.make mode ((fields.first? valueField).getD "")
        ((fields.first? routerField).getD allRouters)
        (if form.offersInstances then fields.first? instanceField
          else none)) := by
  simp only [query, read, Submission.query, Query.ofNames, hMode,
    Option.getD_some, Query.modeOfName_name, Except.map]

/- Two fields, of which the first one is the mode. -/
theorem exists_fields
    {field : String}
    (hField : field ≠ modeField)
    (mode : Mode)
    (value : String) :
    ∃ fields : Fields,
      fields.first? modeField = some mode.name ∧
        fields.first? field = some value := by
  refine ⟨[(modeField, mode.name), (field, value)], ?_, ?_⟩
  · simp [Fields.first?]
  · have hOther : (field == modeField) = false :=
      beq_false_of_ne hField
    simp [Fields.first?, List.lookup_cons, hOther]

/- A filter that no query has is never asked for. -/
theorem not_asksFor_of_forall_not_mem
    (form : Form)
    {field value : String}
    (hField : field ≠ modeField)
    {filter : String × String}
    (hNever : ∀ q : Query, filter ∉ q.filters) :
    ¬ form.AsksFor field value filter := by
  intro hAsks
  rcases exists_fields hField .fallback value with
    ⟨fields, hMode, hValue⟩
  rcases hAsks .fallback fields hMode hValue with ⟨q, _, hMem⟩
  exact hNever q hMem

/- A router is asked for by its name. -/
theorem asksFor_router_iff
    (form : Form)
    (router : String) :
    form.AsksFor routerField router (Query.routerFilter, router) ↔
      router ≠ allRouters := by
  constructor
  · rintro hAsks rfl
    exact form.not_asksFor_of_forall_not_mem (by decide)
      Query.allRouters_not_mem_filters hAsks
  · intro hAll mode fields hMode hValue
    refine ⟨_, form.query_of_mode hMode, ?_⟩
    rw [Query.router_mem_filters_iff, Query.router_make, hValue]
    exact ⟨rfl, hAll⟩

/- A routing instance is asked for where one is offered. -/
theorem asksFor_instance_iff
    {form : Form}
    (hOffers : form.offersInstances = true)
    (rd : String) :
    form.AsksFor instanceField rd (Query.instanceFilter, rd) ↔
      rd ≠ defaultInstance := by
  constructor
  · rintro hAsks rfl
    exact form.not_asksFor_of_forall_not_mem (by decide)
      Query.defaultInstance_not_mem_filters hAsks
  · intro hDefault mode fields hMode hValue
    refine ⟨_, form.query_of_mode hMode, ?_⟩
    rw [Query.instance_mem_filters_iff, Query.rd_make, if_pos hOffers,
      hValue, if_neg (by simpa using hDefault)]

------------------------------------------------------------
-- Choices by Their Labels
------------------------------------------------------------

theorem routerChoice_mem_routers
    {form : Form}
    {router : Router}
    (hRouter : router ∈ form.directory.routers) :
    routerChoice router.clientName ∈ form.routers := by
  apply List.mem_cons_of_mem
  apply List.mem_map_of_mem
  rw [List.mem_eraseDups]
  exact List.mem_map_of_mem hRouter

theorem choice_mem_instances
    {form : Form}
    (hOffers : form.offersInstances = true)
    {entry : RoutingInstance}
    (hEntry : entry ∈ form.directory.instances) :
    (⟨entry.rd, entry.label⟩ : Choice) ∈ form.instances := by
  rw [instances_of_offersInstances hOffers]
  apply List.mem_cons_of_mem
  exact List.mem_map.mpr
    ⟨entry, Directory.mem_distinctInstances.mpr hEntry, rfl⟩

/-
  Every router has a choice under its name, and every routing
  instance one under its label where instances are offered.
  Such a choice asks for what it is called after, unless that
  has the name that stands for all routers, or for the default
  instance.
-/
theorem choices_ask_iff
    (form : Form) :
    (∀ router ∈ form.directory.routers,
      ∃ choice ∈ form.routers,
        choice.label = "on " ++ router.clientName ∧
        (form.AsksFor routerField choice.value
            (Query.routerFilter, router.clientName) ↔
          router.clientName ≠ allRouters)) ∧
    (form.offersInstances = true →
      ∀ entry ∈ form.directory.instances,
        ∃ choice ∈ form.instances,
          choice.label = entry.label ∧
          (form.AsksFor instanceField choice.value
              (Query.instanceFilter, entry.rd) ↔
            entry.rd ≠ defaultInstance)) := by
  constructor
  · intro router hRouter
    exact ⟨routerChoice router.clientName,
      routerChoice_mem_routers hRouter, rfl,
      form.asksFor_router_iff router.clientName⟩
  · intro hOffers entry hEntry
    exact ⟨⟨entry.rd, entry.label⟩,
      choice_mem_instances hOffers hEntry, rfl,
      asksFor_instance_iff hOffers entry.rd⟩

/- Instances are on offer if there are two different ones. -/
theorem offersInstances_iff
    {T : Type}
    [Text.Wording T]
    {form : Form T} :
    form.offersInstances = true ↔
      1 < form.directory.instances.eraseDups.length := by
  rw [← Directory.length_distinctInstances, offersInstances,
    instances]
  by_cases hFew : form.directory.distinctInstances.length ≤ 1
  · simp only [instanceChoices, if_pos hFew]
    simp only [List.isEmpty_nil, Bool.not_true, Bool.false_eq_true,
      false_iff]
    omega
  · rw [instanceChoices, if_neg hFew]
    split
    · simp_all
    · simp only [List.isEmpty_cons, Bool.not_false, true_iff]
      omega

/- Instances are on offer if two of a directory differ. -/
theorem offersInstances_iff_differ
    {T : Type}
    [Text.Wording T]
    {form : Form T} :
    form.offersInstances = true ↔
      ∃ r ∈ form.directory.instances,
        ∃ s ∈ form.directory.instances, r ≠ s := by
  rw [offersInstances_iff, ← Directory.length_distinctInstances,
    Directory.one_lt_length_distinctInstances_iff]

/- A directory in which routers and labels repeat. -/
def sharedNames : Directory :=
  { routers :=
      [{ id := "1", clientName := "edge" },
        { id := "2", clientName := "edge" }]
    groups :=
      [("g", [⟨"1:1", some "blue"⟩, ⟨"1:2", some "blue"⟩])] }

theorem choices_ask_sharedNames :
    let form : Form := { directory := sharedNames }
    form.offersInstances = true ∧
      (∃ choice ∈ form.routers,
        choice.label = "on edge" ∧
        form.AsksFor routerField choice.value
          (Query.routerFilter, "edge")) ∧
      ∃ choice ∈ form.instances,
        choice.label = "blue" ∧
        form.AsksFor instanceField choice.value
          (Query.instanceFilter, "1:2") := by
  intro form
  have hOffers : form.offersInstances = true :=
    offersInstances_iff.mpr (by decide)
  have hChoices := choices_ask_iff form
  have hRouter :
      ({ id := "2", clientName := "edge" } : Router) ∈
        form.directory.routers := by
    simp [form, sharedNames]
  have hEntry :
      (⟨"1:2", some "blue"⟩ : RoutingInstance) ∈
        form.directory.instances := by
    simp [form, sharedNames, Directory.instances]
  rcases hChoices.1 _ hRouter with ⟨first, hFirst, hName, hAsks⟩
  rcases hChoices.2 hOffers _ hEntry with
    ⟨second, hSecond, hLabel, hAsked⟩
  exact ⟨hOffers,
    ⟨first, hFirst, hName, hAsks.mpr (by decide)⟩,
    ⟨second, hSecond, hLabel, hAsked.mpr (by decide)⟩⟩

/- A router and a routing instance with names that are taken. -/
def reservedPayloads : Json.Value × Json.Value :=
  (.object [("1", .object [("client_name", .text "all")])],
    .object
      [("g",
        .list [.list [.text "1:1", .null],
          .list [.text "default", .text "blue"]])])

/- Their directory. -/
def reservedDirectory : Directory :=
  { routers := [{ id := "1", clientName := "all" }]
    groups := [("g", [⟨"1:1", none⟩, ⟨"default", some "blue"⟩])] }

/- Both are on offer, but no choice asks for them. -/
theorem reserved_names_ask_for_nothing :
    ∃ d, Directory.ofPayloads reservedPayloads.1 reservedPayloads.2 =
        .ok d.wide ∧
      let form : Form := { directory := d }
      (∃ router ∈ d.routers,
        ¬ ∃ choice ∈ form.routers,
          choice.label = "on " ++ router.clientName ∧
          form.AsksFor routerField choice.value
            (Query.routerFilter, router.clientName)) ∧
      form.offersInstances = true ∧
      (∃ entry ∈ d.instances,
        ¬ ∃ choice ∈ form.instances,
          choice.label = entry.label ∧
          form.AsksFor instanceField choice.value
            (Query.instanceFilter, entry.rd)) := by
  have hRouters :
      Payload.routers reservedPayloads.1 =
        .ok reservedDirectory.wide.routers := by
    simp [Payload.routers, Payload.routersOf, Payload.router?,
      Payload.clientNameMember, Json.Members.get?,
      Json.Table.ofMembers, reservedPayloads, reservedDirectory,
      Directory.wide, Router.wide, Except.map]
  have hAccepted :
      Directory.ofPayloads reservedPayloads.1 reservedPayloads.2 =
        .ok reservedDirectory.wide := by
    rw [Directory.ofPayloads, hRouters]
    rfl
  have hOffers :
      ({ directory := reservedDirectory } : Form).offersInstances =
        true :=
    offersInstances_iff.mpr (by decide)
  refine ⟨reservedDirectory, hAccepted, ?_, hOffers, ?_⟩
  · refine ⟨_, List.mem_singleton_self _, ?_⟩
    rintro ⟨choice, _, _, hAsks⟩
    exact not_asksFor_of_forall_not_mem _ (by decide)
      Query.allRouters_not_mem_filters hAsks
  · refine ⟨⟨"default", some "blue"⟩, ?_, ?_⟩
    · simp [reservedDirectory, Directory.instances]
    · rintro ⟨choice, _, _, hAsks⟩
      exact not_asksFor_of_forall_not_mem _ (by decide)
        Query.defaultInstance_not_mem_filters hAsks

end Form

end LookingGlass
