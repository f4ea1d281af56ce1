import LookingGlass.Proofs.Query.Link
import LookingGlass.Proofs.Text.Spelling

/-
  The canonical form of links: a small grammar, whose texts are
  the links of queries and no others.

  Main declarations:
    * `Query.modeOfName_cases`
    * `Query.IsCanonical`
    * `Query.isCanonical_iff_exists_link`
-/

namespace LookingGlass

namespace Query

open Text (Fields)

------------------------------------------------------------
-- Modes
------------------------------------------------------------

/- A name is that of a mode, or there is an error that tells it. -/
theorem modeOfName_cases
    (name : String) :
    (modeOfName name = .error (.unknownMode name) ∧
        ∀ mode : Mode, mode.name ≠ name) ∨
      ∃ mode : Mode, mode.name = name ∧
        modeOfName name = .ok mode := by
  by_cases hName : ∃ mode : Mode, mode.name = name
  · rcases hName with ⟨mode, rfl⟩
    exact Or.inr ⟨mode, rfl, modeOfName_name mode⟩
  · have hNone : Mode.ofName? name = none := by
      apply List.find?_eq_none.mpr
      intro mode _ hMode
      exact hName ⟨mode, by simpa using hMode⟩
    refine Or.inl ⟨?_, fun mode hMode => hName ⟨mode, hMode⟩⟩
    rw [modeOfName, hNone]

------------------------------------------------------------
-- The Grammar of Links
------------------------------------------------------------

/-
  Whether a text can be a part of a canonical link: plain
  characters and escapes of other bytes in capitals, which are
  UTF-8 together.
-/
def IsLinkText
    (cs : List Char) : Prop :=
  ∃ ds, Text.Percent.Spells isPlain cs (Text.Utf8.encode ds)

/- The paths of canonical links. -/
inductive IsCanonicalPath :
    List Char → Prop
  | none : IsCanonicalPath []
  | value {mode : Mode} {cs : List Char}
      (hText : IsLinkText cs)
      (hSome : cs ≠ []) :
      IsCanonicalPath (mode.name.toList ++ '/' :: cs)

/- Whether a filter can have a value; one word is taken. -/
def IsFilterText
    (taken : String)
    (cs : List Char) : Prop :=
  IsLinkText cs ∧ cs ≠ taken.toList

/- The filters of canonical links. -/
inductive IsCanonicalFilters :
    List Char → Prop
  | none : IsCanonicalFilters []
  | router {cs : List Char}
      (hRouter : IsFilterText "all" cs) :
      IsCanonicalFilters ("?Router=".toList ++ cs)
  | rd {ds : List Char}
      (hInstance : IsFilterText "default" ds) :
      IsCanonicalFilters ("?route_distinguisher=".toList ++ ds)
  | both {cs ds : List Char}
      (hRouter : IsFilterText "all" cs)
      (hInstance : IsFilterText "default" ds) :
      IsCanonicalFilters
        ("?Router=".toList ++ cs ++
          "&route_distinguisher=".toList ++ ds)

/- Whether a link is in canonical form. -/
def IsCanonical
    (link : String) : Prop :=
  ∃ path filters, IsCanonicalPath path ∧
    IsCanonicalFilters filters ∧
    link.toList = "#/".toList ++ path ++ filters

------------------------------------------------------------
-- Texts of Links
------------------------------------------------------------

theorem toNat_lt_of_isPlain
    {c : Char}
    (hPlain : isPlain c = true) :
    c.toNat < 0x80 :=
  Text.Percent.toNat_lt_of_keeping (by decide) hPlain

theorem isLinkText_iff
    {cs : List Char} :
    IsLinkText cs ↔ ∃ ds, cs = linkPart ds := by
  unfold IsLinkText
  simp only [Text.Percent.spells_encode_iff
    (fun _ => toNat_lt_of_isPlain)]

theorem linkPart_injective
    {cs ds : List Char}
    (hParts : linkPart cs = linkPart ds) :
    cs = ds := by
  have hRead := congrArg Text.Percent.decodeLossy hParts
  rwa [Text.Percent.decodeLossy_encode (by decide),
    Text.Percent.decodeLossy_encode (by decide)] at hRead

/- A filter has any value but the one that stands for no filter. -/
theorem isFilterText_iff
    {taken : String}
    (hTaken : linkPart taken.toList = taken.toList)
    {cs : List Char} :
    IsFilterText taken cs ↔
      ∃ s : String, s ≠ taken ∧ cs = linkPart s.toList := by
  rw [IsFilterText, isLinkText_iff]
  constructor
  · rintro ⟨⟨ds, rfl⟩, hNot⟩
    refine ⟨String.ofList ds, ?_, by simp⟩
    rintro rfl
    exact hNot (by simpa using hTaken)
  · rintro ⟨s, hNot, rfl⟩
    refine ⟨⟨_, rfl⟩, fun hEq => hNot ?_⟩
    rw [← hTaken] at hEq
    exact String.toList_inj.mp (linkPart_injective hEq)

------------------------------------------------------------
-- Links of Queries
------------------------------------------------------------

/- What the filters of a link look like, one by one. -/
theorem toList_linkFilters_eq
    (q : Query) :
    q.linkFilters.toList =
      match (if q.router = allRouters then none else some q.router),
        q.rd with
      | none, none => []
      | some router, none =>
        "?Router=".toList ++ linkPart router.toList
      | none, some rd =>
        "?route_distinguisher=".toList ++ linkPart rd.toList
      | some router, some rd =>
        "?Router=".toList ++ linkPart router.toList ++
          "&route_distinguisher=".toList ++ linkPart rd.toList := by
  have hRouterName :
      linkPart routerFilter.toList = "Router".toList := by decide
  have hInstanceName :
      linkPart instanceFilter.toList =
        "route_distinguisher".toList := by decide
  rw [toList_linkFilters]
  by_cases hRouter : q.router = allRouters <;>
    cases hInstance : q.rd <;>
    simp [filters, Fields.write, hRouter, hInstance, hRouterName,
      hInstanceName]

theorem isCanonicalPath_link
    (q : Query) :
    IsCanonicalPath q.linkPath.toList := by
  by_cases hValue : q.value = ""
  · have hNone : q.linkPath.toList = [] := by
      simp [linkPath, hValue]
    rw [hNone]
    exact .none
  · have hPath :
        q.linkPath.toList =
          q.mode.name.toList ++ '/' :: linkPart q.value.toList := by
      simp [linkPath, hValue]
    rw [hPath]
    refine .value (isLinkText_iff.mpr ⟨_, rfl⟩) fun hNone => hValue ?_
    have hEmpty : q.value.toList = [] :=
      linkPart_injective (hNone.trans rfl)
    exact String.toList_inj.mp hEmpty

theorem isCanonicalFilters_link
    (q : Query) :
    IsCanonicalFilters q.linkFilters.toList := by
  have hRouter (hSome : q.router ≠ allRouters) :
      IsFilterText "all" (linkPart q.router.toList) :=
    (isFilterText_iff (by decide)).mpr ⟨q.router, hSome, rfl⟩
  have hInstance {rd : String} (hSome : q.rd = some rd) :
      IsFilterText "default" (linkPart rd.toList) := by
    refine (isFilterText_iff (by decide)).mpr ⟨rd, ?_, rfl⟩
    rintro rfl
    exact q.rd_ne_default hSome
  rw [toList_linkFilters_eq]
  by_cases hAll : q.router = allRouters
  · rw [if_pos hAll]
    cases hRd : q.rd with
    | none => exact .none
    | some rd => exact .rd (hInstance hRd)
  · rw [if_neg hAll]
    cases hRd : q.rd with
    | none => exact .router (hRouter hAll)
    | some rd => exact .both (hRouter hAll) (hInstance hRd)

/- Each canonical path is one of a mode and a value. -/
theorem exists_linkPath
    {path : List Char}
    (hPath : IsCanonicalPath path) :
    ∃ mode value, ∀ router rd,
      (make mode value router rd).linkPath.toList = path := by
  cases hPath with
  | none =>
      refine ⟨.fallback, "", fun router rd => ?_⟩
      simp [linkPath]
  | @value mode cs hText hSome =>
      rcases isLinkText_iff.mp hText with ⟨ds, rfl⟩
      have hValue : String.ofList ds ≠ "" := by
        intro hEmpty
        have hNone : ds = [] := by simpa using hEmpty
        exact hSome (by rw [hNone]; rfl)
      refine ⟨mode, String.ofList ds, fun router rd => ?_⟩
      simp [linkPath, hValue]

/- Canonical filters are those of a router and an instance. -/
theorem exists_linkFilters
    {filters : List Char}
    (hFilters : IsCanonicalFilters filters) :
    ∃ router rd, ∀ mode value,
      (make mode value router rd).linkFilters.toList = filters := by
  have hAll : linkPart "all".toList = "all".toList := by decide
  have hDefault : linkPart "default".toList = "default".toList := by
    decide
  cases hFilters with
  | none =>
      refine ⟨allRouters, none, fun mode value => ?_⟩
      simp [toList_linkFilters_eq, rd_make]
  | router hRouter =>
      rcases (isFilterText_iff hAll).mp hRouter with ⟨r, hr, rfl⟩
      refine ⟨r, none, fun mode value => ?_⟩
      simp [toList_linkFilters_eq, rd_make, allRouters, hr]
  | rd hInstance =>
      rcases (isFilterText_iff hDefault).mp hInstance with
        ⟨d, hd, rfl⟩
      refine ⟨allRouters, some d, fun mode value => ?_⟩
      simp [toList_linkFilters_eq, rd_make, defaultInstance, hd]
  | both hRouter hInstance =>
      rcases (isFilterText_iff hAll).mp hRouter with ⟨r, hr, rfl⟩
      rcases (isFilterText_iff hDefault).mp hInstance with
        ⟨d, hd, rfl⟩
      refine ⟨r, some d, fun mode value => ?_⟩
      simp [toList_linkFilters_eq, rd_make, allRouters,
        defaultInstance, hr, hd]

/- The canonical links are the links of queries. -/
theorem isCanonical_iff_exists_link
    (link : String) :
    IsCanonical link ↔ ∃ q : Query, q.link = link := by
  constructor
  · rintro ⟨path, filters, hPath, hFilters, hLink⟩
    rcases exists_linkPath hPath with ⟨mode, value, hPathEq⟩
    rcases exists_linkFilters hFilters with ⟨router, rd, hFiltersEq⟩
    refine ⟨make mode value router rd, String.toList_inj.mp ?_⟩
    rw [hLink, Query.link, linkBody, String.toList_append,
      String.toList_append, hPathEq, hFiltersEq, List.append_assoc]
  · rintro ⟨q, rfl⟩
    refine ⟨q.linkPath.toList, q.linkFilters.toList,
      isCanonicalPath_link q, isCanonicalFilters_link q, ?_⟩
    rw [Query.link, linkBody, String.toList_append,
      String.toList_append, List.append_assoc]

end Query

end LookingGlass
