import LookingGlass.Proofs.Query.Canonical

/-
  What a submission asks for, and whether that shows in the text
  of the link: the filter for a routing instance stands in the
  link exactly if the query has one.

  Main declarations:
    * `Mode.mem_names_iff`
    * `Submission.query_cases`
    * `Query.Carries`
    * `Query.carries_instance_iff`
-/

namespace LookingGlass

------------------------------------------------------------
-- Submissions
------------------------------------------------------------

theorem Mode.mem_names_iff
    {name : String} :
    name ∈ all.map Mode.name ↔ ∃ mode : Mode, mode.name = name := by
  constructor
  · intro hName
    obtain ⟨mode, _, hMode⟩ := List.mem_map.mp hName
    exact ⟨mode, hMode⟩
  · rintro ⟨mode, rfl⟩
    cases mode <;> decide

/- A submission is refused for its mode, or all of it counts. -/
theorem Submission.query_cases
    (submission : Submission)
    (offersInstances : Bool) :
    (∃ mode : Mode, mode.name = submission.mode ∧
      submission.query offersInstances =
        .ok (.make mode submission.value submission.router
          (if offersInstances then submission.rd else none))) ∨
    (∀ mode : Mode, mode.name ≠ submission.mode) ∧
      submission.query offersInstances =
        .error (.unknownMode submission.mode) := by
  rcases Query.modeOfName_cases submission.mode with
    ⟨hError, hNames⟩ | ⟨mode, hName, hOk⟩
  · right
    refine ⟨hNames, ?_⟩
    rw [query, Query.ofNames, hError]
    rfl
  · left
    refine ⟨mode, hName, ?_⟩
    rw [query, Query.ofNames, hOk]
    rfl

namespace Query

open Text (Fields)

------------------------------------------------------------
-- Filters in the Text of a Link
------------------------------------------------------------

/- Whether a filter of a name stands in the text of a link. -/
def Carries
    (link name : String) : Prop :=
  name.toList ++ ['='] <:+: link.toList

/- The end of a name stands in front of the only separator. -/
theorem suffix_of_infix
    {sep : Char}
    {name front back : List Char}
    (hName : sep ∉ name)
    (hFront : sep ∉ front)
    (hBack : sep ∉ back)
    (hInfix : name ++ [sep] <:+: front ++ sep :: back) :
    name <:+ front := by
  obtain ⟨before, after, hEq⟩ := hInfix
  rw [← List.append_assoc, List.append_assoc,
    List.singleton_append] at hEq
  have hBefore : sep ∉ before := by
    have hCount := congrArg (List.count sep) hEq
    simp only [List.count_append, List.count_cons_self,
      List.count_eq_zero.mpr hName, List.count_eq_zero.mpr hFront,
      List.count_eq_zero.mpr hBack] at hCount
    exact List.count_eq_zero.mp (by omega)
  have hCut := congrArg (Text.cut sep) hEq
  rw [Text.cut_append hFront,
    Text.cut_append (by simp [hBefore, hName])] at hCut
  exact ⟨before, congrArg Prod.fst hCut⟩

theorem toList_link_eq
    (q : Query) :
    q.link.toList =
      '#' :: '/' :: q.linkPath.toList ++
        if q.filters = [] then []
        else '?' :: Fields.write linkPart q.filters := by
  simp [link, linkBody, toList_linkFilters]

/- A filter for routers alone does not look like another one. -/
theorem not_carries_instance_of_none
    {q : Query}
    (hNone : q.rd = none) :
    ¬ Carries q.link instanceFilter := by
  have hPath : '=' ∉ q.linkPath.toList :=
    not_mem_linkPath (by decide) (by decide) q
  have hLead : '=' ∉ '#' :: '/' :: q.linkPath.toList := by
    simp [hPath]
  intro hCarries
  rw [Carries, toList_link_eq] at hCarries
  by_cases hRouter : q.router = allRouters
  · have hFilters : q.filters = [] := by
      simp [filters, hRouter, hNone]
    rw [hFilters, if_pos rfl, List.append_nil] at hCarries
    exact hLead (hCarries.subset (by simp))
  · have hFilters : q.filters = [(routerFilter, q.router)] := by
      simp [filters, hRouter, hNone]
    have hMem : (routerFilter, q.router) ∈ q.filters := by
      simp [hFilters]
    have hPlain := linkPart_name_of_mem_filters hMem
    dsimp only at hPlain
    have hText :
        ('#' :: '/' :: q.linkPath.toList ++
            '?' :: Fields.write linkPart q.filters) =
          ('#' :: '/' :: q.linkPath.toList ++
              '?' :: routerFilter.toList) ++
            '=' :: linkPart q.router.toList := by
      simp [hFilters, Fields.write, hPlain]
    rw [if_neg (List.ne_nil_of_mem hMem), hText] at hCarries
    have hName : '=' ∉ instanceFilter.toList := by
      decide
    have hFront :
        '=' ∉ '#' :: '/' :: q.linkPath.toList ++
          '?' :: routerFilter.toList := by
      simpa [routerFilter] using hLead
    have hBack : '=' ∉ linkPart q.router.toList :=
      not_mem_linkPart (by decide) (by decide) _
    have hSuffix := suffix_of_infix hName hFront hBack hCarries
    have hRouterName :
        routerFilter.toList <:+
          '#' :: '/' :: q.linkPath.toList ++
            '?' :: routerFilter.toList :=
      ⟨'#' :: '/' :: q.linkPath.toList ++ ['?'], by simp⟩
    have hShort : routerFilter.toList <:+ instanceFilter.toList :=
      List.suffix_of_suffix_length_le hRouterName hSuffix (by decide)
    revert hShort
    decide

theorem carries_instance_of_some
    {q : Query}
    {rd : String}
    (hSome : q.rd = some rd) :
    Carries q.link instanceFilter := by
  have hMem : (instanceFilter, rd) ∈ q.filters := by
    simp [filters, hSome]
  have hName := linkPart_name_of_mem_filters hMem
  dsimp only at hName
  rw [Carries, toList_link_eq, if_neg (List.ne_nil_of_mem hMem)]
  by_cases hRouter : q.router = allRouters
  · have hText :
        '#' :: '/' :: q.linkPath.toList ++
            '?' :: Fields.write linkPart q.filters =
          ('#' :: '/' :: q.linkPath.toList ++ ['?']) ++
            (instanceFilter.toList ++ ['=']) ++
            linkPart rd.toList := by
      simp [filters, hRouter, hSome, Fields.write, hName]
    rw [hText]
    exact List.infix_append _ _ _
  · have hText :
        '#' :: '/' :: q.linkPath.toList ++
            '?' :: Fields.write linkPart q.filters =
          ('#' :: '/' :: q.linkPath.toList ++
              '?' :: linkPart routerFilter.toList ++
                '=' :: linkPart q.router.toList ++ ['&']) ++
            (instanceFilter.toList ++ ['=']) ++
            linkPart rd.toList := by
      simp [filters, hRouter, hSome, Fields.write, hName,
        List.intercalate]
    rw [hText]
    exact List.infix_append _ _ _

/- The filter for an instance stands in the link if there is one. -/
theorem carries_instance_iff
    (q : Query) :
    Carries q.link instanceFilter ↔ q.rd ≠ none := by
  cases hInstance : q.rd with
  | none =>
      simp [not_carries_instance_of_none hInstance]
  | some rd =>
      simp [carries_instance_of_some hInstance]

end Query

end LookingGlass
