import LookingGlass.Proofs.Page.Lookup
import LookingGlass.Proofs.Web.Route

/-
  What the lookup page shows: the address of a query leads to
  the page of this very query, and a link is looked up as the
  query that it is read as, but for repeated parameters.

  Main declarations:
    * `Application.lookup_round_trip`
    * `ofPath_lookupTail`
    * `lookup_agrees_with_link`
-/

namespace LookingGlass

namespace Web

open Text (Fields Octets)

------------------------------------------------------------
-- Addresses of Queries
------------------------------------------------------------

namespace Application

variable (app : Application)

/- With names of characters, the page of a query can be written. -/
theorem present_eq
    (q : Query) :
    app.present q = { status := 200, body := (app.form q).page } := by
  rw [present, page, Page.page?_eq]
  rfl

theorem body_present
    (q : Query) :
    (app.present q).body = (app.form q).page := by
  rw [present_eq]

/- A page shows one query only. -/
theorem present_eq_iff
    (p q : Query) :
    app.present p = app.present q ↔ p = q := by
  constructor
  · intro hAnswer
    have hPage := congrArg Answer.body hAnswer
    rw [body_present, body_present] at hPage
    have hDirectory :
        (app.form p).directory = (app.form q).directory := by
      simp only [form]
    exact Form.current_eq_of_page_eq hDirectory hPage
  · exact fun hEq => congrArg app.present hEq

end Application

------------------------------------------------------------
-- Links by Hand
------------------------------------------------------------

/- The mode of a link, as it is written. -/
def firstSegment
    (rest : String) : List Char :=
  (Text.cut '/' (Text.cut '?' rest.toList).1).1

/- The value of a link, if there is one. -/
def linkValue
    (rest : String) : Option (List Char) :=
  (Text.cut '/' (Text.cut '?' rest.toList).1).2.map
    Text.Percent.decodeLossy

/- The parameters of a link. -/
def linkParameters
    (rest : String) : Fields :=
  Fields.read Text.Percent.decodeLossy (lookupQuery rest)

/- A mode without escapes is the same before the path is decoded. -/
theorem ofPath_lookupTail
    {rest : String}
    (hSegment : ¬ Text.Percent.HoldsEscape (firstSegment rest))
    (parameter : String → Option String) :
    Query.ofPath (lookupTail rest) parameter =
      Query.ofParts (firstSegment rest) (linkValue rest)
        parameter := by
  unfold lookupTail linkValue
  unfold firstSegment at *
  rcases Text.cut_cases '/' (Text.cut '?' rest.toList).1 with
    ⟨hSlash, hCut⟩ | ⟨before, after, hBefore, hPath, hCut⟩
  · rw [hCut] at hSegment ⊢
    rw [Query.ofPath,
      Text.Percent.decodeLossy_of_not_holdsEscape hSegment, hCut]
    rfl
  · rw [hCut] at hSegment ⊢
    rw [Query.ofPath, hPath,
      Text.Percent.decodeLossy_append_separator (by decide)
        hSegment, Text.cut_append hBefore]
    rfl

theorem ofLink_rest
    (rest : String) :
    Query.ofLink ("#/" ++ rest) =
      Query.ofParts (firstSegment rest) (linkValue rest)
        (linkParameters rest).last? := by
  have hBody :
      Text.dropLead '/' (Text.dropLead '#' ("#/" ++ rest).toList) =
        rest.toList := by
    simp
  rw [Query.ofLink, hBody]
  rfl

theorem isText_lookupQuery
    {rest : String}
    (hText : Text.Percent.IsText rest.toList) :
    Text.Percent.IsText (lookupQuery rest) := by
  unfold lookupQuery
  rcases Text.cut_cases '?' rest.toList with
    ⟨_, hCut⟩ | ⟨before, after, _, hRest, hCut⟩
  · rw [hCut]
    exact ⟨[], rfl⟩
  · rw [hRest, Text.Percent.isText_append_separator (by decide)]
      at hText
    rw [hCut]
    exact hText.2

/- A server reads the parameters of a link alike. -/
theorem parameters_lookup
    {rest : String}
    (hText : Text.Percent.IsText rest.toList) :
    Request.parameters
        { target := Octets.ofString ("/lookup/" ++ rest) } =
      linkParameters rest := by
  rw [Request.parameters, Request.queryString_lookup rfl]
  exact Fields.read_decodeKeeping (isText_lookupQuery hText)

namespace Application

variable (app : Application)

/- A link is looked up with the first of its parameters. -/
theorem answer_link
    {rest : String}
    (hAsked : Endpoint.IsAsked (lookupTail rest))
    (hSegment : ¬ Text.Percent.HoldsEscape (firstSegment rest)) :
    app.answer { target := "/lookup/" ++ rest } =
      app.answerOf
        (Query.ofParts (firstSegment rest) (linkValue rest)
          (Request.parameters
            { target := "/lookup/" ++ rest }).first?) := by
  rw [Request.parameters, Request.queryString_lookup rfl,
    app.answer_lookup hAsked, ofPath_lookupTail hSegment]

end Application

/-
  A link that is looked up is read as a query of the same mode
  and value, and of the same router and routing instance unless
  their parameters are repeated: then the page takes the first
  one and the link the last one. A link that is refused is not
  read either.
-/
theorem lookup_agrees_with_link
    (app : Application)
    {rest : String}
    (hText : Text.Percent.IsText rest.toList)
    (hSegment : ¬ Text.Percent.HoldsEscape (firstSegment rest)) :
    let request : Request := { target := "/lookup/" ++ rest }
    let first := request.parameters.first?
    let last := request.parameters.last?
    ((app.answer request).status = 200 →
      ∃ shown linked,
        (∀ q, app.answer request = app.present q ↔ q = shown) ∧
        Query.ofLink ("#/" ++ rest) = .ok linked ∧
        linked.mode = shown.mode ∧
        linked.value = shown.value ∧
        (linked.router = shown.router ↔
          last Query.routerFilter = first Query.routerFilter) ∧
        (linked.rd = shown.rd ↔
          last Query.instanceFilter = first Query.instanceFilter)) ∧
    ((app.answer request).status = 400 →
      ∃ e, Query.ofLink ("#/" ++ rest) = .error e) := by
  intro request first last
  have hNone (name : String) : last name = none ↔ first name = none :=
    (Fields.first?_eq_none_iff _ name).symm
  have hLink :
      Query.ofLink ("#/" ++ rest) =
        Query.ofParts (firstSegment rest) (linkValue rest) last := by
    simp only [last, request, parameters_lookup hText]
    exact ofLink_rest rest
  by_cases hAsked : Endpoint.IsAsked (lookupTail rest)
  case neg =>
    have hStatus := app.status_of_not_isAsked hAsked
    constructor <;> intro hOther <;> simp [request, hOther] at hStatus
  case pos =>
    rcases Query.ofParts_cases (firstSegment rest)
        (linkValue rest) with ⟨e, hError⟩ | ⟨m, v, hOk⟩
    · have hAnswer := app.answer_link hAsked hSegment
      rw [hError, Application.answerOf] at hAnswer
      constructor
      · intro hStatus
        rw [hAnswer] at hStatus
        cases hStatus
      · exact fun _ => ⟨e, hLink.trans (hError last)⟩
    · have hAnswer := app.answer_link hAsked hSegment
      rw [hOk, Application.answerOf] at hAnswer
      constructor
      · intro _
        refine
          ⟨Query.make m v
              ((first Query.routerFilter).getD allRouters)
              (first Query.instanceFilter),
            _, fun q => ?_, hLink.trans (hOk last), ?_⟩
        · rw [hAnswer, app.present_eq_iff]
          exact eq_comm
        · simp only [Query.mode_make, Query.value_make,
            Query.router_make, Query.router_eq_iff (hNone _),
            Query.rd_make_eq_iff (hNone _), and_self]
      · intro hStatus
        rw [hAnswer, app.present_eq] at hStatus
        cases hStatus

/- A link that asks for two routers. -/
def twoRouters : String := "Exact/x?Router=a&Router=b"

theorem isText_twoRouters :
    Text.Percent.IsText twoRouters.toList :=
  Text.Percent.isText_of_not_holdsEscape
    (Text.Percent.not_holdsEscape_of_not_mem (by decide))

theorem not_holdsEscape_twoRouters :
    ¬ Text.Percent.HoldsEscape (firstSegment twoRouters) :=
  Text.Percent.not_holdsEscape_of_not_mem (by decide)

theorem answer_twoRouters :
    ({} : Application).answer { target := "/lookup/" ++ twoRouters } =
      ({} : Application).present (Query.make .exact "x" "a" none) := by
  have hAsked : Endpoint.IsAsked (lookupTail twoRouters) := by
    decide +kernel
  have hQuery :
      Query.ofPath (lookupTail twoRouters)
          (Fields.read Text.Percent.decodeKeeping
            (lookupQuery twoRouters)).first? =
        .ok (Query.make .exact "x" "a" none) := by
    rfl
  rw [Application.answer_lookup _ hAsked, hQuery]
  rfl

/- The page shows one of the two, and the link means the other. -/
theorem twoRouters_differ :
    Text.Percent.IsText twoRouters.toList ∧
      ¬ Text.Percent.HoldsEscape (firstSegment twoRouters) ∧
      ({} : Application).answer { target := "/lookup/" ++ twoRouters } =
        ({} : Application).present (Query.make .exact "x" "a" none) ∧
      Query.ofLink ("#/" ++ twoRouters) =
        .ok (Query.make .exact "x" "b" none) ∧
      Query.make .exact "x" "b" none ≠
        Query.make .exact "x" "a" none :=
  ⟨isText_twoRouters, not_holdsEscape_twoRouters,
    answer_twoRouters, by rfl, by decide⟩

theorem lookup_agrees_with_link_twoRouters :
    Text.Percent.IsText twoRouters.toList ∧
      ¬ Text.Percent.HoldsEscape (firstSegment twoRouters) ∧
      ∃ shown linked,
        ({} : Application).answer
            { target := "/lookup/" ++ twoRouters } =
          ({} : Application).present shown ∧
        Query.ofLink ("#/" ++ twoRouters) = .ok linked ∧
        linked.mode = shown.mode ∧
        linked.value = shown.value ∧
        linked.router ≠ shown.router ∧
        linked.rd = shown.rd := by
  have hStatus :
      (({} : Application).answer
        { target := "/lookup/" ++ twoRouters }).status = 200 := by
    rw [answer_twoRouters, Application.present_eq]
  have hAgrees :=
    lookup_agrees_with_link {} isText_twoRouters
      not_holdsEscape_twoRouters
  rcases hAgrees.1 hStatus with
    ⟨shown, linked, hShown, hLink, hMode, hValue, hRouter,
      hInstance⟩
  refine ⟨isText_twoRouters, not_holdsEscape_twoRouters, shown,
    linked, (hShown shown).mpr rfl, hLink, hMode, hValue, ?_, ?_⟩
  · exact fun hEq => absurd (hRouter.mp hEq) (by decide +kernel)
  · exact hInstance.mpr (by decide +kernel)

end Web

end LookingGlass
