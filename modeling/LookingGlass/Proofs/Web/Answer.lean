import LookingGlass.Directory.Payload
import LookingGlass.Proofs.Page.Writable
import LookingGlass.Proofs.Settings.History
import LookingGlass.Proofs.Web.Refusal

/-
  What the web application answers to a request of any bytes:
  with a page, a redirect or a reason why there is neither.
  There are three faults that keep it from that: the page holds
  a text that cannot be written, the parameters are no text, or
  the query string breaks the line that leads the client on.

  Main declarations:
    * `Endpoint.ofPath?_cases`
    * `Location.isSendable_ofPath_iff`
    * `Request.AsksForPage`, `Request.IsMoved` and
      `Request.BreaksLine`
    * `Request.Fails`
    * `Request.Gets` and `Application.handle_gets`
    * `Application.answers_every_request`
-/

namespace LookingGlass.Web

open Settings (Holder)
open Text (Octets Wide Wording)

------------------------------------------------------------
-- Endpoints
------------------------------------------------------------

namespace Endpoint

theorem eq_append_of_rest?
    {lead path tail : List Char}
    (hTail : rest? lead path = some tail) :
    path = lead ++ tail ∧ isRest tail = true := by
  unfold rest? at hTail
  split at hTail
  case isFalse => cases hTail
  case isTrue hBoth =>
    obtain ⟨hLead, hRest⟩ := hBoth
    rw [← Option.some.inj hTail]
    refine ⟨?_, hRest⟩
    obtain ⟨others, rfl⟩ := List.isPrefixOf_iff_prefix.mp hLead
    rw [List.drop_left]

/-
  What a path leads to. Only what is looked up has a part of the
  path that counts.
-/
theorem ofPath?_cases
    {path : List Char}
    {endpoint : Endpoint}
    (hEndpoint : ofPath? path = some endpoint) :
    (path = "/".toList ∧ endpoint = .index) ∨
      ((path = "/lookup".toList ∨ path = "/lookup/".toList) ∧
        endpoint = .lookup []) ∨
      (path = "/search".toList ∧ endpoint = .search) ∨
      (∃ tail, path = lookupLead ++ tail ∧ isRest tail = true ∧
        endpoint = .lookup tail) ∨
      ∃ tail, endpoint = .file tail := by
  unfold ofPath? at hEndpoint
  split at hEndpoint
  case isTrue hIndex =>
    exact .inl ⟨hIndex, (Option.some.inj hEndpoint).symm⟩
  case isFalse =>
    right
    split at hEndpoint
    case isTrue hLookup =>
      exact .inl ⟨.inl hLookup, (Option.some.inj hEndpoint).symm⟩
    case isFalse =>
      split at hEndpoint
      case isTrue hLookup =>
        exact .inl ⟨.inr hLookup, (Option.some.inj hEndpoint).symm⟩
      case isFalse =>
        right
        split at hEndpoint
        case isTrue hSearch =>
          exact .inl ⟨hSearch, (Option.some.inj hEndpoint).symm⟩
        case isFalse =>
          right
          split at hEndpoint
          case h_1 tail hTail =>
            obtain ⟨hPath, hRest⟩ := eq_append_of_rest? hTail
            exact .inl ⟨tail, hPath, hRest,
              (Option.some.inj hEndpoint).symm⟩
          case h_2 =>
            obtain ⟨tail, _, hFile⟩ :=
              Option.map_eq_some_iff.mp hEndpoint
            exact .inr ⟨tail, hFile.symm⟩

end Endpoint

theorem of_route_found
    {method : String}
    {path : List Char}
    {endpoint : Endpoint}
    (hFound : route method path = .found endpoint) :
    Endpoint.ofPath? path = some endpoint ∧
      endpoint.allows method = true := by
  simp only [route] at hFound
  split at hFound
  case h_1 found hHere =>
    cases hFound
    exact Option.filter_eq_some_iff.mp hHere
  case h_2 =>
    split at hFound
    case isTrue => cases hFound
    case isFalse =>
      split at hFound
      case isTrue => cases hFound
      case isFalse =>
        split at hFound
        case isTrue => cases hFound
        case isFalse => cases hFound

------------------------------------------------------------
-- Locations
------------------------------------------------------------

/- Whether a character ends a line. -/
def IsLineEnd
    (c : Char) : Prop :=
  c = '\n' ∨ c = '\r'

instance
    (c : Char) :
    Decidable (IsLineEnd c) :=
  inferInstanceAs (Decidable (_ ∨ _))

namespace Location

/- No line ends in what is written of a path. -/
theorem not_isLineEnd_of_mem_encode
    {path : List Char}
    {c : Char}
    (hc : c ∈ Text.Percent.encode
      (Text.Percent.keeping pathMarks) path) :
    ¬ IsLineEnd c := by
  rintro (rfl | rfl)
  · exact Text.Percent.not_mem_encode (by decide) (by decide) path hc
  · exact Text.Percent.not_mem_encode (by decide) (by decide) path hc

theorem not_isLineEnd_of_mem_host
    {c : Char}
    (hc : c ∈ host.toList) :
    ¬ IsLineEnd c := by
  rintro (rfl | rfl)
  · exact absurd hc (by decide)
  · exact absurd hc (by decide)

/- A path can be sent unless its query string breaks the line. -/
theorem isSendable_ofPath_iff
    {path queryString : List Char} :
    isSendable (ofPath path queryString) = true ↔
      ∀ c ∈ queryString, ¬ IsLineEnd c := by
  have hMark : ¬ IsLineEnd '?' := by decide
  have hQuery :
      (∀ c ∈ (if queryString.isEmpty then []
          else '?' :: queryString), ¬ IsLineEnd c) ↔
        ∀ c ∈ queryString, ¬ IsLineEnd c := by
    cases queryString with
    | nil => rfl
    | cons d rest =>
        simp only [List.isEmpty_cons, Bool.false_eq_true, if_false]
        rw [List.forall_mem_cons]
        exact and_iff_right hMark
  rw [← hQuery]
  simp only [isSendable, ofPath, String.toList_append,
    String.toList_ofList, Bool.not_eq_true', List.any_eq_false,
    List.mem_append, Bool.or_eq_true, decide_eq_true_eq]
  constructor
  · intro hAll c hc
    exact hAll c (Or.inr (Or.inr hc))
  · rintro hAll c (hc | hc | hc)
    · exact not_isLineEnd_of_mem_host hc
    · exact not_isLineEnd_of_mem_encode hc
    · exact hAll c hc

end Location

------------------------------------------------------------
-- Requests
------------------------------------------------------------

namespace Request

variable {T : Type} [Wording T] {d : Directory T}
variable {request : Request}

/- Whether a request is led on to another path. -/
def IsMoved
    (request : Request) : Prop :=
  ∃ path, route request.verb request.path = .moved path

/- Whether the query string of a request breaks a line. -/
def BreaksLine
    (request : Request) : Prop :=
  ∃ c ∈ request.queryString, IsLineEnd c

/-
  Whether a request asks for the lookup page: at the root, or
  with a path that names a mode there is, or none.
-/
inductive AsksForPage
    (request : Request) : Prop
  | root
      (hFetches : request.Fetches)
      (hPath : request.path = "/".toList)
  | nothing
      (hLooksUp : request.LooksUp [])
      (hQuery : request.HasTextQuery)
  | known
      {path : List Char}
      (hLooksUp : request.LooksUp path)
      (hPath : path ≠ [])
      (hQuery : request.HasTextQuery)
      (hKnown : pathMode path ∈ Mode.all.map Mode.name)

/-
  Whether a request to an application with a directory fails: it
  asks for a page that cannot be written, looks something up
  with parameters that are no text, or is led on with a line
  break in its query string.
-/
inductive Fails
    (request : Request)
    (d : Directory T) : Prop
  | unwritable
      (hAsks : request.AsksForPage)
      (hHalf : d.OffersHalf)
  | unreadable
      {path : List Char}
      (hLooksUp : request.LooksUp path)
      (hQuery : ¬ request.HasTextQuery)
  | broken
      (hMoved : request.IsMoved)
      (hBreaks : request.BreaksLine)

theorem AsksForPage.route_cases
    (hAsks : request.AsksForPage) :
    route request.verb request.path = .found .index ∨
      ∃ path,
        route request.verb request.path = .found (.lookup path) ∧
        (path = [] ∨ pathMode path ∈ Mode.all.map Mode.name) := by
  cases hAsks with
  | root hFetches hPath =>
      left
      rw [hPath]
      rcases hFetches with hVerb | hVerb <;> rw [hVerb] <;> rfl
  | nothing hLooksUp _ =>
      exact .inr ⟨[], hLooksUp.route_eq, .inl rfl⟩
  | @known path hLooksUp _ _ hKnown =>
      exact .inr ⟨path, hLooksUp.route_eq, .inr hKnown⟩

theorem AsksForPage.fetches
    (hAsks : request.AsksForPage) :
    request.Fetches := by
  cases hAsks with
  | root hFetches _ => exact hFetches
  | nothing hLooksUp _ => exact hLooksUp.fetches
  | known hLooksUp _ _ _ => exact hLooksUp.fetches

/- Only what is fetched or led on can fail. -/
theorem Fails.cases_route
    (hFails : request.Fails d) :
    request.Fetches ∧
        (route request.verb request.path = .found .index ∨
          ∃ path,
            route request.verb request.path =
              .found (.lookup path)) ∨
      request.IsMoved := by
  cases hFails with
  | unwritable hAsks _ =>
      refine .inl ⟨hAsks.fetches, ?_⟩
      rcases hAsks.route_cases with hRoot | ⟨path, hPath, _⟩
      · exact .inl hRoot
      · exact .inr ⟨path, hPath⟩
  | unreadable hLooksUp _ =>
      exact .inl ⟨hLooksUp.fetches, .inr ⟨_, hLooksUp.route_eq⟩⟩
  | broken hMoved _ => exact .inr hMoved

/-
  What can become of a request: it is served, refused for the
  mode that it names, or fails.
-/
inductive Gets
    (request : Request)
    (d : Directory T) :
    Except Fault Answer → Prop
  | served
      {answer : Answer}
      (hWhole : ¬ request.Fails d)
      (hStatus : answer.status ∈ [200, 302, 308, 404, 405, 413]) :
      Gets request d (.ok answer)
  | refused
      {mode : String}
      (hWhole : ¬ request.Fails d)
      (hNames : request.NamesMode mode)
      (hUnknown : mode ∉ Mode.all.map Mode.name) :
      Gets request d (.ok (Application.refusal mode))
  | failed
      {fault : Fault}
      (hFails : request.Fails d) :
      Gets request d (.error fault)

end Request

------------------------------------------------------------
-- Answers
------------------------------------------------------------

namespace Application

variable {T : Type} [Wording T] (app : Application T)
variable {request : Request}

/- A page can be written unless a text with a half is on offer. -/
theorem page_cases
    (q : Query) :
    (app.directory.OffersHalf ∧
      app.page q = .error .unwritablePage) ∨
    (¬ app.directory.OffersHalf ∧
      ∃ body, app.page q = .ok { status := 200, body }) := by
  have hNone :
      (app.form q).page? = none ↔ app.directory.OffersHalf :=
    Form.page?_eq_none_iff
  rw [page, ← hNone]
  cases (app.form q).page? with
  | none => exact .inl ⟨rfl, rfl⟩
  | some body => exact .inr ⟨Option.some_ne_none body, body, rfl⟩

/- Who asks for the page gets it, if it can be written. -/
theorem gets_page
    (hAsks : request.AsksForPage)
    (hQuery : ∀ path, request.LooksUp path → request.HasTextQuery)
    (hStays : ¬ request.IsMoved)
    (q : Query) :
    request.Gets app.directory (app.page q) := by
  rcases app.page_cases q with ⟨hHalf, hPage⟩ | ⟨hWhole, body, hPage⟩
  · rw [hPage]
    exact .failed (.unwritable hAsks hHalf)
  · rw [hPage]
    apply Request.Gets.served
    · intro hFails
      cases hFails with
      | unwritable _ hHalf => exact hWhole hHalf
      | unreadable hLooksUp hText => exact hText (hQuery _ hLooksUp)
      | broken hMoved _ => exact hStays hMoved
    · simp

theorem gets_lookup
    {path : List Char}
    (hLooksUp : request.LooksUp path)
    (hStays : ¬ request.IsMoved) :
    request.Gets app.directory (app.lookup path request) := by
  by_cases hQuery : request.HasTextQuery
  · by_cases hPath : path = []
    · subst hPath
      rcases app.lookup_nil hQuery with ⟨q, hShown⟩
      rw [hShown]
      exact app.gets_page (.nothing hLooksUp hQuery)
        (fun _ _ => hQuery) hStays q
    · rcases app.lookup_cases (hLooksUp.isRest hPath) hQuery with
        ⟨hKnown, q, hShown⟩ | ⟨hUnknown, hRefused⟩
      · rw [hShown]
        exact app.gets_page (.known hLooksUp hPath hQuery hKnown)
          (fun _ _ => hQuery) hStays q
      · rw [hRefused]
        refine .refused ?_ (.looked hLooksUp hPath hQuery) hUnknown
        intro hFails
        cases hFails with
        | unwritable hAsks _ =>
            have hRoute := hLooksUp.route_eq
            rcases hAsks.route_cases with hRoot | ⟨other, hOther, hKnown⟩
            · rw [hRoot] at hRoute
              cases hRoute
            · rw [hOther] at hRoute
              cases hRoute
              exact hUnknown (hKnown.resolve_left hPath)
        | unreadable _ hText => exact hText hQuery
        | broken hMoved _ => exact hStays hMoved
  · rw [app.lookup_of_not_hasTextQuery hQuery]
    exact .failed (.unreadable hLooksUp hQuery)

/- What is not moved and fetches nothing does not fail. -/
theorem not_fails_of_not_fetches
    {d : Directory T}
    (hFetches : ¬ request.Fetches)
    (hStays : ¬ request.IsMoved) :
    ¬ request.Fails d := by
  intro hFails
  rcases hFails.cases_route with ⟨hFetched, _⟩ | hMoved
  · exact hFetches hFetched
  · exact hStays hMoved

/- An endpoint serves a request, refuses its mode, or fails. -/
theorem gets_serve
    (hSize : request.bodySize ≤ greatestForm)
    {endpoint : Endpoint}
    (hFound : route request.verb request.path = .found endpoint)
    (hServed : request.verb ≠ "OPTIONS")
    (hStays : ¬ request.IsMoved) :
    request.Gets app.directory (app.serve request endpoint) := by
  obtain ⟨hPath, hAllows⟩ := of_route_found hFound
  rw [Endpoint.allows, List.contains_iff_mem] at hAllows
  rcases Endpoint.ofPath?_cases hPath with
    ⟨hRoot, rfl⟩ | ⟨hNothing, rfl⟩ | ⟨hSearch, rfl⟩ |
      ⟨tail, hTail, hRest, rfl⟩ | ⟨tail, rfl⟩
  · simp only [Endpoint.methods, List.mem_cons, hServed,
      List.not_mem_nil, or_false] at hAllows
    refine app.gets_page (.root hAllows hRoot) ?_ hStays .empty
    intro path hLooksUp
    have hRoute := hLooksUp.route_eq
    rw [hFound] at hRoute
    cases hRoute
  · simp only [Endpoint.methods, List.mem_cons, hServed,
      List.not_mem_nil, or_false] at hAllows
    exact app.gets_lookup (.nothing hAllows hNothing) hStays
  · simp only [Endpoint.methods, List.mem_cons, hServed,
      List.not_mem_nil, or_false] at hAllows
    have hFetches : ¬ request.Fetches := by
      rw [Request.Fetches, hAllows]
      decide
    have hWhole :=
      not_fails_of_not_fetches (d := app.directory) hFetches hStays
    rw [serve]
    rcases app.search_cases hSize with
      ⟨_, hTooLarge⟩ | ⟨q, hLink, _⟩ | ⟨mode, hField, hUnknown, hRefused⟩
    · rw [hTooLarge]
      exact .served hWhole (by simp [Notice.status])
    · rw [hLink, redirect_link]
      exact .served hWhole (by simp)
    · rw [hRefused]
      exact .refused hWhole (.submitted hAllows hSearch hField)
        hUnknown
  · simp only [Endpoint.methods, List.mem_cons, hServed,
      List.not_mem_nil, or_false] at hAllows
    exact app.gets_lookup (.path hAllows hTail hRest) hStays
  · rw [serve]
    apply Request.Gets.served
    · intro hFails
      rcases hFails.cases_route with ⟨_, hPage⟩ | hMoved
      · rw [hFound] at hPage
        rcases hPage with hRoute | ⟨path, hRoute⟩ <;> cases hRoute
      · exact hStays hMoved
    · simp [Notice.status]

theorem gets_of_moved
    {path : List Char}
    (hRoute : route request.verb request.path = .moved path) :
    request.Gets app.directory (app.handle request) := by
  have hMoved : request.IsMoved := ⟨path, hRoute⟩
  rw [handle_eq, hRoute]
  dsimp only
  rw [redirect]
  by_cases hBreaks : request.BreaksLine
  · have hNot :
        ¬ Location.isSendable
            (Location.ofPath path request.queryString) = true := by
      rw [Location.isSendable_ofPath_iff]
      intro hAll
      obtain ⟨c, hc, hEnd⟩ := hBreaks
      exact hAll c hc hEnd
    rw [if_neg hNot]
    exact .failed (.broken hMoved hBreaks)
  · have hSendable :
        Location.isSendable
            (Location.ofPath path request.queryString) = true := by
      rw [Location.isSendable_ofPath_iff]
      intro c hc hEnd
      exact hBreaks ⟨c, hc, hEnd⟩
    rw [if_pos hSendable]
    refine .served ?_ (by simp)
    intro hFails
    cases hFails with
    | unwritable hAsks _ =>
        rcases hAsks.route_cases with hRoot | ⟨other, hOther, _⟩
        · rw [hRoute] at hRoot
          cases hRoot
        · rw [hRoute] at hOther
          cases hOther
    | unreadable hLooksUp _ =>
        have hOther := hLooksUp.route_eq
        rw [hRoute] at hOther
        cases hOther
    | broken _ hLine => exact hBreaks hLine

/- A path that leads nowhere is served with the reason for it. -/
theorem handle_gets
    (hSize : request.bodySize ≤ greatestForm) :
    request.Gets app.directory (app.handle request) := by
  cases hRoute : route request.verb request.path with
  | found endpoint =>
      have hStays : ¬ request.IsMoved := by
        rintro ⟨path, hMoved⟩
        rw [hRoute] at hMoved
        cases hMoved
      rw [handle_eq, hRoute]
      dsimp only
      by_cases hServed : request.verb = "OPTIONS"
      · rw [if_pos hServed]
        refine .served (not_fails_of_not_fetches ?_ hStays) (by simp)
        intro hFetches
        exact hFetches.ne_options hServed
      · rw [if_neg hServed]
        exact app.gets_serve hSize hRoute hServed hStays
  | moved path => exact app.gets_of_moved hRoute
  | notAllowed =>
      rw [handle_eq, hRoute]
      refine .served ?_ (by simp [Notice.status])
      intro hFails
      rcases hFails.cases_route with ⟨_, hPage⟩ | ⟨path, hMoved⟩
      · rw [hRoute] at hPage
        rcases hPage with hOther | ⟨path, hOther⟩ <;> cases hOther
      · rw [hRoute] at hMoved
        cases hMoved
  | notFound =>
      rw [handle_eq, hRoute]
      refine .served ?_ (by simp [Notice.status])
      intro hFails
      rcases hFails.cases_route with ⟨_, hPage⟩ | ⟨path, hMoved⟩
      · rw [hRoute] at hPage
        rcases hPage with hOther | ⟨path, hOther⟩ <;> cases hOther
      · rw [hRoute] at hMoved
        cases hMoved

theorem status_answer
    (request : Request) :
    (app.answer request).status =
      (Fault.settle (app.handle request)).status := by
  rw [answer]
  split <;> rfl

theorem body_answer
    (request : Request) :
    (app.answer request).body =
      if request.method = "HEAD" then ""
      else (Fault.settle (app.handle request)).body := by
  rw [answer]
  split <;> rfl

/- The status of an answer is one of a few. -/
theorem status_mem
    (hSize : request.bodySize ≤ greatestForm) :
    (app.answer request).status ∈
      [200, 302, 308, 400, 404, 405, 413, 500] := by
  have hGets := app.handle_gets hSize
  rw [status_answer]
  generalize app.handle request = outcome at *
  cases hGets with
  | served hWhole hStatus =>
      simp only [settle_ok, List.mem_cons, List.not_mem_nil,
        or_false] at hStatus ⊢
      omega
  | refused hWhole hNames hUnknown => simp [refusal, Notice.status]
  | failed hFails => simp [Notice.status]

theorem status_eq_failed_iff
    (hSize : request.bodySize ≤ greatestForm) :
    (app.answer request).status = 500 ↔
      request.Fails app.directory := by
  have hGets := app.handle_gets hSize
  rw [status_answer]
  generalize app.handle request = outcome at *
  cases hGets with
  | served hWhole hStatus =>
      refine iff_of_false ?_ hWhole
      intro hFailed
      rw [settle_ok] at hFailed
      rw [hFailed] at hStatus
      simp at hStatus
  | refused hWhole hNames hUnknown =>
      refine iff_of_false ?_ hWhole
      simp [refusal, Notice.status]
  | failed hFails => exact iff_of_true rfl hFails

/- Only who names a mode that there is not is refused. -/
theorem status_eq_refused_iff
    (hSize : request.bodySize ≤ greatestForm) :
    (app.answer request).status = 400 ↔
      ∃ mode, request.NamesMode mode ∧
        mode ∉ Mode.all.map Mode.name := by
  rw [status_answer]
  constructor
  · intro hStatus
    have hGets := app.handle_gets hSize
    generalize app.handle request = outcome at *
    cases hGets with
    | served hWhole hServed =>
        rw [settle_ok] at hStatus
        rw [hStatus] at hServed
        simp at hServed
    | refused hWhole hNames hUnknown =>
        exact ⟨_, hNames, hUnknown⟩
    | failed hFails =>
        simp [Notice.status] at hStatus
  · rintro ⟨mode, hNames, hUnknown⟩
    rw [app.handle_of_namesMode hSize hNames hUnknown]
    rfl

/-
  Whatever was assigned to the settings of an application, none
  that it reads is missing, and it answers every request whose
  body is no greater than a form may be. It fails exactly where
  it is asked for a page that offers a lone half, where it looks
  something up with parameters that are no text, and where it
  leads on and the query string breaks a line. It refuses
  exactly those who look up or submit a mode that there is not,
  and its page has this mode in escaped form only.
-/
theorem answers_every_request
    (directory : Directory Wide)
    (events : List Holder.Event)
    (refusesBytes : Bool)
    {request : Request}
    (hSize : request.bodySize ≤ greatestForm) :
    let app : Application Wide :=
      { directory
        settings :=
          Holder.run { defaults := Settings.webDefaults } events
        refusesBytes }
    (∃ value,
      app.settings.current.get? Settings.autoSubmitName =
        some value ∧
      app.autoSubmit = value.isTrue) ∧
    (app.answer request).status ∈
      [200, 302, 308, 400, 404, 405, 413, 500] ∧
    ((app.answer request).status = 500 ↔
      request.Fails directory) ∧
    ((app.answer request).status = 400 ↔
      ∃ mode, request.NamesMode mode ∧
        mode ∉ Mode.all.map Mode.name) ∧
    ∀ mode, request.NamesMode mode →
      mode ∉ Mode.all.map Mode.name →
      if request.method = "HEAD" then
        (app.answer request).body = ""
      else
        Notice.IsRefusal ("Invalid query mode " ++ mode)
          (app.answer request).body := by
  intro app
  refine ⟨?_, app.status_mem hSize, app.status_eq_failed_iff hSize,
    app.status_eq_refused_iff hSize, ?_⟩
  · have hDefault :
        (Settings.webDefaults.get? Settings.autoSubmitName).isSome =
          true := by
      decide
    obtain ⟨value, hValue⟩ :=
      Holder.exists_get?_run hDefault events
    refine ⟨value, hValue, ?_⟩
    rw [autoSubmit, hValue]
  · intro mode hNames hUnknown
    rw [body_answer,
      app.handle_of_namesMode hSize hNames hUnknown]
    split
    case isTrue => rfl
    case isFalse => exact Notice.isRefusal_badRequest _

/- Who looks up a mode that looks like markup. -/
def markupRequest : Request where
  target := "/lookup/%3Cb%3E/x"

/- Who asks for the page at the root. -/
def rootRequest : Request where
  target := "/"

/- A payload of a router whose name is half of a pair. -/
def halfPayload : Json.Value :=
  .object [("1", .object [("client_name", .text Wide.firstHalf)])]

/- The directory of this payload, without instances. -/
def halfDirectory : Directory Wide :=
  { routers := [{ id := "1", clientName := Wide.firstHalf }] }

theorem offersHalf_halfDirectory :
    halfDirectory.OffersHalf :=
  .inl ⟨_, List.mem_singleton_self _, Wide.holdsHalf_firstHalf⟩

/-
  The page of this directory is never written, but a mode is
  refused as ever: it is read back from its page, and is no
  markup there.
-/
theorem answers_every_request_markup :
    let app : Application Wide :=
      { directory := halfDirectory
        settings :=
          Holder.run { defaults := Settings.webDefaults }
            [.assigned (.written "null"), .reset]
        refusesBytes := true }
    rootRequest.bodySize ≤ greatestForm ∧
      (app.answer rootRequest).status = 500 ∧
      markupRequest.bodySize ≤ greatestForm ∧
      markupRequest.NamesMode "<b>" ∧
      "<b>" ∉ Mode.all.map Mode.name ∧
      (app.answer markupRequest).status = 400 ∧
      Notice.IsRefusal "Invalid query mode <b>"
        (app.answer markupRequest).body := by
  intro app
  have hRoot : rootRequest.bodySize ≤ greatestForm := by
    decide
  have hSize : markupRequest.bodySize ≤ greatestForm := by
    decide
  have hNames : markupRequest.NamesMode "<b>" := by
    have hPath :
        markupRequest.path = lookupLead ++ "<b>/x".toList := by
      decide +kernel
    refine .looked (.path (.inl (by decide +kernel)) hPath (by decide))
      (by decide) ?_
    exact Request.isReadable_iff.mp (Request.isReadable_of_text rfl)
  have hUnknown : "<b>" ∉ Mode.all.map Mode.name := by
    decide
  obtain ⟨_, _, hFailed, _⟩ :=
    answers_every_request halfDirectory
      [.assigned (.written "null"), .reset] true hRoot
  obtain ⟨_, _, _, hRefused, hPage⟩ :=
    answers_every_request halfDirectory
      [.assigned (.written "null"), .reset] true hSize
  have hFails : rootRequest.Fails halfDirectory := by
    refine .unwritable (.root ?_ ?_) offersHalf_halfDirectory
    · exact .inl (by decide +kernel)
    · decide +kernel
  have hStatus := hRefused.mpr ⟨"<b>", hNames, hUnknown⟩
  have hBody := hPage "<b>" hNames hUnknown
  rw [if_neg (by decide)] at hBody
  exact ⟨hRoot, hFailed.mpr hFails, hSize, hNames, hUnknown, hStatus,
    hBody⟩

/- Who looks something up with a byte that is no character. -/
def byteRequest : Request where
  target := ⟨(Octets.ofString "/lookup/Exact/x?a=").bytes ++ [0xFF]⟩

/- Who is led on with a carriage return in the query string. -/
def returnRequest : Request where
  target := "/lookup//Exact/x?a\rb"

/-
  Three requests that fail: the page at the root where a router
  has half of a pair as its name, and two of an application that
  has nothing to offer. None of them names a mode that there is
  not.
-/
theorem some_requests_fail :
    (∃ directory : Directory Wide,
      Directory.ofPayloads halfPayload (.object []) = .ok directory ∧
        ({ directory } : Application Wide).answer rootRequest =
          Notice.answer .failed) ∧
    (∃ directory : Directory Wide,
      Directory.ofPayloads (.object []) (.object []) =
          .ok directory ∧
        ({ directory } : Application Wide).answer byteRequest =
          Notice.answer .failed ∧
        ({ directory } : Application Wide).answer returnRequest =
          Notice.answer .failed) ∧
    (Notice.answer .failed).status = 500 := by
  have hHalf : Payload.routers halfPayload = .ok halfDirectory.routers := by
    simp [Payload.routers, Payload.routersOf, Payload.router?,
      Payload.clientNameMember, Json.Members.get?,
      Json.Table.ofMembers, halfPayload, halfDirectory, Except.map]
  have hEmpty : Payload.routers (.object []) = .ok [] := by
    rw [Payload.routers, Payload.routersOf, Except.map,
      List.mergeSort_nil]
  refine ⟨⟨halfDirectory, ?_, ?_⟩, ⟨{}, ?_, ?_, ?_⟩, rfl⟩
  · rw [Directory.ofPayloads, hHalf]
    rfl
  · rfl
  · rw [Directory.ofPayloads, hEmpty]
    rfl
  · rfl
  · rfl

end Application

end LookingGlass.Web
