import LookingGlass.Proofs.Query.Submission
import LookingGlass.Proofs.Text.Markup
import LookingGlass.Proofs.Web.Search

/-
  Requests that name a mode, and what becomes of them where
  there is no such mode: they are refused, with a page that
  holds the mode in escaped lines only.

  Main declarations:
    * `Notice.escapedLines` and `Notice.body_badRequest`
    * `Notice.IsRefusal`
    * `Request.LooksUp` and `Request.NamesMode`
    * `Application.lookup_cases`
    * `Application.search_cases`
    * `Application.handle_of_namesMode`
-/

namespace LookingGlass.Web

open Text (Fields Octets Wording)

------------------------------------------------------------
-- Pages of Refusals
------------------------------------------------------------

namespace Notice

@[simp] theorem answer_status
    (notice : Notice) :
    notice.answer.status = notice.status :=
  rfl

/- The lines of a text, escaped. -/
def escapedLines
    (s : String) : List String :=
  (Text.pieces '\n' s.toList).map fun cs =>
    Text.Markup.escape (String.ofList cs)

/- No character of a line can open a tag or end a value. -/
theorem not_mem_of_mem_escapedLines
    {s line : String}
    (hLine : line ∈ escapedLines s)
    {c : Char}
    (hc : c ∈ ['<', '>', '"', '\'']) :
    c ∉ line.toList := by
  obtain ⟨cs, _, rfl⟩ := List.mem_map.mp hLine
  rw [Text.Markup.escape, String.toList_ofList,
    String.toList_ofList]
  simp only [List.mem_cons, List.not_mem_nil, or_false] at hc
  apply Text.Markup.not_mem_escape
  · rcases hc with rfl | rfl | rfl | rfl <;>
      simp [Text.Markup.IsSpecial]
  · rcases hc with rfl | rfl | rfl | rfl <;> decide

/- The lines are read back as the text that they are of. -/
theorem unescape_escapedLines
    (s : String) :
    ['\n'].intercalate ((escapedLines s).map fun line =>
      Text.Markup.unescape line.toList) = s.toList := by
  have hLine (cs : List Char) :
      Text.Markup.unescape
          (Text.Markup.escape (String.ofList cs)).toList = cs := by
    rw [Text.Markup.escape, String.toList_ofList,
      String.toList_ofList, Text.Markup.unescape_escape]
  simp only [escapedLines, List.map_map, Function.comp_def, hLine,
    List.map_id']
  exact Text.intercalate_pieces '\n' s.toList

theorem map_print_intersperse
    (texts : List (List Char)) :
    ((texts.map fun cs => Page.Token.text (String.ofList cs)).intersperse
        (.opening "br" [])).map Page.Token.print =
      (texts.map fun cs =>
        Text.Markup.escape (String.ofList cs)).intersperse "<br>" := by
  induction texts with
  | nil => rfl
  | cons cs rest ih =>
      cases rest with
      | nil => rfl
      | cons next rest =>
          simp only [List.map_cons, List.intersperse_cons_cons] at ih ⊢
          rw [ih]
          rfl

/- What stands in front of the reason of a refusal. -/
def refusalLead : String :=
  "<!doctype html>\n<html lang=en>\n" ++
    "<title>400 Bad Request</title>\n" ++
    "<h1>Bad Request</h1>\n<p>"

/- What stands behind it. -/
def refusalEnd : String := "</p>\n"

/- A refusal gives its reason in escaped lines, and nothing else. -/
theorem body_badRequest
    (reason : String) :
    (answer (.badRequest reason)).body =
      refusalLead ++
        String.join ((escapedLines reason).intersperse "<br>") ++
        refusalEnd := by
  have hLead :
      Page.print (heading "400 Bad Request" "Bad Request") =
        refusalLead := by
    rfl
  have hLines :
      Page.print (lines reason) =
        String.join ((escapedLines reason).intersperse "<br>") := by
    rw [Page.print, lines, escapedLines, map_print_intersperse]
  have hEnd :
      Page.print [.closing "p", .text "\n"] = refusalEnd := by
    rfl
  have hPage :
      page (.badRequest reason) =
        heading "400 Bad Request" "Bad Request" ++ lines reason ++
          [.closing "p", .text "\n"] := by
    have hTitle :
        s!"{status (.badRequest reason)} {title (.badRequest reason)}" =
          "400 Bad Request" := by
      rw [status, title]
      decide +kernel
    rw [page, hTitle]
    rfl
  have hPrint (before after : List Page.Token) :
      Page.print (before ++ after) =
        Page.print before ++ Page.print after := by
    simp only [Page.print, List.map_append, String.join_append]
  rw [answer, hPage, hPrint, hPrint, hLead, hLines, hEnd]

/-
  Whether a page refuses for a reason: it gives the reason in
  lines that cannot open a tag or end a value, and that are read
  back as the reason. There is nothing of it elsewhere.
-/
structure IsRefusal
    (reason page : String) : Prop where
  page_eq :
    page =
      refusalLead ++
        String.join ((escapedLines reason).intersperse "<br>") ++
        refusalEnd
  inert :
    ∀ line ∈ escapedLines reason,
      ∀ c ∈ ['<', '>', '"', '\''], c ∉ line.toList
  read_back :
    ['\n'].intercalate ((escapedLines reason).map fun line =>
      Text.Markup.unescape line.toList) = reason.toList

theorem isRefusal_badRequest
    (reason : String) :
    IsRefusal reason (answer (.badRequest reason)).body where
  page_eq := body_badRequest reason
  inert _ hLine _ hc := not_mem_of_mem_escapedLines hLine hc
  read_back := unescape_escapedLines reason

end Notice

------------------------------------------------------------
-- Requests
------------------------------------------------------------

/- The mode that a path starts with. -/
def pathMode
    (path : List Char) : String :=
  String.ofList (Text.cut '/' path).1

namespace Request

/- The method of a request, as it is understood. -/
def verb
    (request : Request) : String :=
  String.ofList (Text.capitalAscii request.method.toList)

/- Whether a request only fetches something. -/
def Fetches
    (request : Request) : Prop :=
  request.verb = "GET" ∨ request.verb = "HEAD"

instance
    (request : Request) :
    Decidable request.Fetches :=
  inferInstanceAs (Decidable (_ ∨ _))

/-
  Whether a request looks up a path: the empty one, or what
  stands behind the start of a lookup address.
-/
inductive LooksUp
    (request : Request) :
    List Char → Prop
  | nothing
      (hFetches : request.Fetches)
      (hPath :
        request.path = "/lookup".toList ∨
          request.path = "/lookup/".toList) :
      LooksUp request []
  | path
      {path : List Char}
      (hFetches : request.Fetches)
      (hPath : request.path = lookupLead ++ path)
      (hRest : Endpoint.isRest path = true) :
      LooksUp request path

/- Whether the query string of a request is one of characters. -/
def HasTextQuery
    (request : Request) : Prop :=
  ∃ s, request.sentQuery = Octets.ofString s

theorem isReadable_iff
    {request : Request} :
    request.isReadable = true ↔ request.HasTextQuery :=
  Octets.isText_iff

/-
  The mode that a request names: at the start of the path that
  it looks up, with parameters that can be read, or in the first
  field for it that it submits.
-/
inductive NamesMode
    (request : Request) :
    String → Prop
  | looked
      {path : List Char}
      (hLooksUp : request.LooksUp path)
      (hPath : path ≠ [])
      (hQuery : request.HasTextQuery) :
      NamesMode request (pathMode path)
  | submitted
      {mode : String}
      (hVerb : request.verb = "POST")
      (hPath : request.path = "/search".toList)
      (hField : request.fields.first? Form.modeField = some mode) :
      NamesMode request mode

variable {request : Request}

/- What is looked up is found as that. -/
theorem LooksUp.route_eq
    {path : List Char}
    (hLooksUp : request.LooksUp path) :
    route request.verb request.path = .found (.lookup path) := by
  have hAllows {path : List Char} (hFetches : request.Fetches) :
      (Endpoint.lookup path).allows request.verb = true := by
    rcases hFetches with hVerb | hVerb <;> rw [hVerb] <;> rfl
  cases hLooksUp with
  | nothing hFetches hPath =>
      apply route_of_allows _ (hAllows hFetches)
      rcases hPath with hPath | hPath <;> rw [hPath] <;> rfl
  | path hFetches hPath hRest =>
      have hAsked : Endpoint.IsAsked path := Or.inr hRest
      apply route_of_allows _ (hAllows hFetches)
      rw [hPath, Endpoint.ofPath?_lookup, if_pos hAsked]

theorem LooksUp.fetches
    {path : List Char}
    (hLooksUp : request.LooksUp path) :
    request.Fetches := by
  cases hLooksUp with
  | nothing hFetches _ => exact hFetches
  | path hFetches _ _ => exact hFetches

theorem LooksUp.isRest
    {path : List Char}
    (hLooksUp : request.LooksUp path)
    (hPath : path ≠ []) :
    Endpoint.isRest path = true := by
  cases hLooksUp with
  | nothing _ _ => exact absurd rfl hPath
  | path _ _ hRest => exact hRest

theorem Fetches.ne_options
    (hFetches : request.Fetches) :
    request.verb ≠ "OPTIONS" := by
  rcases hFetches with hVerb | hVerb <;> rw [hVerb] <;> decide

end Request

namespace Application

variable {T : Type} [Wording T] (app : Application T)
variable {request : Request}

------------------------------------------------------------
-- Answers of Endpoints
------------------------------------------------------------

/- The answer to those who name a mode that there is not. -/
def refusal
    (mode : String) : Answer :=
  Notice.answer
    (.badRequest (Query.Error.unknownMode mode).message)

/- A path is shown, or refused for the mode that it starts with. -/
theorem lookup_cases
    {path : List Char}
    (hRest : Endpoint.isRest path = true)
    (hQuery : request.HasTextQuery) :
    (pathMode path ∈ Mode.all.map Mode.name ∧
      ∃ q, app.lookup path request = app.page q) ∨
    (pathMode path ∉ Mode.all.map Mode.name ∧
      app.lookup path request = .ok (refusal (pathMode path))) := by
  have hMode : ¬ ((Text.cut '/' path).1.isEmpty ∧
      (Text.cut '/' path).2.isNone) := by
    rintro ⟨hFirst, _⟩
    cases path with
    | nil => cases hRest
    | cons c cs =>
        simp only [Endpoint.isRest, Bool.and_eq_true,
          bne_iff_ne] at hRest
        simp [Text.cut, hRest.1] at hFirst
  rw [lookup, Request.isReadable_iff.mpr hQuery, Query.ofPath,
    Query.ofParts, if_neg hMode, Query.ofNames, Mode.mem_names_iff]
  rcases Query.modeOfName_cases (pathMode path) with
    ⟨hError, hNames⟩ | ⟨mode, hName, hOk⟩
  · right
    constructor
    · rintro ⟨mode, hName⟩
      exact hNames mode hName
    · unfold pathMode at hError
      rw [hError]
      rfl
  · left
    refine ⟨⟨mode, hName⟩, ?_⟩
    unfold pathMode at hOk
    rw [hOk]
    exact ⟨_, rfl⟩

/- The empty path has no mode, so it is shown. -/
theorem lookup_nil
    (hQuery : request.HasTextQuery) :
    ∃ q, app.lookup [] request = app.page q := by
  rw [lookup, Request.isReadable_iff.mpr hQuery]
  exact ⟨_, rfl⟩

theorem lookup_of_not_hasTextQuery
    (hQuery : ¬ request.HasTextQuery)
    (path : List Char) :
    app.lookup path request = .error .unreadableQuery := by
  rw [← Request.isReadable_iff, Bool.not_eq_true] at hQuery
  rw [lookup, hQuery]
  rfl

omit [Wording T] in
/- A form is only refused for its bytes if it has no fields. -/
theorem fields_of_refusesForm
    (hSize : request.bodySize ≤ greatestForm)
    (hRefuses : app.refusesForm request = true) :
    request.fields = [] := by
  have hFits : ¬ request.bodySize > greatestForm := by omega
  simp only [refusesForm, hFits, decide_false, Bool.false_or,
    Bool.and_eq_true, Bool.not_eq_true'] at hRefuses
  have hBytes := hRefuses.2
  rw [Request.fields]
  cases hBody : request.body with
  | none => rfl
  | some body =>
      rw [hBody, Option.all_some] at hBytes
      simp [hBytes]

/-
  A submission leads to a link, or is refused for its mode; of a
  body that is no text there may be no form.
-/
theorem search_cases
    (hSize : request.bodySize ≤ greatestForm) :
    (request.fields.first? Form.modeField = none ∧
      app.search request = .ok (Notice.answer .tooLarge)) ∨
    (∃ q : Query, app.search request =
        redirect 302 ("/" ++ q.link) ∧
      ∀ mode, request.fields.first? Form.modeField = some mode →
        mode ∈ Mode.all.map Mode.name) ∨
    ∃ mode, request.fields.first? Form.modeField = some mode ∧
      mode ∉ Mode.all.map Mode.name ∧
      app.search request = .ok (refusal mode) := by
  by_cases hRefuses : app.refusesForm request = true
  · left
    rw [app.fields_of_refusesForm hSize hRefuses, search,
      if_pos hRefuses]
    exact ⟨rfl, rfl⟩
  · right
    simp only [search, if_neg hRefuses, Form.submit, Form.query]
    rcases (Form.read request.fields).query_cases
        (app.form .empty).offersInstances with
      ⟨mode, hName, hOk⟩ | ⟨hNames, hError⟩
    · left
      rw [hOk]
      refine ⟨_, rfl, ?_⟩
      intro other hField
      simp only [Form.read, hField, Option.getD_some] at hName
      exact Mode.mem_names_iff.mpr ⟨mode, hName⟩
    · right
      rw [hError]
      cases hField : request.fields.first? Form.modeField with
      | none =>
          simp only [Form.read, hField, Option.getD_none] at hNames
          exact absurd rfl (hNames Mode.fallback)
      | some mode =>
          simp only [Form.read, hField, Option.getD_some] at hNames ⊢
          refine ⟨mode, rfl, ?_, rfl⟩
          rw [Mode.mem_names_iff]
          rintro ⟨other, hName⟩
          exact hNames other hName

------------------------------------------------------------
-- Refusals
------------------------------------------------------------

/- What a request gets, by where its path leads. -/
theorem handle_eq
    (request : Request) :
    app.handle request =
      match route request.verb request.path with
      | .found endpoint =>
        if request.verb = "OPTIONS" then
          .ok { status := 200, body := "" }
        else app.serve request endpoint
      | .moved path =>
        redirect 308 (Location.ofPath path request.queryString)
      | .notAllowed => .ok (Notice.answer .notAllowed)
      | .notFound => .ok (Notice.answer .notFound) :=
  rfl

/- Who names a mode that there is not is refused. -/
theorem handle_of_namesMode
    (hSize : request.bodySize ≤ greatestForm)
    {mode : String}
    (hNames : request.NamesMode mode)
    (hUnknown : mode ∉ Mode.all.map Mode.name) :
    app.handle request = .ok (refusal mode) := by
  cases hNames with
  | @looked path hLooksUp hPath hQuery =>
      rw [handle_eq, hLooksUp.route_eq]
      dsimp only
      rw [if_neg hLooksUp.fetches.ne_options, serve]
      rcases app.lookup_cases (hLooksUp.isRest hPath) hQuery with
        ⟨hKnown, _⟩ | ⟨_, hRefused⟩
      · exact absurd hKnown hUnknown
      · exact hRefused
  | submitted hVerb hPath hField =>
      have hFound :
          route request.verb request.path = .found .search := by
        rw [hVerb, hPath]
        rfl
      rw [handle_eq, hFound]
      dsimp only
      rw [if_neg (by rw [hVerb]; decide), serve]
      rcases app.search_cases hSize with
        ⟨hNone, _⟩ | ⟨_, _, hKnown⟩ | ⟨other, hOther, _, hRefused⟩
      · rw [hNone] at hField
        cases hField
      · exact absurd (hKnown mode hField) hUnknown
      · rw [hField] at hOther
        rw [hRefused, Option.some.inj hOther]

end Application

end LookingGlass.Web
