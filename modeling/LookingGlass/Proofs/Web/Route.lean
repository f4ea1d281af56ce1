import LookingGlass.Proofs.Web.Message
import LookingGlass.Web.Application

/-
  Where requests lead: what stands behind the start of a lookup
  address is decoded and looked up as it is, or the address
  leads nowhere.

  Main declarations:
    * `Endpoint.ofPath?_lookup`
    * `Application.answerOf` and `Application.settle_lookup`
    * `Application.answer_lookup`
    * `Application.status_of_not_isAsked`
-/

namespace LookingGlass.Web

open Text (Fields Octets Wording)

------------------------------------------------------------
-- Endpoints
------------------------------------------------------------

/- What stands in front of a link in a lookup address. -/
abbrev lookupLead : List Char := "/lookup/".toList

theorem lookupLead_eq :
    lookupLead = ['/', 'l', 'o', 'o', 'k', 'u', 'p', '/'] :=
  rfl

namespace Endpoint

/- Whether a text can be asked for behind that. -/
def IsAsked
    (tail : List Char) : Prop :=
  tail = [] ∨ isRest tail = true

instance
    (tail : List Char) :
    Decidable (IsAsked tail) :=
  inferInstanceAs (Decidable (_ ∨ _))

theorem rest?_append
    (lead tail : List Char) :
    rest? lead (lead ++ tail) =
      if isRest tail then some tail else none := by
  simp [rest?]

/- A lookup address leads to its page, or nowhere. -/
theorem ofPath?_lookup
    (tail : List Char) :
    ofPath? (lookupLead ++ tail) =
      if IsAsked tail then some (.lookup tail) else none := by
  cases tail with
  | nil => rfl
  | cons c cs =>
      have hStatic :
          rest? "/static/".toList (lookupLead ++ c :: cs) = none :=
        rfl
      have hOther (path : List Char) (hLength : path.length ≤ 8) :
          lookupLead ++ c :: cs ≠ path := by
        rintro rfl
        have hLead : lookupLead.length = 8 := rfl
        simp only [List.length_append, hLead,
          List.length_cons] at hLength
        omega
      rw [ofPath?, if_neg (hOther _ (by decide)),
        if_neg (hOther _ (by decide)), if_neg (hOther _ (by decide)),
        if_neg (hOther _ (by decide)), rest?_append, hStatic]
      have hAsked : IsAsked (c :: cs) ↔ isRest (c :: cs) = true := by
        simp [IsAsked]
      by_cases hRest : isRest (c :: cs) = true
      · rw [if_pos hRest, if_pos (hAsked.mpr hRest)]
      · rw [if_neg hRest, if_neg (mt hAsked.mp hRest)]
        rfl

end Endpoint

------------------------------------------------------------
-- Merged Slashes
------------------------------------------------------------

theorem route_of_allows
    {method : String}
    {path : List Char}
    {endpoint : Endpoint}
    (hEndpoint : Endpoint.ofPath? path = some endpoint)
    (hMethod : endpoint.allows method = true) :
    route method path = .found endpoint := by
  simp [route, hEndpoint, Option.filter, hMethod]

theorem route_of_none
    {method : String}
    {path : List Char}
    (hNowhere : Endpoint.ofPath? path = none)
    (endpoint : Endpoint) :
    route method path ≠ .found endpoint := by
  simp only [route, hNowhere, Option.filter_none]
  split
  · simp
  · split
    · simp
    · split <;> simp

/- The decoded path behind the start of a lookup address. -/
def lookupTail
    (rest : String) : List Char :=
  Text.Percent.decodeLossy (Text.cut '?' rest.toList).1

/- The query string of a lookup address. -/
def lookupQuery
    (rest : String) : List Char :=
  (Text.cut '?' rest.toList).2.getD []

namespace Request

variable {request : Request} {rest : String}

theorem cut_lookup
    (rest : String) :
    Text.cut '?' ("/lookup/" ++ rest).toList =
      (lookupLead ++ (Text.cut '?' rest.toList).1,
        (Text.cut '?' rest.toList).2) := by
  rw [String.toList_append]
  exact Text.cut_lead (by decide) rest.toList

theorem path_lookup
    (hTarget : request.target = Octets.ofString ("/lookup/" ++ rest)) :
    request.path = lookupLead ++ lookupTail rest := by
  have hDecoded (cs : List Char) :
      Text.Percent.decodeLossy (lookupLead ++ cs) =
        lookupLead ++ Text.Percent.decodeLossy cs :=
    @Text.Percent.decodeLossy_append_separator '/' (by decide)
      "/lookup".toList
      (Text.Percent.not_holdsEscape_of_not_mem (by decide)) cs
  have hSlash (cs : List Char) :
      '/' :: Text.dropAll '/' (lookupLead ++ cs) =
        lookupLead ++ cs := by
    have hLetter :
        (lookupLead.tail ++ cs).head? ≠ some '/' := by
      simp [lookupLead_eq]
    exact congrArg ('/' :: ·) (Text.dropAll_cons_self hLetter)
  rw [path_of_text hTarget]
  simp only [cut_lookup, hDecoded]
  exact hSlash _

theorem queryString_lookup
    (hTarget : request.target = Octets.ofString ("/lookup/" ++ rest)) :
    request.queryString = lookupQuery rest := by
  rw [queryString_of_text hTarget, cut_lookup, lookupQuery]

end Request

------------------------------------------------------------
-- Answers
------------------------------------------------------------

@[simp] theorem settle_ok
    (answer : Answer) :
    Fault.settle (.ok answer) = answer :=
  rfl

@[simp] theorem settle_error
    (fault : Fault) :
    Fault.settle (.error fault) = Notice.answer .failed :=
  rfl

theorem redirect_status
    (status : Nat)
    (location : String) :
    (Fault.settle (redirect status location)).status = status ∨
      (Fault.settle (redirect status location)).status = 500 := by
  unfold redirect
  split
  · exact Or.inl rfl
  · exact Or.inr rfl

namespace Application

variable {T : Type} [Wording T] (app : Application T)

/- The answer to a query, or to a link that is none. -/
def answerOf :
    Except Query.Error Query → Answer
  | .error e => Notice.answer (.badRequest e.message)
  | .ok q => app.present q

/- What can be read is looked up with the first parameters. -/
theorem settle_lookup
    {request : Request}
    (hReadable : request.isReadable = true)
    (path : List Char) :
    Fault.settle (app.lookup path request) =
      app.answerOf
        (Query.ofPath path request.parameters.first?) := by
  rw [lookup, hReadable]
  cases Query.ofPath path request.parameters.first? with
  | error e => rfl
  | ok current => rfl

/- What a request of a page gets, by where its path leads. -/
theorem answer_get
    (target : Octets) :
    app.answer { target } =
      match route "GET" (Request.path { target }) with
      | .found endpoint => Fault.settle (app.serve { target } endpoint)
      | .moved path =>
        Fault.settle (redirect 308
          (Location.ofPath path (Request.queryString { target })))
      | .notAllowed => Notice.answer .notAllowed
      | .notFound => Notice.answer .notFound := by
  have hMethod :
      String.ofList (Text.capitalAscii "GET".toList) = "GET" := by
    decide
  have hBody : ¬ "GET" = "HEAD" := by decide
  rw [answer, if_neg hBody, fullAnswer, handle]
  simp only [hMethod]
  cases route "GET" (Request.path { target }) <;> rfl

/- What can be asked for at a lookup address is looked up. -/
theorem answer_lookup
    {rest : String}
    (hAsked : Endpoint.IsAsked (lookupTail rest)) :
    app.answer { target := Octets.ofString ("/lookup/" ++ rest) } =
      app.answerOf
        (Query.ofPath (lookupTail rest)
          (Fields.read Text.Percent.decodeKeeping
            (lookupQuery rest)).first?) := by
  have hRoute :
      route "GET" (lookupLead ++ lookupTail rest) =
        .found (.lookup (lookupTail rest)) := by
    apply route_of_allows
    · rw [Endpoint.ofPath?_lookup, if_pos hAsked]
    · simp [Endpoint.allows, Endpoint.methods]
  rw [answer_get, Request.path_lookup rfl, hRoute]
  dsimp only [serve]
  rw [settle_lookup app (Request.isReadable_of_text rfl),
    Request.parameters, Request.queryString_lookup rfl]

/- Nothing else is, nor is it refused for what it asks for. -/
theorem status_of_not_isAsked
    {rest : String}
    (hAsked : ¬ Endpoint.IsAsked (lookupTail rest)) :
    (app.answer
        { target := Octets.ofString ("/lookup/" ++ rest) }).status ∈
      [308, 404, 405, 500] := by
  have hNowhere :
      Endpoint.ofPath? (lookupLead ++ lookupTail rest) = none := by
    rw [Endpoint.ofPath?_lookup, if_neg hAsked]
  rw [answer_get, Request.path_lookup rfl]
  split
  case h_1 endpoint hFound =>
    exact absurd hFound (route_of_none hNowhere endpoint)
  case h_2 path _ =>
    rcases redirect_status 308 (Location.ofPath path
        (Request.queryString
          { target := Octets.ofString ("/lookup/" ++ rest) })) with
      hStatus | hStatus <;> simp [hStatus]
  case h_3 => decide
  case h_4 => decide

end Application

end LookingGlass.Web
