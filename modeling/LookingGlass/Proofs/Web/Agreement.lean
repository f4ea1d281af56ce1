import LookingGlass.Proofs.Tool.Links
import LookingGlass.Proofs.Web.Search
import LookingGlass.Url.Reference

/-
  One query for all front ends: the form, the command line and
  the web application turn the same four texts into the same
  link, or all of them refuse. The link can be sent as a
  location, which does not lead away from the site.

  Main declarations:
    * `Query.IsLinkChar` and `Query.isLinkChar_of_keeping`
    * `Location.IsLocal` and `Location.isLocal_link`
    * `Submission.fields` and `Form.read_fields`
    * `Form.carries_instance_iff`
    * `Application.front_ends_of_query` and `front_ends_of_error`
    * `Application.front_ends_agree`
-/

namespace LookingGlass

open Text (Fields)

variable {T : Type} [Text.Wording T]

------------------------------------------------------------
-- Characters of a Link
------------------------------------------------------------

namespace Query

/- What the parts of a link hold between their separators. -/
def IsLinkChar
    (c : Char) : Prop :=
  c.isAlphanum ∨ c ∈ "_.-~:/@%".toList

instance
    (c : Char) :
    Decidable (IsLinkChar c) :=
  inferInstanceAs (Decidable (_ ∨ _))

/- All of this is ASCII, so each character can be looked at. -/
theorem isLinkChar_of_keeping
    {c : Char}
    (hc : Text.Percent.keeping linkMarks c = true) :
    (IsLinkChar c ∨ c ∈ "?&=".toList) ∧
      0x20 < c.toNat ∧ c.toNat < 0x7F := by
  have hAll :
      ∀ n : Fin 0x80,
        Text.Percent.keeping linkMarks (Char.ofNat n) = true →
        (IsLinkChar (Char.ofNat n) ∨
            Char.ofNat n ∈ "?&=".toList) ∧
          0x20 < (Char.ofNat n).toNat ∧
            (Char.ofNat n).toNat < 0x7F := by
    decide
  have hAscii : c.toNat < 0x80 :=
    Text.Percent.toNat_lt_of_keeping (by decide) hc
  have hChar := hAll ⟨c.toNat, hAscii⟩
  rw [Char.ofNat_toNat] at hChar
  exact hChar hc

end Query

------------------------------------------------------------
-- Locations
------------------------------------------------------------

namespace Web.Location

/-
  Whether a location leads to the same site wherever it is
  followed, and can be printed.
-/
structure IsLocal
    (location : String) : Prop where
  scheme_eq : (Url.Reference.ofText location.toList).scheme = []
  authority_eq (base : Url.Reference) :
    (base.resolve
        (Url.Reference.ofText location.toList)).authority =
      base.authority
  printable : ∀ c ∈ location.toList, 0x20 < c.toNat ∧ c.toNat < 0x7F

/- A fragment behind the root has no place of its own. -/
theorem ofText_fragment
    (fragment : List Char) :
    Url.Reference.ofText ('/' :: '#' :: fragment) =
      { scheme := []
        authority := []
        path := ['/']
        query := []
        fragment } := by
  have hScheme :
      Url.cutScheme ('/' :: '#' :: fragment) =
        ([], '/' :: '#' :: fragment) := by
    have hLead : ':' ∉ ['/', '#'] := by
      decide
    have hCut := Text.cut_lead hLead fragment
    simp only [List.cons_append, List.nil_append] at hCut
    rw [Url.cutScheme, hCut]
    cases (Text.cut ':' fragment).2 <;> rfl
  have hAuthority :
      Url.Reference.cutDestination ('/' :: '#' :: fragment) =
        ([], '/' :: '#' :: fragment) :=
    rfl
  have hFragment :
      Text.cut '#' ('/' :: '#' :: fragment) =
        (['/'], some fragment) :=
    @Text.cut_append _ _ '#' ['/'] (by decide) _
  have hQuery : Text.cut '?' ['/'] = (['/'], none) := by
    decide
  rw [Url.Reference.ofText]
  simp only [hScheme, hAuthority, hFragment, hQuery]
  rfl

theorem isLocal_link
    (q : Query) :
    IsLocal ("/" ++ q.link) := by
  constructor
  · rw [toList_link, ofText_fragment]
  · intro base
    rw [toList_link, ofText_fragment]
    rfl
  · intro c hc
    rw [toList_link] at hc
    rcases List.mem_cons.mp hc with rfl | hc
    · decide
    · rcases List.mem_cons.mp hc with rfl | hc
      · decide
      · exact (Query.isLinkChar_of_keeping
          (keeping_of_mem_fragment hc)).2

end Web.Location

------------------------------------------------------------
-- Fields of a Submission
------------------------------------------------------------

/- The fields of a submission; without an instance, only three. -/
def Submission.fields
    (submission : Submission) : Fields :=
  [(Form.modeField, submission.mode),
    (Form.valueField, submission.value),
    (Form.routerField, submission.router)] ++
  match submission.rd with
  | some rd => [(Form.instanceField, rd)]
  | none => []

theorem Form.read_fields
    (submission : Submission) :
    read submission.fields = submission := by
  cases submission with
  | mk mode value router rd =>
      cases rd <;>
        simp [read, Submission.fields, Fields.first?,
          List.lookup_cons, modeField, valueField, routerField,
          instanceField]

------------------------------------------------------------
-- Instances in a Link
------------------------------------------------------------

namespace Form

/-
  The link of a submission has a filter for an instance where
  instances are on offer and a special one is asked for.
-/
theorem carries_instance_iff
    (form : Form T)
    (mode : Mode)
    (value router : String)
    (rd : Option String) :
    Query.Carries
        (Query.make mode value router
          (if form.offersInstances then rd else none)).link
        Query.instanceFilter ↔
      (∃ r ∈ form.directory.instances,
        ∃ s ∈ form.directory.instances, r ≠ s) ∧
      rd ≠ none ∧ rd ≠ some defaultInstance := by
  rw [Query.carries_instance_iff, Query.rd_make,
    ← offersInstances_iff_differ]
  cases form.offersInstances with
  | false => simp
  | true => by_cases hDefault : rd = some defaultInstance <;>
      simp [hDefault]

end Form

------------------------------------------------------------
-- Front Ends
------------------------------------------------------------

namespace Web.Application

section FrontEnds

variable (app : Application T)
variable {asked : Submission}

theorem query_fields :
    ({ directory := app.directory } : Form T).query asked.fields =
      asked.query
        ({ directory := app.directory } : Form T).offersInstances := by
  rw [Form.query, Form.read_fields]

/- What is asked for has the same link in all front ends. -/
theorem front_ends_of_query
    {q : Query}
    (hQuery :
      asked.query
          ({ directory := app.directory } : Form T).offersInstances =
        .ok q) :
    ({ directory := app.directory } : Form T).submit asked.fields =
        .ok q.link ∧
      (∃ note,
        Tool.Command.run app.directory (.query asked.options) =
          { report :=
              { status := 0
                output := q.link ++ "\n"
                errors := note } }) ∧
      ((Fields.form asked.fields).utf8ByteSize ≤ greatestForm →
        (app.answer (submission asked.fields)).status = 302 ∧
        (app.answer (submission asked.fields)).location =
          some ("/" ++ q.link)) := by
  have hFields := app.query_fields.trans hQuery
  have hRun := Tool.runQuery_options app.directory asked
  obtain ⟨note, hWritten⟩ := Tool.writeQuery_of_query hQuery
  rw [hWritten] at hRun
  refine
    ⟨congrArg (Except.map Query.link) hFields, ⟨note, hRun⟩, ?_⟩
  intro hSize
  rw [app.answer_search hSize hFields, redirect_link, settle_ok]
  exact ⟨rfl, rfl⟩

/- What is refused by one of them is refused by all. -/
theorem front_ends_of_error
    {e : Query.Error}
    (hQuery :
      asked.query
          ({ directory := app.directory } : Form T).offersInstances =
        .error e) :
    ({ directory := app.directory } : Form T).submit asked.fields =
        .error e ∧
      Tool.Command.run app.directory (.query asked.options) =
        { report :=
            { status := 1
              output := ""
              errors := e.message ++ "\n" } } ∧
      ((Fields.form asked.fields).utf8ByteSize ≤ greatestForm →
        (app.answer (submission asked.fields)).status = 400) := by
  have hFields := app.query_fields.trans hQuery
  have hRun := Tool.runQuery_options app.directory asked
  rw [Tool.writeQuery_of_error hQuery] at hRun
  refine ⟨congrArg (Except.map Query.link) hFields, hRun, ?_⟩
  intro hSize
  rw [app.answer_refused hSize hFields]
  rfl

end FrontEnds

/-
  The same four texts lead to the same link in all front ends
  if one of them is the name of a mode; otherwise none of the
  front ends has a link for them. The link is of one alphabet
  and a location of the same site. It has a filter for a
  routing instance exactly if the directory has different ones
  and one of them is asked for by a distinguisher.
-/
theorem front_ends_agree
    (app : Application T)
    (asked : Submission) :
    (asked.mode ∈ Mode.all.map Mode.name →
      ∃ link note,
        ({ directory := app.directory } : Form T).submit asked.fields =
          .ok link ∧
        Tool.Command.run app.directory (.query asked.options) =
          { report :=
              { status := 0
                output := link ++ "\n"
                errors := note } } ∧
        ((Fields.form asked.fields).utf8ByteSize ≤ greatestForm →
          (app.answer (submission asked.fields)).status = 302 ∧
          (app.answer (submission asked.fields)).location =
            some ("/" ++ link)) ∧
        Query.IsCanonical link ∧
        (∃ body, link = "#/" ++ body ∧
          ∀ c ∈ body.toList, Query.IsLinkChar c ∨
            c ∈ "?&=".toList) ∧
        Location.IsLocal ("/" ++ link) ∧
        (Query.Carries link Query.instanceFilter ↔
          (∃ r ∈ app.directory.instances,
            ∃ s ∈ app.directory.instances, r ≠ s) ∧
          asked.rd ≠ none ∧ asked.rd ≠ some defaultInstance)) ∧
    (asked.mode ∉ Mode.all.map Mode.name →
      ({ directory := app.directory } : Form T).submit asked.fields =
          .error (.unknownMode asked.mode) ∧
        Tool.Command.run app.directory (.query asked.options) =
          { report :=
              { status := 1
                output := ""
                errors :=
                  (Query.Error.unknownMode asked.mode).message ++
                    "\n" } } ∧
        ((Fields.form asked.fields).utf8ByteSize ≤ greatestForm →
          (app.answer (submission asked.fields)).status = 400)) := by
  let form : Form T := { directory := app.directory }
  rcases asked.query_cases form.offersInstances with
    ⟨mode, hName, hQuery⟩ | ⟨hNames, hQuery⟩
  · constructor
    · intro _
      obtain ⟨hSubmit, ⟨note, hRun⟩, hAnswer⟩ :=
        app.front_ends_of_query hQuery
      exact ⟨_, note, hSubmit, hRun, hAnswer,
        (Query.isCanonical_iff_exists_link _).mpr ⟨_, rfl⟩,
        ⟨_, rfl, fun c hc => (Query.isLinkChar_of_keeping
          (Query.keeping_of_mem_linkBody hc)).1⟩,
        Location.isLocal_link _,
        form.carries_instance_iff mode asked.value asked.router
          asked.rd⟩
    · intro hUnknown
      exact absurd (Mode.mem_names_iff.mpr ⟨mode, hName⟩) hUnknown
  · constructor
    · intro hKnown
      obtain ⟨mode, hName⟩ := Mode.mem_names_iff.mp hKnown
      exact absurd hName (hNames mode)
    · intro _
      exact app.front_ends_of_error hQuery

/- An application of two routing instances of one name. -/
def twoInstances : Application :=
  { directory := Form.sharedNames }

/- A submission that asks for the second one. -/
def secondInstance : Submission :=
  { mode := "Exact", value := "10.0.0.0/8", rd := some "1:2" }

/- The same in a mode that there is not. -/
def noMode : Submission :=
  { secondInstance with mode := "exact" }

theorem front_ends_agree_twoInstances :
    (∃ link note,
      Tool.Command.run Form.sharedNames
          (.query secondInstance.options) =
        { report :=
            { status := 0
              output := link ++ "\n"
              errors := note } } ∧
      (twoInstances.answer
          (submission secondInstance.fields)).location =
        some ("/" ++ link) ∧
      Query.Carries link Query.instanceFilter) ∧
    (twoInstances.answer (submission noMode.fields)).status = 400 := by
  have hKnown := (twoInstances.front_ends_agree secondInstance).1
  have hUnknown := (twoInstances.front_ends_agree noMode).2
  constructor
  · obtain ⟨link, note, _, hRun, hAnswer, _, _, _, hCarries⟩ :=
      hKnown (by decide)
    refine ⟨link, note, hRun, (hAnswer (by decide +kernel)).2, ?_⟩
    exact hCarries.mpr
      ⟨⟨⟨"1:1", some "blue"⟩, by decide, ⟨"1:2", some "blue"⟩,
        by decide, by decide⟩, by decide, by decide⟩
  · exact (hUnknown (by decide)).2.2 (by decide +kernel)

end Web.Application

end LookingGlass
