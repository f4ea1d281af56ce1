import LookingGlass.Proofs.Form.Choice
import LookingGlass.Proofs.Query.Submission
import LookingGlass.Proofs.Tool.Start

/-
  The two commands on links: what one of them prints for a query
  is read by the other as the same query, part by part. Only a
  routing instance with an empty distinguisher is told as the
  default one.

  Main declarations:
    * `Submission.options`
    * `runQuery_options`
    * `run_parse`
    * `partsReport`
    * `readQuery_link`
    * `link_report_round_trip`
    * `blank_instance_told_as_default`
-/

namespace LookingGlass

open CommandLine (Program Report Token tokens)

variable {T : Type} [Text.Wording T]

/- A submission as the options of a command line. -/
def Submission.options
    (submission : Submission) : Tool.QueryOptions :=
  { mode := .of submission.mode
    value := submission.value
    router := .of submission.router
    rd := submission.rd.map .of }

namespace Tool

------------------------------------------------------------
-- Writing a Link
------------------------------------------------------------

/- Nothing is blank about options that are texts. -/
theorem runQuery_options
    (directory : Directory T)
    (submission : Submission) :
    runQuery directory submission.options =
      { report := writeQuery directory submission } := by
  have hSubmission :
      submission.options.submission = submission := by
    cases submission with
    | mk mode value router rd => cases rd <;> rfl
  have hBlank (offersInstances : Bool) :
      submission.options.hasBlankFilter offersInstances = false := by
    cases submission with
    | mk mode value router rd =>
        cases rd <;>
          simp [Submission.options, QueryOptions.hasBlankFilter]
  simp only [runQuery, hSubmission, hBlank, Bool.false_eq_true,
    and_false, if_false]

/- The link of what a submission asks for is what is printed. -/
theorem writeQuery_of_query
    {directory : Directory T}
    {submission : Submission}
    {q : Query}
    (hQuery :
      submission.query
          ({ directory } : Form T).offersInstances = .ok q) :
    ∃ note,
      writeQuery directory submission =
        { status := 0, output := q.link ++ "\n", errors := note } := by
  simp only [writeQuery, hQuery]
  exact ⟨_, rfl⟩

theorem writeQuery_of_error
    {directory : Directory T}
    {submission : Submission}
    {e : Query.Error}
    (hQuery :
      submission.query
          ({ directory } : Form T).offersInstances = .error e) :
    writeQuery directory submission = refused e := by
  simp only [writeQuery, hQuery]

------------------------------------------------------------
-- Arguments
------------------------------------------------------------

/- An argument that does not start with a dash is a text. -/
theorem tokens_cons
    (program : Program)
    {text : String}
    (hText : text.toList.head? ≠ some '-')
    (rest : List String) :
    tokens program (text :: rest) =
      (tokens program rest).map ((text, .text) :: ·) := by
  have hSeparator : text = "--" → False := by
    rintro rfl
    exact hText rfl
  have hToken : Token.ofText program text = .ok .text := by
    rw [Token.ofText]
    exact if_pos hText
  simp only [tokens, hToken]

theorem readOptions_parse
    {link : String}
    (hLink : link.toList.head? ≠ some '-') :
    readOptions ["parse", link] =
      .ok
        { config := none
          api := none
          verbose := false
          command := some (.parse link) } := by
  have hMain :
      readFor program ["parse", link] =
        .ok { command := ["parse", link] } := by
    rw [readFor, Program.read, tokens_cons _ (by decide),
      tokens_cons _ hLink]
    rfl
  have hParse :
      readFor parseProgram [link] =
        .ok { given := [("query", .text link)] } := by
    rw [readFor, Program.read, tokens_cons _ hLink]
    rfl
  rw [readOptions, hMain]
  simp only [bind, Except.bind, commandOf, hParse]
  rfl

/- Reading a link needs nothing of the world. -/
theorem run_parse
    (world : World)
    {link : String}
    (hLink : link.toList.head? ≠ some '-') :
    run world ["parse", link] = { report := readQuery link } := by
  rw [run, readOptions_parse hLink]
  rfl

------------------------------------------------------------
-- Reading a Link
------------------------------------------------------------

/- The report on the parts of a query, each in a line. -/
def partsReport
    (mode value kind router rd : String) : Report :=
  { status := 0
    output :=
      "mode\t" ++ mode ++ "\n" ++
      "value\t" ++ value ++ "\n" ++
      "value-type\t" ++ kind ++ "\n" ++
      "router\t" ++ router ++ "\n" ++
      "route-distinguisher\t" ++ rd ++ "\n" }

/- The lines of the report are rows of two columns. -/
theorem partsReport_eq_rows
    (mode value kind router rd : String) :
    partsReport mode value kind router rd =
      { status := 0
        output := String.join
          [row ["mode", mode], row ["value", value],
            row ["value-type", kind], row ["router", router],
            row ["route-distinguisher", rd]] } := by
  have hRow (first second : String) :
      row [first, second] = first ++ "\t" ++ second ++ "\n" :=
    rfl
  rw [partsReport, Report.mk.injEq]
  refine ⟨rfl, ?_, rfl⟩
  rw [← String.toList_inj]
  simp [hRow]

/- Without a value there is no mode to tell but the fallback. -/
theorem name_mode_settled
    (q : Query) :
    q.settled.mode.name =
      if q.value = "" then "MostSpecific" else q.mode.name := by
  by_cases hValue : q.value = ""
  · rw [Query.settled_mode_of_empty hValue, if_pos hValue]
    rfl
  · rw [Query.settled_of_value hValue, if_neg hValue]

/- What is told of the routing instance of a query. -/
def toldInstance
    (q : Query) : String :=
  unlessEmpty (q.rd.getD "") defaultInstance

/- A link is told in the parts of its query. -/
theorem readQuery_link
    (q : Query) :
    ∃ kind,
      readQuery q.link =
        partsReport q.settled.mode.name q.value kind q.router
          (toldInstance q) := by
  refine
    ⟨(q.settled.valueKind.map Query.ValueKind.name).getD "-", ?_⟩
  simp only [readQuery, Query.ofLink_link, Query.settled_value,
    Query.settled_router, Query.settled_rd, partsReport_eq_rows]
  rfl

/- An instance is told as the default one if it has no text. -/
theorem toldInstance_eq_default_iff
    (q : Query) :
    toldInstance q = defaultInstance ↔
      q.rd = none ∨ q.rd = some "" := by
  have hDefault := q.rd_ne_default
  rw [toldInstance, unlessEmpty]
  cases hInstance : q.rd with
  | none => simp
  | some rd =>
      rw [hInstance] at hDefault
      by_cases hEmpty : rd = ""
      · simp [hEmpty]
      · have hOther : rd ≠ defaultInstance := by
          simpa using hDefault
        simp [hEmpty, hOther]

/- Any other instance is told as it is. -/
theorem toldInstance_cases
    (q : Query) :
    toldInstance q = defaultInstance ∨
      q.rd = some (toldInstance q) := by
  rw [toldInstance, unlessEmpty]
  cases hInstance : q.rd with
  | none => simp
  | some rd => by_cases hEmpty : rd = "" <;> simp [hEmpty]

------------------------------------------------------------
-- Both Commands
------------------------------------------------------------

/-
  A query that one command turns into a link is told by the
  other one in all its parts, but for the mode of a query
  without a value. The routing instance is told as the default
  one if the link has no filter for it, and also if the filter
  has no text; otherwise it is the one that was given.
-/
theorem link_report_round_trip
    (world : World)
    (directory : Directory T)
    (mode : Mode)
    (value router : String)
    (rd : Option String) :
    ∃ link note kind told,
      Command.run directory
          (.query
            { mode := .of mode.name
              value
              router := .of router
              rd := rd.map .of }) =
        { report :=
            { status := 0, output := link ++ "\n", errors := note } } ∧
      run world ["parse", link] =
        { report :=
            partsReport
              (if value = "" then "MostSpecific" else mode.name)
              value kind router told } ∧
      (told = defaultInstance ↔
        ¬ Query.Carries link Query.instanceFilter ∨
          rd = some "") ∧
      (told = defaultInstance ∨ rd = some told) := by
  let form : Form T := { directory }
  let submission : Submission :=
    { mode := mode.name, value, router, rd }
  let q : Query :=
    .make mode value router
      (if form.offersInstances then rd else none)
  have hQuery : submission.query form.offersInstances = .ok q := by
    simp [Submission.query, Query.ofNames, submission, q, Except.map]
  have hRun := runQuery_options directory submission
  obtain ⟨note, hWritten⟩ := writeQuery_of_query hQuery
  obtain ⟨kind, hRead⟩ := readQuery_link q
  have hText : q.link.toList.head? ≠ some '-' := by
    simp [Query.link]
  have hMode :
      q.settled.mode.name =
        if value = "" then "MostSpecific" else mode.name := by
    rw [name_mode_settled, Query.value_make, Query.mode_make]
  have hTaken : q.rd = none ∨ q.rd = rd := by
    rw [Query.rd_make]
    cases form.offersInstances with
    | false => simp
    | true => by_cases hDefault : rd = some defaultInstance <;>
        simp [hDefault]
  refine ⟨q.link, note, kind, toldInstance q, ?_, ?_, ?_, ?_⟩
  · rw [hWritten] at hRun
    exact hRun
  · rw [run_parse world hText, hRead, hMode]
    simp [q]
  · rw [toldInstance_eq_default_iff, Query.carries_instance_iff,
      not_not]
    constructor
    · rintro (hNone | hEmpty)
      · exact Or.inl hNone
      · rcases hTaken with hNone | hSame
        · exact Or.inl hNone
        · exact Or.inr (hSame ▸ hEmpty)
    · rintro (hNone | hEmpty)
      · exact Or.inl hNone
      · exact hTaken.imp_right fun hSame => hSame.trans hEmpty
  · rcases toldInstance_cases q with hDefault | hTold
    · exact Or.inl hDefault
    · rcases hTaken with hNone | hSame
      · rw [hNone] at hTold
        cases hTold
      · exact Or.inr (hSame ▸ hTold)

/- What asks for an instance with an empty distinguisher. -/
def blankSubmission : Submission :=
  { rd := some "" }

/- The query for such an instance. -/
def blankQuery : Query :=
  .make .fallback "" allRouters (some "")

theorem link_blankQuery :
    blankQuery.link = "#/?route_distinguisher=" := by
  decide +kernel

/-
  Where two routing instances can be told apart, an empty
  distinguisher is written into the link as a filter, but what
  is read is told as the default instance and not as this one.
-/
theorem blank_instance_told_as_default :
    (∃ note,
      Command.run Form.sharedNames
          (.query { rd := some (.of "") }) =
        { report :=
            { status := 0
              output := "#/?route_distinguisher=" ++ "\n"
              errors := note } }) ∧
    Query.Carries "#/?route_distinguisher="
      Query.instanceFilter ∧
    ∀ world : World,
      (∃ kind,
        run world ["parse", "#/?route_distinguisher="] =
          { report :=
              partsReport "MostSpecific" "" kind "all" "default" }) ∧
      ∀ kind,
        run world ["parse", "#/?route_distinguisher="] ≠
          { report := partsReport "MostSpecific" "" kind "all" "" } := by
  have hOffers :
      ({ directory := Form.sharedNames } : Form).offersInstances =
        true :=
    Form.offersInstances_iff.mpr (by decide)
  have hQuery :
      blankSubmission.query
          ({ directory := Form.sharedNames } : Form).offersInstances =
        .ok blankQuery := by
    rw [hOffers]
    rfl
  have hRun := runQuery_options Form.sharedNames blankSubmission
  obtain ⟨note, hWritten⟩ := writeQuery_of_query hQuery
  rw [hWritten] at hRun
  have hTold (world : World) :
      ∃ kind,
        run world ["parse", blankQuery.link] =
          { report :=
              partsReport "MostSpecific" "" kind "all" "default" } := by
    obtain ⟨kind, hRead⟩ := readQuery_link blankQuery
    refine ⟨kind, ?_⟩
    rw [run_parse world (by rw [link_blankQuery]; decide), hRead]
    rfl
  rw [← link_blankQuery]
  refine ⟨⟨note, hRun⟩, ?_, fun world => ⟨hTold world, ?_⟩⟩
  · rw [Query.carries_instance_iff]
    decide
  · intro kind hBlank
    obtain ⟨found, hDefault⟩ := hTold world
    rw [hDefault] at hBlank
    -- the two reports differ in their last character but one
    have hLast :=
      congrArg
        (fun outcome => outcome.report.output.toList.reverse.take 2)
        hBlank
    simp [partsReport] at hLast

end Tool

end LookingGlass
