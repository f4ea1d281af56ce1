import LookingGlass.Proofs.Form.Choice
import LookingGlass.Proofs.Query.Submission

/-
  Submitting a form without a change: the query stays as it is,
  but for a routing instance where none is on offer. A link that
  came of a form therefore comes of it again and again.

  Main declarations:
    * `Form.kept`
    * `Form.query_prefilled`
    * `Form.resubmit`
    * `Form.resubmit_link_of_kept`
    * `Form.resubmission_settles`
-/

namespace LookingGlass.Form

open Text (Fields)

variable {T : Type} [Text.Wording T]

------------------------------------------------------------
-- Prefilled Fields
------------------------------------------------------------

section Prefilled

variable (form : Form T)

theorem first?_mode_prefilled :
    form.prefilled.first? modeField =
      some form.current.mode.name := by
  simp [prefilled, Fields.first?]

theorem first?_value_prefilled :
    form.prefilled.first? valueField = some form.current.value := by
  simp [prefilled, Fields.first?, List.lookup_cons, modeField,
    valueField]

theorem first?_router_prefilled :
    form.prefilled.first? routerField =
      some form.current.router := by
  simp [prefilled, Fields.first?, List.lookup_cons, modeField,
    valueField, routerField]

/- The instance is only a field where there is a selector. -/
theorem first?_instance_prefilled :
    form.prefilled.first? instanceField =
      if form.offersInstances then some form.selectedInstance
      else none := by
  cases hOffers : form.offersInstances <;>
    simp [prefilled, hOffers, Fields.first?, List.lookup_cons,
      modeField, valueField, routerField, instanceField]

end Prefilled

------------------------------------------------------------
-- Kept Queries
------------------------------------------------------------

/- What a form keeps of a query: no instance without a selector. -/
def kept
    (form : Form T)
    (q : Query) : Query :=
  if form.offersInstances then q
  else
    { q with
      rd := none
      rd_ne_default := (Option.some_ne_none _).symm }

theorem kept_eq_self_iff
    {form : Form T}
    {q : Query} :
    form.kept q = q ↔ form.offersInstances = true ∨ q.rd = none := by
  rw [kept]
  split
  case isTrue hOffers => simp [hOffers]
  case isFalse hOffers =>
    rw [Bool.not_eq_true] at hOffers
    simp only [hOffers, Bool.false_eq_true, false_or]
    constructor
    · intro hEq
      exact (congrArg Query.rd hEq).symm
    · intro hNone
      exact Query.eq_of_parts rfl rfl rfl hNone.symm

/- Settling a query has nothing to do with its instance. -/
theorem kept_settled
    {form : Form T}
    {q : Query}
    (hKept : form.kept q = q) :
    form.kept q.settled = q.settled := by
  rw [kept_eq_self_iff] at hKept ⊢
  rwa [Query.settled_rd]

omit [Text.Wording T] in
/- The selected instance is that of the query, or stands for it. -/
theorem make_selectedInstance
    (form : Form T)
    (mode : Mode)
    (value router : String) :
    Query.make mode value router (some form.selectedInstance) =
      .make mode value router form.current.rd := by
  refine Query.eq_of_parts (by simp) (by simp) (by simp) ?_
  have hDefault := form.current.rd_ne_default
  rw [Query.rd_make, Query.rd_make, selectedInstance,
    if_neg hDefault]
  cases hInstance : form.current.rd with
  | none => exact if_pos rfl
  | some rd => exact if_neg (hInstance ▸ hDefault)

/- An unchanged form asks for what it keeps of its query. -/
theorem query_prefilled
    (form : Form T) :
    form.query form.prefilled = .ok (form.kept form.current) := by
  rw [form.query_of_mode form.first?_mode_prefilled,
    first?_value_prefilled, first?_router_prefilled,
    first?_instance_prefilled, kept]
  cases form.offersInstances with
  | false => rfl
  | true =>
      simp only [if_true, Option.getD_some, make_selectedInstance,
        Query.make_rd]

/- What a form is asked for is something that it keeps. -/
theorem kept_of_query
    {form : Form T}
    {fields : Fields}
    {q : Query}
    (hQuery : form.query fields = .ok q) :
    form.kept q = q := by
  rw [kept_eq_self_iff]
  rcases (read fields).query_cases form.offersInstances with
    ⟨mode, _, hOk⟩ | ⟨_, hError⟩
  · cases hQuery.symm.trans hOk
    cases form.offersInstances with
    | false =>
        right
        rw [Query.rd_make]
        rfl
    | true => exact Or.inl rfl
  · cases hQuery.symm.trans hError

------------------------------------------------------------
-- Resubmission
------------------------------------------------------------

/- Submits the form of a link as it is. -/
def resubmit
    (directory : Directory T)
    (autoSubmit : Bool)
    (link : String) : Except Query.Error String := do
  let form ← ofLink directory link autoSubmit
  form.submit form.prefilled

/- Submits so many times, each time the form of the last link. -/
def resubmitTimes
    (directory : Directory T)
    (autoSubmit : Bool) :
    Nat → String → Except Query.Error String
  | 0, link => .ok link
  | n + 1, link => do
    let next ← resubmit directory autoSubmit link
    resubmitTimes directory autoSubmit n next

section Links

variable {form : Form T}
variable {q : Query}
variable (autoSubmit : Bool)

/-
  One step: the link of a query that the form keeps comes of
  itself. The mode of a query without a value has got lost in
  the link, which is why the settled query comes in.
-/
theorem resubmit_link_of_kept
    (hKept : form.kept q = q) :
    resubmit form.directory autoSubmit q.link = .ok q.link := by
  let again : Form T :=
    { directory := form.directory, current := q.settled, autoSubmit }
  have hAgain :
      ofLink form.directory q.link autoSubmit = .ok again := by
    rw [ofLink, Query.ofLink_link]
    rfl
  have hSettled : again.kept q.settled = q.settled :=
    kept_settled hKept
  have hSubmit : again.submit again.prefilled = .ok q.link := by
    rw [submit, query_prefilled, hSettled, Except.map,
      Query.link_settled]
  rw [resubmit, hAgain]
  exact hSubmit

/- And so does it after any number of steps. -/
theorem resubmitTimes_link_of_kept
    (hKept : form.kept q = q)
    (n : Nat) :
    resubmitTimes form.directory autoSubmit n q.link =
      .ok q.link := by
  induction n with
  | zero => rfl
  | succ n ih =>
      rw [resubmitTimes, resubmit_link_of_kept autoSubmit hKept]
      exact ih

end Links

/-
  A form that is submitted as it is asks for its own query, but
  for a routing instance that the form does not offer. A link
  that a form was submitted for, with any fields that name a
  mode or none, is what every later form is submitted for when
  it is left as it is.
-/
theorem resubmission_settles
    (directory : Directory T)
    (autoSubmit : Bool) :
    (∀ q : Query,
      let form : Form T := { directory, current := q, autoSubmit }
      form.query form.prefilled =
        .ok (if form.offersInstances then q
          else
            { q with
              rd := none
              rd_ne_default := (Option.some_ne_none _).symm })) ∧
    ∀ fields : Fields,
      (∀ name, fields.first? modeField = some name →
        name ∈ Mode.all.map Mode.name) →
      ∃ link,
        ({ directory, autoSubmit } : Form T).submit fields =
            .ok link ∧
          ∀ n, resubmitTimes directory autoSubmit n link =
            .ok link := by
  constructor
  · intro q form
    exact form.query_prefilled
  · intro fields hMode
    let form : Form T := { directory, autoSubmit }
    have hNamed :
        ∃ mode : Mode, mode.name = (read fields).mode := by
      cases hFirst : fields.first? modeField with
      | none => exact ⟨.fallback, by simp [read, hFirst]⟩
      | some name =>
          have hName := Mode.mem_names_iff.mp (hMode name hFirst)
          simpa [read, hFirst] using hName
    rcases (read fields).query_cases form.offersInstances with
      ⟨mode, _, hOk⟩ | ⟨hNames, _⟩
    · have hQuery : form.query fields = .ok _ := hOk
      refine ⟨_, congrArg (Except.map Query.link) hQuery, ?_⟩
      intro n
      exact resubmitTimes_link_of_kept autoSubmit
        (kept_of_query hQuery) n
    · obtain ⟨mode, hName⟩ := hNamed
      exact absurd hName (hNames mode)

/- Fields that name no mode, but an empty distinguisher. -/
def blankFields : Fields :=
  [(valueField, ""), (instanceField, "")]

theorem resubmission_settles_blankFields :
    blankFields.first? modeField = none ∧
      ({ directory := sharedNames } : Form).submit blankFields =
        .ok "#/?route_distinguisher=" ∧
      ∀ n,
        resubmitTimes sharedNames true n "#/?route_distinguisher=" =
          .ok "#/?route_distinguisher=" := by
  have hNone : blankFields.first? modeField = none := by
    decide
  have hOffers :
      ({ directory := sharedNames } : Form).offersInstances = true :=
    offersInstances_iff.mpr (by decide)
  have hBlank :
      (Query.make .fallback "" allRouters (some "")).link =
        "#/?route_distinguisher=" := by
    decide +kernel
  have hSubmit :
      ({ directory := sharedNames } : Form).submit blankFields =
        .ok "#/?route_distinguisher=" := by
    rw [submit, query, hOffers]
    exact congrArg Except.ok hBlank
  obtain ⟨link, hLink, hTimes⟩ :=
    (resubmission_settles sharedNames true).2 blankFields
      (by simp [hNone])
  cases hSubmit.symm.trans hLink
  exact ⟨hNone, hSubmit, hTimes⟩

end LookingGlass.Form
