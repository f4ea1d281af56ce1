import LookingGlass.Page.Lookup
import LookingGlass.Proofs.Directory.Order
import Mathlib.Data.List.Basic

/-
  Which pages can be written: all but those that offer a text
  in which half of a pair stands alone. That depends on the
  directory only, and on its instances only where they are on
  offer.

  Main declarations:
    * `Directory.OffersHalf`
    * `Form.page?_eq_none_iff`
-/

namespace LookingGlass

open Text (Wide Wording)

variable {T : Type} [Wording T]

/-
  Whether a directory offers a text with a lone half: the client
  name of a router or, if there are different instances to
  choose from, a distinguisher or a label of one of them.
-/
def Directory.OffersHalf
    (d : Directory T) : Prop :=
  (∃ router ∈ d.routers, (Wording.wide router.clientName).HoldsHalf) ∨
  ((∃ r s, d.Lists r ∧ d.Lists s ∧ r ≠ s) ∧
    ∃ entry, d.Lists entry ∧
      ((Wording.wide entry.rd).HoldsHalf ∨
        (Wording.wide entry.label).HoldsHalf))

------------------------------------------------------------
-- Choices
------------------------------------------------------------

namespace Choice

/- Whether a choice has a lone half in it. -/
def HoldsHalf
    (choice : Choice T) : Prop :=
  (Wording.wide choice.value).HoldsHalf ∨
    (Wording.wide choice.label).HoldsHalf

theorem string?_eq_none_iff
    {choice : Choice T} :
    choice.string? = none ↔ choice.HoldsHalf := by
  unfold HoldsHalf
  rw [← Wide.string?_eq_none_iff, ← Wide.string?_eq_none_iff, string?]
  change _ ↔ Wording.string? choice.value = none ∨
    Wording.string? choice.label = none
  cases Wording.string? choice.value with
  | none => simp
  | some value =>
      cases Wording.string? choice.label <;> simp

theorem mapM_string?_eq_none_iff
    {choices : List (Choice T)} :
    choices.mapM string? = none ↔
      ∃ choice ∈ choices, choice.HoldsHalf := by
  induction choices with
  | nil => simp
  | cons choice rest ih =>
      rw [List.exists_mem_cons_iff, ← ih, ← string?_eq_none_iff,
        List.mapM_cons]
      cases choice.string? with
      | none => simp
      | some first => cases rest.mapM string? <;> simp

/- A router is offered by its name, with a word in front of it. -/
theorem holdsHalf_routerChoice_iff
    {clientName : T} :
    (routerChoice clientName).HoldsHalf ↔
      (Wording.wide clientName).HoldsHalf := by
  unfold HoldsHalf routerChoice
  simp only [Wording.wide_append, Wording.wide_ofString,
    Wide.holdsHalf_append, Wide.not_holdsHalf_ofString, false_or,
    or_self]

/- What is offered under words only has no half. -/
theorem not_holdsHalf_words
    (value label : String) :
    ¬ HoldsHalf
        (⟨Wording.ofString value, Wording.ofString label⟩ :
          Choice T) := by
  unfold HoldsHalf
  simp only [Wording.wide_ofString, Wide.not_holdsHalf_ofString,
    or_self, not_false_eq_true]

end Choice

------------------------------------------------------------
-- Forms
------------------------------------------------------------

namespace Form

theorem exists_holdsHalf_routers_iff
    {form : Form T} :
    (∃ choice ∈ form.routers, choice.HoldsHalf) ↔
      ∃ router ∈ form.directory.routers,
        (Wording.wide router.clientName).HoldsHalf := by
  have hAll : ¬ (allRoutersChoice : Choice T).HoldsHalf :=
    Choice.not_holdsHalf_words allRouters "on all"
  rw [routers, routerChoices, List.exists_mem_cons_iff,
    or_iff_right hAll]
  constructor
  · rintro ⟨choice, hChoice, hHalf⟩
    rcases List.mem_map.mp hChoice with ⟨name, hName, rfl⟩
    rw [List.mem_eraseDups] at hName
    rcases List.mem_map.mp hName with ⟨router, hRouter, rfl⟩
    exact ⟨router, hRouter, Choice.holdsHalf_routerChoice_iff.mp hHalf⟩
  · rintro ⟨router, hRouter, hHalf⟩
    refine ⟨routerChoice router.clientName, ?_,
      Choice.holdsHalf_routerChoice_iff.mpr hHalf⟩
    apply List.mem_map_of_mem
    rw [List.mem_eraseDups]
    exact List.mem_map_of_mem hRouter

theorem exists_holdsHalf_instances_iff
    {form : Form T} :
    (∃ choice ∈ form.instances, choice.HoldsHalf) ↔
      (∃ r s, form.directory.Lists r ∧ form.directory.Lists s ∧
          r ≠ s) ∧
        ∃ entry, form.directory.Lists entry ∧
          ((Wording.wide entry.rd).HoldsHalf ∨
            (Wording.wide entry.label).HoldsHalf) := by
  have hDefault : ¬ (defaultInstanceChoice : Choice T).HoldsHalf :=
    Choice.not_holdsHalf_words defaultInstance "default instance"
  have hDiffer :
      form.offersInstances = true ↔
        ∃ r s, form.directory.Lists r ∧ form.directory.Lists s ∧
          r ≠ s := by
    rw [offersInstances_iff_differ]
    simp only [Directory.mem_instances_iff]
    exact ⟨fun ⟨r, hr, s, hs, hNe⟩ => ⟨r, s, hr, hs, hNe⟩,
      fun ⟨r, s, hr, hs, hNe⟩ => ⟨r, hr, s, hs, hNe⟩⟩
  rw [← hDiffer]
  by_cases hOffers : form.offersInstances = true
  · rw [instances_of_offersInstances hOffers,
      List.exists_mem_cons_iff, or_iff_right hDefault,
      and_iff_right hOffers]
    constructor
    · rintro ⟨choice, hChoice, hHalf⟩
      rcases List.mem_map.mp hChoice with ⟨entry, hEntry, rfl⟩
      exact ⟨entry, Directory.mem_distinctInstances_iff.mp hEntry,
        hHalf⟩
    · rintro ⟨entry, hEntry, hHalf⟩
      exact ⟨_, List.mem_map_of_mem
        (Directory.mem_distinctInstances_iff.mpr hEntry), hHalf⟩
  · have hNone : form.instances = [] := by
      simpa [offersInstances] using hOffers
    simp [hNone, hOffers]

/- There is no page exactly if a text with a half is on offer. -/
theorem page?_eq_none_iff
    {form : Form T} :
    form.page? = none ↔ form.directory.OffersHalf := by
  rw [Directory.OffersHalf, ← exists_holdsHalf_routers_iff,
    ← exists_holdsHalf_instances_iff,
    ← Choice.mapM_string?_eq_none_iff,
    ← Choice.mapM_string?_eq_none_iff, page?, Option.map_eq_none_iff,
    screen?]
  cases form.routers.mapM Choice.string? with
  | none => simp
  | some routers =>
      cases form.instances.mapM Choice.string? <;> simp

end Form

end LookingGlass
