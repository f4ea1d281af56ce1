import LookingGlass.Proofs.Directory.Order
import LookingGlass.Tool.Commands
import LookingGlass.Web.Application

/-
  The programs keep names as wide texts. Names may as well be
  kept as texts of any other kind: a directory in which they are
  offers the same choices, and so the application gives the same
  answers and the commands print the same.

  Main declarations:
    * `eraseDups_map`
    * `Directory.distinctInstances_wide`
    * `Form.wide` and `Form.screen?_wide`
    * `Application.wide` and `Application.answer_wide`
    * `Command.run_wide`
-/

namespace LookingGlass

open Text (Wide Wording)

variable {T : Type} [Wording T]

------------------------------------------------------------
-- Names
------------------------------------------------------------

/- First appearances are the same under other names. -/
theorem eraseDups_map
    {α β : Type}
    [DecidableEq α] [DecidableEq β]
    {f : α → β}
    (hf : ∀ a b, f a = f b → a = b)
    (xs : List α) :
    (xs.map f).eraseDups = xs.eraseDups.map f := by
  match xs with
  | [] => simp
  | x :: rest =>
    have hKept :
        (rest.map f).filter (fun b => !b == f x) =
          (rest.filter fun a => !a == x).map f := by
      rw [List.filter_map]
      congr 1
      apply List.filter_congr
      intro a _
      by_cases hSame : a = x
      · simp [hSame]
      · have hOther : f a ≠ f x := fun hImage => hSame (hf a x hImage)
        simp [beq_false_of_ne hSame, beq_false_of_ne hOther]
    rw [List.map_cons, List.eraseDups_cons, List.eraseDups_cons,
      hKept, List.map_cons,
      eraseDups_map hf (rest.filter fun a => !a == x)]
termination_by xs.length
decreasing_by exact Nat.lt_succ_of_le (List.length_filter_le ..)

------------------------------------------------------------
-- Directories
------------------------------------------------------------

namespace RoutingInstance

theorem before_wide_iff
    {r s : RoutingInstance T} :
    Before r.wide s.wide ↔ Before r s := by
  have hName :
      NameBefore r.wide.name s.wide.name ↔
        NameBefore r.name s.name := by
    rcases r with ⟨rd, name⟩
    rcases s with ⟨other, last⟩
    cases name <;> cases last <;> rfl
  unfold Before
  rw [hName]
  exact or_congr Iff.rfl (and_congr_left' Wording.wide_eq_iff)

theorem label_wide
    (r : RoutingInstance T) :
    r.wide.label = Wording.wide r.label := by
  rcases r with ⟨rd, name⟩
  cases name <;> rfl

end RoutingInstance

namespace Directory

theorem lists_wide_iff
    {d : Directory T}
    {entry : RoutingInstance Wide} :
    d.wide.Lists entry ↔ ∃ r, d.Lists r ∧ r.wide = entry := by
  constructor
  · intro hLists
    rcases hLists with ⟨group, hGroup, hEntry⟩
    rcases List.mem_map.mp hGroup with ⟨found, hFound, rfl⟩
    rcases List.mem_map.mp hEntry with ⟨r, hr, rfl⟩
    exact ⟨r, ⟨found, hFound, hr⟩, rfl⟩
  · intro hLists
    rcases hLists with ⟨r, ⟨group, hGroup, hr⟩, rfl⟩
    exact ⟨_, List.mem_map_of_mem hGroup, List.mem_map_of_mem hr⟩

/- The instances of a directory come in the same order. -/
theorem distinctInstances_wide
    (d : Directory T) :
    d.wide.distinctInstances =
      d.distinctInstances.map RoutingInstance.wide := by
  apply eq_of_pairwise_before
  · exact d.wide.pairwise_distinctInstances
  · rw [List.pairwise_map]
    apply d.pairwise_distinctInstances.imp
    intro r s hBefore
    exact RoutingInstance.before_wide_iff.mpr hBefore
  · intro entry
    simp only [mem_distinctInstances_iff, lists_wide_iff,
      List.mem_map]

end Directory

------------------------------------------------------------
-- Forms
------------------------------------------------------------

namespace Form

/- A form with its names as wide texts. -/
def wide
    (form : Form T) : Form Wide :=
  { directory := form.directory.wide
    current := form.current
    autoSubmit := form.autoSubmit }

/- A choice with its texts as wide ones. -/
def wideChoice
    (choice : Choice T) : Choice Wide :=
  ⟨Wording.wide choice.value, Wording.wide choice.label⟩

/- Words are the same words in texts of another kind. -/
theorem wideChoice_words
    (value label : String) :
    wideChoice
        (⟨Wording.ofString value, Wording.ofString label⟩ :
          Choice T) =
      ⟨Wording.ofString value, Wording.ofString label⟩ := by
  rw [wideChoice, Wording.wide_ofString, Wording.wide_ofString]
  rfl

theorem wideChoice_routerChoice
    (clientName : T) :
    wideChoice (routerChoice clientName) =
      routerChoice (Wording.wide clientName) := by
  rw [wideChoice, routerChoice, Wording.wide_append,
    Wording.wide_ofString]
  rfl

theorem routers_wide
    (form : Form T) :
    form.wide.routers = form.routers.map wideChoice := by
  have hNames :
      form.wide.directory.routers.map Router.clientName =
        (form.directory.routers.map Router.clientName).map
          Wording.wide := by
    simp [wide, Directory.wide, Router.wide]
  rw [routers, routerChoices, hNames,
    eraseDups_map fun _ _ => Wording.wide_injective, routers,
    routerChoices, List.map_cons, List.map_map, List.map_map,
    allRoutersChoice, allRoutersChoice, wideChoice_words]
  congr 1
  apply List.map_congr_left
  intro clientName _
  exact (wideChoice_routerChoice clientName).symm

theorem instances_wide
    (form : Form T) :
    form.wide.instances = form.instances.map wideChoice := by
  have hDistinct :
      form.wide.directory.distinctInstances =
        form.directory.distinctInstances.map RoutingInstance.wide :=
    form.directory.distinctInstances_wide
  have hChoices :
      instanceChoices form.wide.directory.distinctInstances =
        (instanceChoices form.directory.distinctInstances).map
          wideChoice := by
    rw [hDistinct, instanceChoices, instanceChoices, List.length_map]
    split
    case isTrue => rfl
    case isFalse =>
      rw [List.map_map, List.map_map]
      apply List.map_congr_left
      intro entry _
      exact congrArg _ entry.label_wide
  rw [instances, hChoices, instances]
  cases instanceChoices form.directory.distinctInstances with
  | nil => rfl
  | cons choice rest =>
      simp only [List.map_cons, defaultInstanceChoice,
        wideChoice_words]

theorem offersInstances_wide
    (form : Form T) :
    form.wide.offersInstances = form.offersInstances := by
  rw [offersInstances, instances_wide, List.isEmpty_map]
  rfl

theorem mapM_string?_wide
    (choices : List (Choice T)) :
    (choices.map wideChoice).mapM Choice.string? =
      choices.mapM Choice.string? := by
  rw [List.mapM_map]
  rfl

/- The same is shown, if it can be shown at all. -/
theorem screen?_wide
    (form : Form T) :
    form.wide.screen? = form.screen? := by
  rw [screen?, routers_wide, instances_wide, mapM_string?_wide,
    mapM_string?_wide]
  rfl

end Form

------------------------------------------------------------
-- Applications
------------------------------------------------------------

namespace Web.Application

/- An application with its names as wide texts. -/
def wide
    (app : Application T) : Application Wide :=
  { directory := app.directory.wide
    settings := app.settings
    refusesBytes := app.refusesBytes }

/- Every request is answered in the same way. -/
theorem answer_wide
    (app : Application T)
    (request : Request) :
    app.wide.answer request = app.answer request := by
  have hPage (current : Query) :
      app.wide.page current = app.page current := by
    have hScreen :
        (app.wide.form current).screen? =
          (app.form current).screen? :=
      (app.form current).screen?_wide
    rw [page, page, Form.page?, Form.page?, hScreen]
  have hSubmit :
      (app.wide.form .empty).submit request.fields =
        (app.form .empty).submit request.fields := by
    have hOffers :
        (app.wide.form .empty).offersInstances =
          (app.form .empty).offersInstances :=
      (app.form .empty).offersInstances_wide
    rw [Form.submit, Form.submit, Form.query, Form.query, hOffers]
  have hServe (endpoint : Endpoint) :
      app.wide.serve request endpoint =
        app.serve request endpoint := by
    cases endpoint with
    | index => exact hPage .empty
    | lookup path =>
        simp only [serve, lookup, hPage]
    | search =>
        simp only [serve, search, hSubmit]
        rfl
    | file name => rfl
  unfold answer fullAnswer handle
  simp only [hServe]

end Web.Application

------------------------------------------------------------
-- Commands
------------------------------------------------------------

namespace Tool

theorem instanceRow_wide
    (entry : RoutingInstance T) :
    instanceRow entry.wide = instanceRow entry := by
  have hType :
      RouteDistinguisher.typeNameOf? entry.wide.rd =
        RouteDistinguisher.typeNameOf? entry.rd :=
    rfl
  rw [instanceRow, instanceRow, hType, entry.label_wide]
  rfl

/- Every command comes to the same. -/
theorem Command.run_wide
    (directory : Directory T)
    (command : Command) :
    command.run directory.wide = command.run directory := by
  cases command with
  | routers =>
      have hRows :
          directory.wide.routers.map routerRow =
            directory.routers.map routerRow := by
        rw [Directory.wide, List.map_map]
        rfl
      rw [run, run, listRouters, listRouters, hRows]
  | instances =>
      rw [run, run, listInstances, listInstances,
        Directory.distinctInstances_wide, List.map_map]
      congr 1
      apply List.map_congr_left
      intro entry _
      exact instanceRow_wide entry
  | query options =>
      have hOffers :
          ({ directory := directory.wide } : Form Wide).offersInstances =
            ({ directory } : Form T).offersInstances :=
        ({ directory } : Form T).offersInstances_wide
      simp only [run, runQuery, writeQuery, hOffers]
      rfl
  | parse link => rfl

end Tool

end LookingGlass
