import LookingGlass.Page.Lookup
import LookingGlass.Proofs.Page.Controls
import LookingGlass.Proofs.Query.Link

/-
  What the lookup page of a form shows: its markup is read
  without a loss, whatever the texts of the directory and of
  the query are, and the controls that a browser finds in it
  determine the current query.

  Main declarations:
    * `Page.readable_lookup`
    * `Form.controls`
    * `Form.controls_page`
    * `Form.current_eq_of_page_eq`
-/

namespace LookingGlass

namespace Page

------------------------------------------------------------
-- Readable Parts
------------------------------------------------------------

theorem Readable.flatMap
    {α : Type}
    {f : α → List Token}
    (hEach : ∀ a, Readable (f a))
    (as : List α) :
    Readable (as.flatMap f) := by
  induction as with
  | nil => exact .nil
  | cons a as ih =>
      rw [List.flatMap_cons]
      exact (hEach a).append ih

theorem readable_choice
    (selected : String)
    (c : Choice) :
    Readable (choice selected c) := by
  apply Readable.of_all
  unfold choice
  split <;> rfl

theorem readable_select
    (screen : Screen)
    {name id : String}
    (selected : String)
    (choices : List Choice) :
    Readable (select screen name id selected choices) := by
  have hStart :
      Readable
        [.opening "select"
          [.valued "name" name, .valued "id" id,
            optionally screen.autoSubmit
              (.valued "onchange" "this.form.submit()")],
          line 3] := by
    apply Readable.of_all
    cases screen.autoSubmit <;> rfl
  have hChoices :
      Readable (choices.flatMap fun c =>
        line 3 :: choice selected c ++ [line 3]) := by
    apply Readable.flatMap
    intro c
    exact .cons rfl
      ((readable_choice selected c).append (.of_all rfl))
  exact (hStart.append hChoices).append (.of_all rfl)

theorem readable_instanceSelect
    (screen : Screen) :
    Readable (instanceSelect screen) := by
  unfold instanceSelect
  split
  case isTrue =>
    exact .cons rfl
      ((readable_select screen _ _).append (.of_all rfl))
  case isFalse => exact .nil

theorem readable_form
    (screen : Screen) :
    Readable (Page.form screen) := by
  have hModes :
      Readable
        (select screen Form.modeField "query-mode"
          screen.current.mode.name modeChoices) :=
    readable_select screen _ _
  have hRouters :
      Readable
        (select screen Form.routerField "router-sel"
          screen.current.router screen.routers) :=
    readable_select screen _ _
  refine .append ?_ (.of_all rfl)
  refine .append ?_ (readable_instanceSelect screen)
  refine .append ?_ (.of_all rfl)
  refine .append ?_ hRouters
  refine .append ?_ (.of_all rfl)
  exact .append (.of_all rfl) hModes

theorem readable_currentLink
    (screen : Screen) :
    Readable (currentLink screen) := by
  unfold currentLink
  split
  case isTrue => exact .nil
  case isFalse => exact .of_all rfl

/- The head of the page is the only part with a script. -/
theorem readable_head :
    Readable head := by
  have hScript :
      Readable
        [.opening Reader.scriptName [], .verbatim script,
          .closing Reader.scriptName, line 0, .closing "head"] :=
    .script (by decide +kernel) (.of_all rfl)
  have hSplit :
      head = head.take 8 ++
        [.opening Reader.scriptName [], .verbatim script,
          .closing Reader.scriptName, line 0, .closing "head"] :=
    rfl
  rw [hSplit]
  exact .append (.of_all rfl) hScript

/- A lookup page can be read, whatever texts it holds. -/
theorem readable_lookup
    (screen : Screen) :
    Readable (lookup screen) := by
  refine .append ?_ (.of_all rfl)
  refine .append ?_ (readable_currentLink screen)
  refine .append ?_ (.of_all rfl)
  refine .append ?_ (readable_form screen)
  refine .append ?_ (.of_all rfl)
  exact .append (.of_all rfl) readable_head

------------------------------------------------------------
-- Screens of forms
------------------------------------------------------------

theorem instanceSelect_screen
    (form : Form) :
    instanceSelect form.screen =
      if form.offersInstances then
        line 2 ::
          select form.screen Form.instanceField "table-sel"
            form.selectedInstance form.instances ++
          [line 2]
      else [] :=
  rfl

theorem currentLink_screen
    (form : Form) :
    currentLink form.screen =
      if form.current.value.isEmpty ∧
          form.current.filters.isEmpty then []
      else
        [line 1, .opening "p" [],
          .opening "a" [.valued "href" form.current.lookupUrl],
          .text "Link to this lookup", .closing "a", .closing "p",
          line 1] :=
  rfl

/- Names of characters can be shown, so there is always a page. -/
theorem screen?_eq
    (form : Form) :
    form.screen? = some form.screen := by
  have hChoices (choices : List Choice) :
      choices.mapM Choice.string? = some choices := by
    induction choices with
    | nil => rfl
    | cons choice rest ih =>
        have hFirst : choice.string? = some choice := by
          simp [Choice.string?]
        simp [hFirst, ih]
  simp [Form.screen?, Form.screen, hChoices]

theorem page?_eq
    (form : Form) :
    form.page? = some form.page := by
  rw [Form.page?, screen?_eq, Form.page, Option.map_some]

------------------------------------------------------------
-- Controls
------------------------------------------------------------

/- The options of a select, as a browser finds them. -/
def offersOf
    (selected : String)
    (choices : List Choice) : List Offer :=
  choices.map fun c => ⟨c.value, c.value = selected⟩

namespace Outline

@[simp] theorem push?_line
    (depth : Nat) :
    push? (line depth) = some :=
  rfl

theorem behind_choice
    (selected : String)
    (c : Choice)
    (outline : Outline) :
    behind (choice selected c) (some outline) =
      some { outline with
        offers :=
          ⟨c.value, c.value = selected⟩ :: outline.offers } := by
  by_cases hMark : c.value = selected <;>
    simp [choice, push?, open?, isMarked, hMark]

theorem behind_choices
    (selected : String)
    (choices : List Choice)
    (outline : Outline) :
    behind (choices.flatMap fun c =>
        line 3 :: choice selected c ++ [line 3]) (some outline) =
      some { outline with
        offers := offersOf selected choices ++ outline.offers } := by
  induction choices with
  | nil => rfl
  | cons c rest ih =>
      rw [List.flatMap_cons, behind_append, ih]
      simp [behind_choice, offersOf]

/- A select is one control, whatever stands behind it. -/
@[simp] theorem behind_select
    (screen : Screen)
    (name id selected : String)
    (choices : List Choice)
    (outline : Outline) :
    behind (select screen name id selected choices) (some outline) =
      some
        { controls :=
            .select (some name) (offersOf selected choices) ::
              outline.controls } := by
  have hEnd :
      behind [line 2, .closing "select"] (some outline) =
        some { outline with offers := [] } := by
    simp [push?]
  rw [select, behind_append, behind_append, hEnd, behind_choices]
  simp [push?, open?]

end Outline

end Page

namespace Form

open Page (Control Outline)

/- The link to a query, if it asks for something. -/
def links
    (q : Query) : List Control :=
  if q.value.isEmpty ∧ q.filters.isEmpty then []
  else [.link (some q.lookupUrl)]

/- The controls of a form's page, in their order. -/
def controls
    (form : Form) : List Control :=
  [.select (some modeField)
      (Page.offersOf form.current.mode.name Page.modeChoices),
    .input (some valueField) (some "text") form.current.value,
    .select (some routerField)
      (Page.offersOf form.current.router form.routers)] ++
  (if form.offersInstances then
    [.select (some instanceField)
      (Page.offersOf form.selectedInstance form.instances)]
  else []) ++
  .input none (some "submit") "Go" :: links form.current

/- A browser finds these controls, and no others. -/
theorem controls_page
    (form : Form) :
    Page.controls form.page = some form.controls := by
  rw [page, Page.controls_print (Page.readable_lookup form.screen)]
  unfold Page.lookup Page.form controls links
  rw [Page.currentLink_screen, Page.instanceSelect_screen]
  split <;> split <;>
    simp [Page.head, Page.valueInput, Outline.push?,
      Outline.open?, Outline.foreign]

------------------------------------------------------------
-- Current Queries
------------------------------------------------------------

/- The marks in the select for the mode tell modes apart. -/
theorem mode_eq_of_offers_eq
    {m n : Mode}
    (hOffers :
      Page.offersOf m.name Page.modeChoices =
        Page.offersOf n.name Page.modeChoices) :
    m = n := by
  cases m <;> cases n <;> first
    | rfl
    | exact absurd hOffers (by decide)

/- What is not the mode of a query is in its link. -/
theorem eq_of_links_eq
    {p q : Query}
    (hMode : p.mode = q.mode)
    (hLinks : links p = links q) :
    p = q := by
  unfold links at hLinks
  split at hLinks <;> split at hLinks
  case isTrue.isTrue hFirst hSecond =>
    simp only [String.isEmpty_iff, List.isEmpty_iff,
      Query.filters_eq_nil_iff] at hFirst hSecond
    exact Query.eq_of_parts hMode (by simp [hFirst, hSecond])
      (by simp [hFirst, hSecond]) (by simp [hFirst, hSecond])
  case isTrue.isFalse => cases hLinks
  case isFalse.isTrue => cases hLinks
  case isFalse.isFalse =>
    simp only [List.cons.injEq, Control.link.injEq,
      Option.some.injEq, and_true] at hLinks
    have hLink : p.link = q.link := by
      simpa [Query.lookupUrl, Query.link] using hLinks
    rcases (Query.settled_eq_iff p q).mp
        ((Query.link_eq_iff p q).mp hLink) with
      ⟨hValue, hRouter, hInstance, _⟩
    exact Query.eq_of_parts hMode hValue hRouter hInstance

/-
  The page of a form shows its current query, and no other one:
  the mode is marked in its select, and the rest is in the link.
-/
theorem current_eq_of_page_eq
    {f g : Form}
    (hDirectory : f.directory = g.directory)
    (hPage : f.page = g.page) :
    f.current = g.current := by
  have hOffers : f.offersInstances = g.offersInstances := by
    simp only [offersInstances, instances, hDirectory]
  have hControls : f.controls = g.controls := by
    have hRead := congrArg Page.controls hPage
    rw [controls_page, controls_page] at hRead
    exact Option.some.inj hRead
  unfold controls at hControls
  rw [hOffers] at hControls
  have hParts :
      Page.offersOf f.current.mode.name Page.modeChoices =
          Page.offersOf g.current.mode.name Page.modeChoices ∧
        links f.current = links g.current := by
    split at hControls <;> simp_all
  exact eq_of_links_eq (mode_eq_of_offers_eq hParts.1) hParts.2

end Form

end LookingGlass
