import LookingGlass.Proofs.Page.Lookup
import LookingGlass.Proofs.Page.View

/-
  What a lookup page is read as: the parts of its form with all
  texts as they are in the directory and in the query, and a
  frame of tags that no text has a part in.

  Main declarations:
    * `Form.parts`
    * `Form.parts_lookup`
    * `Form.Shape`
    * `Form.frame_lookup`
    * `Form.page_shows_form`
-/

namespace LookingGlass

------------------------------------------------------------
-- Links
------------------------------------------------------------

/- Only a query that asks for nothing has an empty link. -/
theorem Query.link_eq_root_iff
    (q : Query) :
    q.link = "#/" ↔ q.value = "" ∧ q.filters = [] := by
  have hEmpty : Query.empty.link = "#/" := by decide
  rw [← hEmpty, Query.link_eq_iff, Query.settled_eq_iff,
    Query.filters_eq_nil_iff]
  constructor
  · intro ⟨hValue, hRouter, hInstance, _⟩
    exact ⟨hValue, hRouter, hInstance⟩
  · intro ⟨hValue, hRouter, hInstance⟩
    exact ⟨hValue, hRouter, hInstance, absurd hValue⟩

namespace Page

------------------------------------------------------------
-- Views
------------------------------------------------------------

/- The options of a select, as a reader sees them. -/
def itemsOf
    (selected : String)
    (choices : List Choice) : List Item :=
  choices.map fun c => ⟨c.value, c.label, c.value = selected⟩

/- What choosing does where it submits the form. -/
def submitting : String := "this.form.submit()"

/- What choosing does in a select, if it does anything. -/
def onChange
    (submits : Bool) : Option String :=
  if submits then some submitting else none

namespace View

theorem behind_choice
    (selected : String)
    (c : Choice)
    (view : View) :
    behind (choice selected c) view =
      { view with
        text := ""
        items :=
          ⟨c.value, c.label, c.value = selected⟩ :: view.items } := by
  by_cases hMark : c.value = selected <;>
    simp [choice, push, pushTag, isMarked, hMark]

/- Choices are options in their order; by induction on them. -/
theorem behind_choices
    (selected : String)
    (choices : List Choice)
    (view : View) :
    ∃ text,
      behind (choices.flatMap fun c =>
          line 3 :: choice selected c ++ [line 3]) view =
        { view with
          text
          items := itemsOf selected choices ++ view.items } := by
  induction choices with
  | nil => exact ⟨view.text, rfl⟩
  | cons c rest ih =>
      obtain ⟨text, hRest⟩ := ih
      rw [List.flatMap_cons, behind_append, hRest, behind_append,
        behind_cons, behind_choice]
      exact ⟨_, rfl⟩

/- A select is one part, whatever stands behind it. -/
@[simp] theorem behind_select
    (screen : Screen)
    (name id selected : String)
    (choices : List Choice)
    (view : View) :
    behind (select screen name id selected choices) view =
      { parts :=
          .select (some name) (onChange screen.autoSubmit)
              (itemsOf selected choices) ::
            view.parts } := by
  have hEnd :
      behind [line 2, .closing "select"] view =
        { view with
          text := String.ofList ['\n', '\t', '\t'], items := [] } := by
    simp [push, line]
  obtain ⟨text, hChoices⟩ := behind_choices selected choices
    { view with
      text := String.ofList ['\n', '\t', '\t'], items := [] }
  rw [select, behind_append, behind_append, hEnd, hChoices]
  cases hSubmit : screen.autoSubmit <;>
    simp [push, pushTag, line, optionally, onChange, submitting]

end View

------------------------------------------------------------
-- Marks
------------------------------------------------------------

/- Which of the choices are marked. -/
def marks
    (selected : String)
    (choices : List Choice) : List Bool :=
  choices.map fun c => c.value = selected

/- The frame of an option. -/
def optionFrame
    (isSelected : Bool) : List Token :=
  let mark := if isSelected then [Attribute.bare "selected"] else []
  [.opening "option" (.valued "value" "" :: mark),
    .closing "option"]

/- The frame of a select with as many options as marks. -/
def selectFrame
    (submits : Bool)
    (name id : String)
    (marked : List Bool) : List Token :=
  let onchange :=
    if submits then [Attribute.valued "onchange" submitting] else []
  .opening "select"
      ([.valued "name" name, .valued "id" id] ++ onchange) ::
    marked.flatMap optionFrame ++ [.closing "select"]

theorem frame_choice
    (selected : String)
    (c : Choice) :
    frame (choice selected c) = optionFrame (c.value = selected) := by
  by_cases hMark : c.value = selected <;>
    simp [choice, optionFrame, hMark, Token.frame?, tidy,
      Attribute.blank, filledNames]

theorem frame_choices
    (selected : String)
    (choices : List Choice) :
    frame (choices.flatMap fun c =>
        line 3 :: choice selected c ++ [line 3]) =
      (marks selected choices).flatMap optionFrame := by
  induction choices with
  | nil => rfl
  | cons c rest ih =>
      rw [List.flatMap_cons, frame_append, ih, frame_append]
      simp [frame_choice, marks, line, Token.frame?]

/- The texts of the choices are not in the frame of a select. -/
@[simp] theorem frame_select
    (screen : Screen)
    (name id selected : String)
    (choices : List Choice) :
    frame (select screen name id selected choices) =
      selectFrame screen.autoSubmit name id
        (marks selected choices) := by
  rw [select, frame_append, frame_append, frame_choices]
  cases hSubmit : screen.autoSubmit <;>
    simp [selectFrame, Token.frame?, line, tidy, optionally,
      Attribute.blank, filledNames, submitting]

end Page

namespace Form

open Page (Item Part Token)

------------------------------------------------------------
-- Parts
------------------------------------------------------------

/- A select of the form, with what its options say. -/
def selectPart
    (form : Form)
    (name : String)
    (items : List Item) : Part :=
  .select (some name) (Page.onChange form.autoSubmit) items

/- The options among the modes: all by name, the current marked. -/
def modeItems
    (current : Mode) : List Item :=
  Mode.all.map fun mode => ⟨mode.name, mode.name, mode = current⟩

/- The parts of a form's page, in their order. -/
def parts
    (form : Form) : List Part :=
  [form.selectPart modeField (modeItems form.current.mode),
    .input (some valueField) (some "text") form.current.value,
    form.selectPart routerField
      (Page.itemsOf form.current.router form.routers)] ++
  (if form.offersInstances then
    [form.selectPart instanceField
      (Page.itemsOf form.selectedInstance form.instances)]
  else []) ++
  .input none (some "submit") "Go" ::
  if form.current.link = "#/" then []
  else [.link (some form.current.lookupUrl) "Link to this lookup"]

/- The page leaves its link out where the query has none. -/
theorem no_link_iff
    (form : Form) :
    (form.current.value.isEmpty ∧ form.current.filters.isEmpty) ↔
      form.current.link = "#/" := by
  rw [Query.link_eq_root_iff]
  simp

/- A mode is marked by its name, which no other mode has. -/
theorem itemsOf_modeChoices
    (current : Mode) :
    Page.itemsOf current.name Page.modeChoices = modeItems current := by
  cases current <;> decide

theorem parts_lookup
    (form : Form) :
    Page.parts (Page.lookup form.screen) = form.parts := by
  unfold Page.lookup Page.form parts
  rw [Page.currentLink_screen, Page.instanceSelect_screen]
  simp only [no_link_iff]
  split <;> split <;>
    simp [Page.parts, Page.head, Page.valueInput, Page.line,
      Page.View.push, Page.View.pushTag, selectPart,
      itemsOf_modeChoices]

------------------------------------------------------------
-- Shapes
------------------------------------------------------------

/-
  All that the tags of a page depend on: which options there
  are and are marked, and which parts are there at all.
-/
structure Shape where
  submits : Bool
  modes : List Bool
  routers : List Bool
  instances : Option (List Bool)
  isLinked : Bool
deriving DecidableEq, Repr

/- The shape of the page of a form. -/
def shape
    (form : Form) : Shape :=
  { submits := form.autoSubmit
    modes := Mode.all.map fun mode => mode = form.current.mode
    routers := Page.marks form.current.router form.routers
    instances :=
      if form.offersInstances then
        some (Page.marks form.selectedInstance form.instances)
      else none
    isLinked := form.current.link ≠ "#/" }

namespace Shape

/- The tags in front of the lookup form. -/
def before : List Token :=
  [.declaration "DOCTYPE html", .opening "html" [],
    .opening "head" [],
    .opening "meta" [.valued "charset" "utf-8"],
    .opening "title" [], .closing "title",
    .opening "script" [], .verbatim Page.script,
    .closing "script", .closing "head", .opening "body" [],
    .opening "form"
      [.valued "id" "input", .valued "method" "post",
        .valued "action" "/search"]]

/- The tag of the input for the value. -/
def valueInput : Token :=
  .single "input"
    [.valued "name" "input-field", .valued "id" "input-field",
      .valued "type" "text", .valued "spellcheck" "false",
      .valued "autocomplete" "off", .valued "autocorrect" "off",
      .valued "autocapitalize" "off",
      .valued "placeholder"
        "Enter an IP address, prefix or DNS name...",
      .valued "value" ""]

/- The tag of the button that submits the form. -/
def submitInput : Token :=
  .single "input"
    [.valued "type" "submit", .valued "id" "input-submit",
      .valued "value" ""]

/- The tags of the link to the current query. -/
def link : List Token :=
  [.opening "p" [], .opening "a" [.valued "href" ""],
    .closing "a", .closing "p"]

/- The tags of a page of some shape; there are no other ones. -/
def frame
    (shape : Shape) : List Token :=
  let instances :=
    match shape.instances with
    | none => []
    | some marked =>
      Page.selectFrame shape.submits "table-sel" "table-sel" marked
  before ++
  Page.selectFrame shape.submits "query-mode" "query-mode"
    shape.modes ++
  [valueInput] ++
  Page.selectFrame shape.submits "router-sel" "router-sel"
    shape.routers ++
  instances ++ [submitInput, .closing "form"] ++
  (if shape.isLinked then link else []) ++
  [.closing "body", .closing "html"]

end Shape

theorem marks_modeChoices
    (current : Mode) :
    Page.marks current.name Page.modeChoices =
      Mode.all.map fun mode => decide (mode = current) := by
  cases current <;> decide

theorem frame_lookup
    (form : Form) :
    Page.frame (Page.lookup form.screen) = form.shape.frame := by
  unfold Page.lookup Page.form shape Shape.frame
  rw [Page.currentLink_screen, Page.instanceSelect_screen]
  simp only [no_link_iff]
  split <;> split <;>
    simp_all [Page.head, Page.valueInput, Page.line, Page.tidy,
      Page.Token.frame?, Page.Attribute.blank, Page.filledNames,
      Shape.before, Shape.valueInput, Shape.submitInput, Shape.link,
      modeField, valueField, routerField, instanceField,
      marks_modeChoices]

------------------------------------------------------------
-- Pages
------------------------------------------------------------

/-
  A lookup page is read as its form: the parts hold the texts of
  the directory and of the query as they are, and the frame only
  depends on the shape of the form, so that no text adds, ends
  or changes a tag. It holds for every setting of submitting.
-/
theorem page_shows_form
    (directory : Directory)
    (current : Query)
    (setting : Json.Value) :
    let form : Form :=
      { directory, current, autoSubmit := setting.isTrue }
    ∃ tokens,
      Page.Reader.read form.page = some tokens ∧
        Page.parts tokens = form.parts ∧
        Page.frame tokens = form.shape.frame := by
  intro form
  refine ⟨Page.gather [] (Page.lookup form.screen), ?_, ?_, ?_⟩
  · exact Page.Reader.read_print (Page.readable_lookup form.screen)
  · rw [Page.parts_gather, parts_lookup]
  · rw [Page.frame_gather, frame_lookup]

end Form

end LookingGlass
