import LookingGlass.Form.Basic
import LookingGlass.Page.Markup

/-
  This file defines the lookup page: the form with its current
  selection, and a link to the current query.

  A page is sent in characters, so there is none of a form that
  offers a name which is not of characters only.

  Key definitions include:
    * `Page.Screen`
    * `Page.choice`
    * `Page.select`
    * `Page.form`
    * `Page.lookup`
    * `Form.screen?`
    * `Form.page`
    * `Form.page?`
-/

namespace LookingGlass

open LookingGlass.Text (Wording)

namespace Page

------------------------------------------------------------
-- Screens
------------------------------------------------------------

/- What a page shows of a form. -/
structure Screen where
  current : Query
  autoSubmit : Bool
  routers : List Choice
  instances : List Choice
deriving Repr

namespace Screen

/- Whether routing instances are on offer. -/
def offersInstances
    (screen : Screen) : Bool :=
  !screen.instances.isEmpty

/- The value of the selected routing instance. -/
def selectedInstance
    (screen : Screen) : String :=
  screen.current.rd.getD defaultInstance

end Screen

------------------------------------------------------------
-- Layout
------------------------------------------------------------

/- A line feed and tabulators in front of the next token. -/
def line
    (depth : Nat) : Token :=
  .text (String.ofList ('\n' :: List.replicate depth '\t'))

/-
  A start tag whose last attribute is only there sometimes; a
  gap remains in its place.
-/
def optionally
    (condition : Bool)
    (entry : Attribute) : Attribute :=
  if condition then entry else .gap

------------------------------------------------------------
-- Parts
------------------------------------------------------------

/- A choice of a select, marked if it is the selected one. -/
def choice
    (selected : String)
    (c : Choice) : List Token :=
  let mark :=
    if c.value = selected then [Attribute.bare "selected"] else []
  [.opening "option" (.valued "value" c.value :: mark),
    .text c.label, .closing "option"]

/- A select, with a line for each of its choices. -/
def select
    (screen : Screen)
    (name id selected : String)
    (choices : List Choice) : List Token :=
  let onchange :=
    optionally screen.autoSubmit
      (.valued "onchange" "this.form.submit()")
  [.opening "select"
    [.valued "name" name, .valued "id" id, onchange],
    line 3] ++
  choices.flatMap (fun c =>
    line 3 :: choice selected c ++ [line 3]) ++
  [line 2, .closing "select"]

/- The choices among the modes. -/
def modeChoices : List Choice :=
  Mode.all.map fun mode => ⟨mode.name, mode.name⟩

/- The input for the value of a query. -/
def valueInput
    (screen : Screen) : Token :=
  .single "input"
    [.valued "name" Form.valueField,
      .valued "id" "input-field",
      .valued "type" "text",
      .valued "spellcheck" "false",
      .valued "autocomplete" "off",
      .valued "autocorrect" "off",
      .valued "autocapitalize" "off",
      .valued "placeholder"
        "Enter an IP address, prefix or DNS name...",
      .valued "value" screen.current.value]

/- The select for the routing instance, where one is offered. -/
def instanceSelect
    (screen : Screen) : List Token :=
  if screen.offersInstances then
    line 2 ::
      select screen Form.instanceField "table-sel"
        screen.selectedInstance screen.instances ++
      [line 2]
  else []

/- The lookup form. -/
def form
    (screen : Screen) : List Token :=
  [.opening "form"
    [.valued "id" "input", .valued "method" "post",
      .valued "action" "/search"],
    line 2] ++
  select screen Form.modeField "query-mode"
    screen.current.mode.name modeChoices ++
  [line 2, valueInput screen, line 2] ++
  select screen Form.routerField "router-sel"
    screen.current.router screen.routers ++
  [line 2] ++ instanceSelect screen ++
  [line 2,
    .single "input"
      [.valued "type" "submit", .valued "id" "input-submit",
        .valued "value" "Go"],
    line 1, .closing "form"]

/- The link to the current query, if it asks for something. -/
def currentLink
    (screen : Screen) : List Token :=
  if screen.current.value.isEmpty ∧
      screen.current.filters.isEmpty then
    []
  else
    [line 1, .opening "p" [],
      .opening "a" [.valued "href" screen.current.lookupUrl],
      .text "Link to this lookup", .closing "a", .closing "p",
      line 1]

/- The script that follows a link given behind the page. -/
def script : String :=
  "\n\t\tif (location.pathname == \"/\" && " ++
    "location.hash.startsWith(\"#/\")) \x7b\n" ++
    "\t\t\tlocation.replace(\"/lookup/\" + " ++
    "location.hash.slice(2));\n" ++
    "\t\t\x7d\n\t"

------------------------------------------------------------
-- The page
------------------------------------------------------------

/- The head of the lookup page. -/
def head : List Token :=
  [.opening "head" [], line 1,
    .opening "meta" [.valued "charset" "utf-8"], line 1,
    .opening "title" [], .text "vrfglass", .closing "title",
    line 1,
    .opening "script" [], .verbatim script, .closing "script",
    line 0, .closing "head"]

/- The lookup page. -/
def lookup
    (screen : Screen) : List Token :=
  [.declaration "DOCTYPE html", line 0, .opening "html" [],
    line 0] ++
  head ++
  [line 0, .opening "body" [], line 1, line 1] ++
  Page.form screen ++
  [line 1] ++ currentLink screen ++
  [line 0, .closing "body", line 0, .closing "html"]

end Page

------------------------------------------------------------
-- Pages of forms
------------------------------------------------------------

/- A choice in characters, if it is one of characters only. -/
def Choice.string?
    {T : Type}
    [Wording T]
    (choice : Choice T) : Option Choice := do
  let value ← Wording.string? choice.value
  let label ← Wording.string? choice.label
  return ⟨value, label⟩

namespace Form

/- What the page of a form shows. -/
def screen
    (form : Form) : Page.Screen :=
  { current := form.current
    autoSubmit := form.autoSubmit
    routers := form.routers
    instances := form.instances }

@[simp] theorem screen_current
    (form : Form) :
    form.screen.current = form.current :=
  rfl

@[simp] theorem screen_autoSubmit
    (form : Form) :
    form.screen.autoSubmit = form.autoSubmit :=
  rfl

@[simp] theorem screen_routers
    (form : Form) :
    form.screen.routers = form.routers :=
  rfl

@[simp] theorem screen_instances
    (form : Form) :
    form.screen.instances = form.instances :=
  rfl

/- The markup of a form's lookup page. -/
def page
    (form : Form) : String :=
  Page.print (Page.lookup form.screen)

/- What the page of a form shows, in characters. -/
def screen?
    {T : Type}
    [Wording T]
    (form : Form T) : Option Page.Screen := do
  let routers ← form.routers.mapM Choice.string?
  let instances ← form.instances.mapM Choice.string?
  return {
    current := form.current
    autoSubmit := form.autoSubmit
    routers
    instances }

/- The markup of a form's lookup page, if it can be sent. -/
def page?
    {T : Type}
    [Wording T]
    (form : Form T) : Option String :=
  form.screen?.map fun screen => Page.print (Page.lookup screen)

end Form

end LookingGlass
