import LookingGlass.Directory.Options
import LookingGlass.Query.Link

/-
  This file defines the lookup form: what it offers, what is
  selected in it, and what submitting it asks for.

  Key definitions include:
    * `Form`
    * `Form.ofLink`
    * `Form.routers`
    * `Form.instances`
    * `Form.offersInstances`
    * `Form.selectedInstance`
    * `Form.read`
    * `Form.query`
    * `Form.submit`
    * `Form.prefilled`
-/

namespace LookingGlass

open LookingGlass.Text (Wording)

variable {T : Type} [Wording T]

/- A lookup form of a directory with a current query. -/
structure Form (T : Type := String) where
  directory : Directory T
  current : Query := .empty
  autoSubmit : Bool := true
deriving Repr, Inhabited

namespace Form

------------------------------------------------------------
-- Fields
------------------------------------------------------------

/- The field that holds the mode. -/
def modeField : String := "query-mode"

/- The field that holds the value. -/
def valueField : String := "input-field"

/- The field that holds the router. -/
def routerField : String := "router-sel"

/- The field that holds the routing instance. -/
def instanceField : String := "table-sel"

------------------------------------------------------------
-- Offers
------------------------------------------------------------

/- A form whose current query is that of a link. -/
def ofLink
    (directory : Directory T)
    (link : String)
    (autoSubmit : Bool := true) : Except Query.Error (Form T) :=
  (Query.ofLink link).map fun current =>
    { directory, current, autoSubmit }

/- The routers on offer. -/
def routers
    (form : Form T) : List (Choice T) :=
  routerChoices form.directory.routers

/- The choice of the default routing instance. -/
def defaultInstanceChoice : Choice T :=
  ⟨Wording.ofString defaultInstance,
    Wording.ofString "default instance"⟩

/-
  The routing instances on offer. The default one comes first
  where there is something to choose at all.
-/
def instances
    (form : Form T) : List (Choice T) :=
  match instanceChoices form.directory.distinctInstances with
  | [] => []
  | found => defaultInstanceChoice :: found

/- Whether routing instances are on offer. -/
def offersInstances
    (form : Form T) : Bool :=
  !form.instances.isEmpty

/- The value of the selected routing instance. -/
def selectedInstance
    (form : Form T) : String :=
  form.current.rd.getD defaultInstance

------------------------------------------------------------
-- Submissions
------------------------------------------------------------

/- Reads what was submitted; of repeated fields the first. -/
def read
    (fields : Text.Fields) : Submission :=
  { mode := (fields.first? modeField).getD Mode.fallback.name
    value := (fields.first? valueField).getD ""
    router := (fields.first? routerField).getD allRouters
    rd := fields.first? instanceField }

/- The query that was submitted. -/
def query
    (form : Form T)
    (fields : Text.Fields) : Except Query.Error Query :=
  (read fields).query form.offersInstances

/- The link of the query that was submitted. -/
def submit
    (form : Form T)
    (fields : Text.Fields) : Except Query.Error String :=
  (form.query fields).map Query.link

/- The fields of the form as it is before any change. -/
def prefilled
    (form : Form T) : Text.Fields :=
  [(modeField, form.current.mode.name),
    (valueField, form.current.value),
    (routerField, form.current.router)] ++
  if form.offersInstances then
    [(instanceField, form.selectedInstance)]
  else []

end Form

end LookingGlass
