import LookingGlass.Network.Block
import LookingGlass.Text.Quoted

/-
  This file defines lookup queries: what is looked for, how it
  is matched, at which router and in which routing instance.

  Key definitions include:
    * `Mode`
    * `Query`
    * `Query.make`
    * `Query.ofNames`
    * `Query.Error`
    * `Query.filters`
    * `Query.valueKind`
    * `Submission`
    * `Submission.query`
-/

namespace LookingGlass

------------------------------------------------------------
-- Modes
------------------------------------------------------------

/- How the value of a query is matched against routes. -/
inductive Mode
  | mostSpecific
  | exact
  | orLonger
  | contains
deriving DecidableEq, Repr

namespace Mode

/- The modes in the order in which they are offered. -/
def all : List Mode :=
  [.mostSpecific, .exact, .orLonger, .contains]

/- The name of a mode. -/
def name :
    Mode → String
  | .mostSpecific => "MostSpecific"
  | .exact => "Exact"
  | .orLonger => "OrLonger"
  | .contains => "Contains"

/- The mode of a name. -/
def ofName?
    (s : String) : Option Mode :=
  all.find? fun mode => mode.name == s

/- The mode of a query that names none. -/
def fallback : Mode := .mostSpecific

end Mode

------------------------------------------------------------
-- Queries
------------------------------------------------------------

/- The router name that stands for all routers. -/
def allRouters : String := "all"

/- The name that stands for the default routing instance. -/
def defaultInstance : String := "default"

/-
  A lookup query. Without a route distinguisher the query is
  about the default routing instance, so the name of the
  default instance is never kept as a distinguisher.
-/
structure Query where
  mode : Mode
  value : String
  router : String
  rd : Option String
  rd_ne_default : rd ≠ some defaultInstance
deriving DecidableEq, Repr

namespace Query

/- A query of a distinguisher that may name the default. -/
def make
    (mode : Mode)
    (value : String)
    (router : String)
    (rd : Option String) : Query :=
  if h : rd = some defaultInstance then
    { mode, value, router, rd := none
      rd_ne_default := by simp }
  else
    { mode, value, router, rd, rd_ne_default := h }

/- The query that asks for nothing in particular. -/
def empty : Query :=
  make .fallback "" allRouters none

instance : Inhabited Query := ⟨empty⟩

/- Why there is no query. -/
inductive Error
  | unknownMode (name : String)
deriving DecidableEq, Repr

/- The wording of an error. -/
def Error.message :
    Error → String
  | .unknownMode name => "Invalid query mode " ++ name

/- The mode of a name, or an error that names it. -/
def modeOfName
    (name : String) : Except Error Mode :=
  match Mode.ofName? name with
  | some mode => .ok mode
  | none => .error (.unknownMode name)

/- A query of a mode that is given by its name. -/
def ofNames
    (mode : String)
    (value : String)
    (router : String)
    (rd : Option String) : Except Error Query :=
  (modeOfName mode).map fun mode => make mode value router rd

------------------------------------------------------------
-- Filters
------------------------------------------------------------

/- The name of the filter for a router. -/
def routerFilter : String := "Router"

/- The name of the filter for a routing instance. -/
def instanceFilter : String := "route_distinguisher"

/- The filters of a query: what differs from its default. -/
def filters
    (q : Query) : List (String × String) :=
  (if q.router = allRouters then [] else [(routerFilter, q.router)])
    ++
  match q.rd with
  | none => []
  | some rd => [(instanceFilter, rd)]

------------------------------------------------------------
-- Kinds of values
------------------------------------------------------------

/- What the value of a query is taken for. -/
inductive ValueKind
  | address
  | hostname
deriving DecidableEq, Repr

/- The word for a kind of value. -/
def ValueKind.name :
    ValueKind → String
  | .address => "ip-lookup"
  | .hostname => "hostname"

/- The kind of a query's value; an empty value has none. -/
def valueKind
    (q : Query) : Option ValueKind :=
  if q.value.isEmpty then none
  else if Network.isAddressOrBlock q.value.toList then
    some .address
  else some .hostname

/- The form in which messages show a query. -/
def quoted
    (q : Query) : String :=
  let rd :=
    match q.rd with
    | none => "None"
    | some rd => Text.quoted rd
  "SearchQuery(" ++ Text.quoted q.mode.name ++ ", " ++
    Text.quoted q.value ++ ", " ++ Text.quoted q.router ++
    ", " ++ rd ++ ")"

end Query

------------------------------------------------------------
-- Submissions
------------------------------------------------------------

/- The parts of a query as a user submits them. -/
structure Submission where
  mode : String := Mode.fallback.name
  value : String := ""
  router : String := allRouters
  rd : Option String := none
deriving DecidableEq, Repr

/-
  The query of a submission. The distinguisher is only taken
  over where routing instances were offered.
-/
def Submission.query
    (submission : Submission)
    (offersInstances : Bool) : Except Query.Error Query :=
  Query.ofNames submission.mode submission.value submission.router
    (if offersInstances then submission.rd else none)

end LookingGlass
