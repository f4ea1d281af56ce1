import LookingGlass.Directory.Options
import LookingGlass.Form.Basic
import LookingGlass.RouteDistinguisher
import LookingGlass.Tool.Start

/-
  This file defines the commands of the lookup tool: two
  listings of the directory, and two that write and read the
  links of queries.

  Key definitions include:
    * `QueryOptions`
    * `Command`
    * `wideRow`
    * `printRows`
    * `listRouters`
    * `instanceRow`
    * `listInstances`
    * `writeQuery`
    * `runQuery`
    * `QueryOptions.hasBlankFilter`
    * `readQuery`
    * `Command.run`
-/

namespace LookingGlass.Tool

open LookingGlass.CommandLine (Report Value)
open LookingGlass.Text (Wide Wording)

variable {T : Type} [Wording T]

------------------------------------------------------------
-- Commands
------------------------------------------------------------

/- What the command that writes a query is given. -/
structure QueryOptions where
  mode : Value String := .of Mode.fallback.name
  value : String := ""
  router : Value String := .of allRouters
  rd : Option (Value String) := none
deriving DecidableEq, Repr

/- A command of the lookup tool. -/
inductive Command
  | routers
  | instances
  | query (options : QueryOptions)
  | parse (link : String)
deriving DecidableEq, Repr

------------------------------------------------------------
-- Listings
------------------------------------------------------------

/- A row of columns. -/
def row
    (columns : List String) : String :=
  "\t".intercalate columns ++ "\n"

/- A row of columns that may be wide; it is printed in UTF-8. -/
def wideRow
    (columns : List Wide) : Except Fault String :=
  match (Wide.joined '\t' columns).spell with
  | .error fault => .error (.spelling fault)
  | .ok text => .ok (text ++ "\n")

/-
  Prints rows one after another. A fault breaks the listing off
  behind the rows before it.
-/
def printRows :
    List (Except Fault String) → Outcome
  | [] => { report := { status := 0 } }
  | .error fault :: _ => .broken fault
  | .ok text :: rest => (printRows rest).behind text

/- The row of a router: its id and its client name. -/
def routerRow
    (router : Router T) : Except Fault String :=
  wideRow [Wording.wide router.id, Wording.wide router.clientName]

/- The routers with their client names. -/
def listRouters
    (directory : Directory T) : Outcome :=
  printRows (directory.routers.map routerRow)

/- The row of a routing instance; `-` is for no type. -/
def instanceRow
    (entry : RoutingInstance T) : Except Fault String :=
  match RouteDistinguisher.typeNameOf? entry.rd with
  | .error fault => .error (.distinguisher fault)
  | .ok name =>
    wideRow
      [Wording.wide entry.rd, name.getD "-",
        Wording.wide entry.label]

/- The distinct routing instances with their types. -/
def listInstances
    (directory : Directory T) : Outcome :=
  printRows (directory.distinctInstances.map instanceRow)

------------------------------------------------------------
-- Links
------------------------------------------------------------

/- The report of a query that is none. -/
def refused
    (e : Query.Error) : Report :=
  { status := 1, errors := e.message ++ "\n" }

/-
  Prints the link of a query. A distinguisher is ignored, and
  that is said, where there are no instances to choose from.
-/
def writeQuery
    (directory : Directory T)
    (submission : Submission) : Report :=
  let form : Form T := { directory }
  match submission.query form.offersInstances with
  | .error e => refused e
  | .ok query =>
    let ignored :=
      match submission.rd with
      | some rd =>
        if form.offersInstances then ""
        else s!"Only one routing instance known, ignoring {rd}\n"
      | none => ""
    { status := 0, output := query.link ++ "\n", errors := ignored }

/- The submission of options, with blank ones in words. -/
def QueryOptions.submission
    (options : QueryOptions) : Submission :=
  { mode := options.mode.print id
    value := options.value
    router := options.router.print id
    rd := options.rd.map (Value.print id) }

/-
  Whether a link would have a filter for a blank value. There
  is no such link.
-/
def QueryOptions.hasBlankFilter
    (options : QueryOptions)
    (offersInstances : Bool) : Bool :=
  options.router = .blank ||
    (offersInstances && options.rd = some .blank)

/- Prints the link of the query that options ask for. -/
def runQuery
    (directory : Directory T)
    (options : QueryOptions) : Outcome :=
  let form : Form T := { directory }
  let report := writeQuery directory options.submission
  if report.status = 0 ∧
      options.hasBlankFilter form.offersInstances then
    { report := { report with output := "" }
      fault := some .blankFilter }
  else { report }

/- A text, or another in place of an empty one. -/
def unlessEmpty
    (s other : String) : String :=
  if s.isEmpty then other else s

/- Prints the parts of the query of a link. -/
def readQuery
    (link : String) : Report :=
  match Query.ofLink link with
  | .error e => refused e
  | .ok query =>
    let kind := (query.valueKind.map Query.ValueKind.name).getD "-"
    let rd := unlessEmpty (query.rd.getD "") defaultInstance
    { status := 0
      output := String.join
        [row ["mode", query.mode.name],
          row ["value", query.value],
          row ["value-type", kind],
          row ["router", query.router],
          row ["route-distinguisher", rd]] }

------------------------------------------------------------
-- Running
------------------------------------------------------------

/- Whether a command asks the collector. -/
def Command.needsDirectory :
    Command → Bool
  | .parse _ => false
  | _ => true

/- What a command does with a directory. -/
def Command.run
    (directory : Directory T) :
    Command → Outcome
  | .routers => listRouters directory
  | .instances => listInstances directory
  | .query options => runQuery directory options
  | .parse link => { report := readQuery link }

end LookingGlass.Tool
