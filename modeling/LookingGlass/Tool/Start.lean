import LookingGlass.Collector.Load
import LookingGlass.CommandLine.Help
import LookingGlass.RouteDistinguisher
import LookingGlass.Settings
import LookingGlass.Text.Lines
import LookingGlass.Tool.File

/-
  This file defines how the programs start: they read a file of
  settings and load the directory from the collector.

  Key definitions include:
    * `World`
    * `Fault`
    * `Outcome`
    * `World.readJson`
    * `settingOf`
    * `address`
    * `logText`
    * `loadDirectory`
-/

namespace LookingGlass.Tool

open LookingGlass.CommandLine (Report Value)

------------------------------------------------------------
-- Outcomes
------------------------------------------------------------

/- What a program finds around it: files and a collector. -/
structure World where
  files : File.Tree
  collector : Collector.Service

/- Why a program breaks off. -/
inductive Fault
  | blankPath
  | file (e : File.Fault)
  | settings (e : Settings.Error)
  | addressNoText
  | blankFilter
  | directory (e : Collector.Failure)
  | distinguisher (e : RouteDistinguisher.Fault)
  | spelling (e : Text.Wide.Fault)
deriving Repr

/- The wording of a fault. -/
def Fault.message :
    Fault → String
  | .blankPath => "the path of a file is blank"
  | .file e => e.message
  | .settings e => e.message
  | .addressNoText => "the API URL is not a text"
  | .blankFilter => "a filter of the query is blank"
  | .directory e => e.message
  | .distinguisher e => e.message
  | .spelling e => e.message

/-
  What comes of a program: what it printed, and the requests it
  made. Where it broke off, its status does not count.
-/
structure Outcome where
  report : Report
  fault : Option Fault := none
  requests : List Url := []

/- The outcome of a program that broke off. -/
def Outcome.broken
    (fault : Fault) : Outcome :=
  { report := { status := 1 }, fault := some fault }

/- An outcome with a text that was printed before. -/
def Outcome.behind
    (text : String)
    (outcome : Outcome) : Outcome :=
  let report := outcome.report
  { outcome with
    report := { report with output := text ++ report.output } }

------------------------------------------------------------
-- Settings
------------------------------------------------------------

/- The JSON value in a file. -/
def World.readJson
    (world : World) :
    Value String → Except Fault Json.Value
  | .blank => .error .blankPath
  | .of path => do
    let text ← (File.read world.files path).mapError .file
    let lines := String.ofList (Text.lineFeeds text.toList)
    (Json.Value.read lines).mapError fun e =>
      .settings (.malformed e)

/- The value of a setting that a flag gives. -/
def settingOf :
    Value String → Json.Value
  | .blank => .list []
  | .of s => .text s

/-
  The collector's address among settings. It goes into requests
  in UTF-8.
-/
def address
    (settings : Settings) : Except Fault String :=
  match settings.get? Settings.apiUrlName with
  | some (.text address) => address.spell.mapError .spelling
  | _ => .error .addressNoText

------------------------------------------------------------
-- Log
------------------------------------------------------------

/- The name under which the loading of a directory is logged. -/
def logName : String := "vrfglass.directory"

/- A record as it is printed, or nothing if it is left out. -/
def recordText
    (verbose : Bool)
    (record : Log.Record) : String :=
  if verbose then
    s!"{record.level.name}:{logName}:{record.message}\n"
  else if record.level = .error then record.message ++ "\n"
  else ""

/- The printed records of a log. -/
def logText
    (verbose : Bool)
    (log : List Log.Record) : String :=
  String.join (log.map (recordText verbose))

------------------------------------------------------------
-- The directory
------------------------------------------------------------

/- The message that there is no directory. -/
def unableText
    (e : Collector.Failure) : String :=
  "Unable to load routers and routing instances: " ++
    e.message ++ "\n"

/-
  Loads the directory and goes on with it. What is logged comes
  before everything else.
-/
def loadDirectory
    (world : World)
    (verbose : Bool)
    (address : String)
    (next : Directory Text.Wide → Outcome) : Outcome :=
  let loading := Collector.load world.collector address
  let log := logText verbose loading.log
  match loading.outcome with
  | .error e =>
    let requests := loading.requests
    if e.isOfLoading then
      { report := { status := 1, errors := log ++ unableText e }
        requests }
    else
      { report := { status := 1, errors := log }
        fault := some (.directory e)
        requests }
  | .ok directory =>
    let outcome := next directory
    let report := outcome.report
    { outcome with
      report := { report with errors := log ++ report.errors }
      requests := loading.requests ++ outcome.requests }

end LookingGlass.Tool
