import LookingGlass.Tool.Commands
import LookingGlass.Tool.Flags

/-
  This file defines the lookup tool: its command line, and what
  comes of running it.

  Key definitions include:
    * `program`
    * `queryProgram`
    * `Options`
    * `queryOptions`
    * `readOptions`
    * `configPath?`
    * `settingsOf`
    * `runOptions`
    * `run`
-/

namespace LookingGlass.Tool

open LookingGlass.CommandLine (Program Reading Report Stop Value)

------------------------------------------------------------
-- Programs
------------------------------------------------------------

/- The commands with their descriptions. -/
def commands : List (String × String) :=
  [("routers", "List known routers"),
    ("routing-instances", "List distinct routing instances"),
    ("query", "Build lookup query string"),
    ("parse", "Decode lookup query string")]

/- The lookup tool as its users see it. -/
def program : Program :=
  { name
    description := "Route lookup query tool"
    version
    ownFlags :=
      [configFlag "Configuration file", apiFlag,
        { key := "version"
          names := ["--version"]
          effect := .version
          help := "show program's version number and exit" },
        verboseFlag]
    operand := some
      { key := "command"
        kind := .command commands
        help := "Command to execute" } }

/- The command that writes a query. -/
def queryProgram : Program :=
  { name := name ++ " query"
    ownFlags :=
      [{ key := "mode"
         names := ["--mode", "-m"]
         effect := .take (.oneOf (Mode.all.map Mode.name))
         help := "Match mode" },
        { key := "router"
          names := ["--router", "-r"]
          effect := .take .text
          help := "Restrict lookup to router name" },
        { key := "rd"
          names := ["--rd"]
          effect := .take .text
          help := "Restrict lookup to route distinguisher" }]
    operand := some
      { key := "value"
        kind := .optional
        help := "IP address, prefix or DNS name" } }

/- The command that reads a query. -/
def parseProgram : Program :=
  { name := name ++ " parse"
    operand := some { key := "query", kind := .required } }

/- A command without flags and operands of its own. -/
def plainProgram
    (command : String) : Program :=
  { name := name ++ " " ++ command }

------------------------------------------------------------
-- Options
------------------------------------------------------------

/- What the command line asks for. -/
structure Options where
  config : Option (Value String)
  api : Option (Value String)
  verbose : Bool
  command : Option Command
deriving DecidableEq, Repr

/- What the command that writes a query is given. -/
def queryOptions
    (reading : Reading) : QueryOptions :=
  { mode := (reading.text? "mode").getD (.of Mode.fallback.name)
    value := (reading.operand? "value").getD ""
    router := (reading.text? "router").getD (.of allRouters)
    rd := reading.text? "rd" }

/- How a command is read, and what it then asks for. -/
def commandOf
    (command : String) : Program × (Reading → Command) :=
  match command with
  | "query" => (queryProgram, fun r => .query (queryOptions r))
  | "parse" =>
    (parseProgram, fun r => .parse ((r.operand? "query").getD ""))
  | "routers" => (plainProgram command, fun _ => .routers)
  | _ => (plainProgram command, fun _ => .instances)

/-
  Reads a command line. What the tool itself and its command
  leave over is only reported at the end.
-/
def readOptions
    (texts : List String) : Except Report Options := do
  let main ← readFor program texts
  let (left, command) ←
    match main.command with
    | [] => pure (main, none)
    | name :: texts => do
      let (program, command) := commandOf name
      let reading ← readFor program texts
      pure (main.leave reading.left, some (command reading))
  left.checkLeft.mapError (Stop.report program)
  return {
    config := main.text? "config"
    api := main.text? "api"
    verbose := main.isOn "verbose"
    command }

/- The file of settings that a command line names. -/
def configPath?
    (texts : List String) : Option String :=
  match (readOptions texts).toOption.bind Options.config with
  | some (.of path) => some path
  | _ => none

------------------------------------------------------------
-- Running
------------------------------------------------------------

/- The settings that options ask for. -/
def settingsOf
    (world : World)
    (options : Options) : Except Fault Settings := do
  let settings ←
    match options.config with
    | none => pure Settings.collectorDefaults
    | some path => do
      let value ← world.readJson path
      (Settings.collectorDefaults.update value).mapError fun e =>
        .settings (.table e)
  match options.api with
  | none => return settings
  | some api =>
    return settings.put (.text Settings.apiUrlName) (settingOf api)

/- What a command does under settings. -/
def runCommand
    (world : World)
    (verbose : Bool)
    (settings : Settings)
    (command : Command) : Outcome :=
  if command.needsDirectory then
    match address settings with
    | .error fault => .broken fault
    | .ok address => loadDirectory world verbose address command.run
  else command.run ({} : Directory Text.Wide)

/- What comes of options. Without a command there is the help. -/
def runOptions
    (world : World)
    (options : Options) : Outcome :=
  match settingsOf world options with
  | .error fault => .broken fault
  | .ok settings =>
    match options.command with
    | none => { report := { status := 2, output := program.help } }
    | some command =>
      runCommand world options.verbose settings command

/- Runs the lookup tool. -/
def run
    (world : World)
    (texts : List String) : Outcome :=
  match readOptions texts with
  | .error report => { report }
  | .ok options => runOptions world options

end LookingGlass.Tool
