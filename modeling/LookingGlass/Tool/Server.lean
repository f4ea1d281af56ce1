import LookingGlass.Tool.Flags
import LookingGlass.Tool.Start
import LookingGlass.Web.Application

/-
  This file defines the start of the web server: its command
  line, and the application that it serves.

  Key definitions include:
    * `serverProgram`
    * `ServerOptions`
    * `readServerOptions`
    * `withApi`
    * `configured`
    * `Server`
    * `serve`
    * `startServer`
-/

namespace LookingGlass.Tool

open LookingGlass.CommandLine (Program Report Stop Value)

------------------------------------------------------------
-- Options
------------------------------------------------------------

/- The web server as its users see it. -/
def serverProgram : Program :=
  { name := name ++ "-web"
    description := "Simple HTTP server for vrfglass web interface"
    ownFlags :=
      [{ key := "host"
         names := ["--host", "-H"]
         effect := .take .text
         help := "Bind to host" },
        { key := "port"
          names := ["--port", "-P"]
          effect := .take .integer
          help := "Bind to port" },
        configFlag "Path to configuration file", apiFlag,
        verboseFlag] }

/- What the command line of the server asks for. -/
structure ServerOptions where
  host : Value String
  port : Value Int
  config : Option (Value String)
  api : Option (Value String)
  verbose : Bool
deriving DecidableEq, Repr

/- Reads the command line of the server. -/
def readServerOptions
    (texts : List String) : Except Report ServerOptions := do
  let reading ← readFor serverProgram texts
  reading.checkLeft.mapError (Stop.report serverProgram)
  return {
    host := (reading.text? "host").getD (.of "127.0.0.1")
    port := (reading.integer? "port").getD (.of 8080)
    config := reading.text? "config"
    api := reading.text? "api"
    verbose := reading.isOn "verbose" }

------------------------------------------------------------
-- Settings
------------------------------------------------------------

/- Settings with a value of their own for the address. -/
def withApi
    (given : Json.Value)
    (api : Value String) : Except Settings.Error Settings :=
  ((Json.Table.ofGiven given).mapError .table).map fun settings =>
    settings.put (.text Settings.apiUrlName) (settingOf api)

/- The settings of the application that options ask for. -/
def configured
    (world : World)
    (options : ServerOptions) : Except Fault Settings.Holder := do
  let given ←
    match options.config with
    | none => pure .null
    | some path => world.readJson path
  let holder : Settings.Holder :=
    { defaults := Settings.webDefaults }
  match options.api with
  | none => (holder.assign (.value given)).mapError .settings
  | some api =>
    let own ← (withApi given api).mapError .settings
    return holder.adopt own

------------------------------------------------------------
-- Starting
------------------------------------------------------------

/- A server that is ready to answer. -/
structure Server where
  host : Value String
  port : Value Int
  application : Web.Application Text.Wide

/- The server of a directory, with the outcome of loading it. -/
def serve
    (world : World)
    (options : ServerOptions)
    (settings : Settings.Holder)
    (address : String) : Outcome × Option Server :=
  let host := options.host.print id
  let port := options.port.print toString
  let ready := s!"Serving HTTP on {host}:{port}...\n"
  let outcome :=
    loadDirectory world options.verbose address fun _ =>
      { report := { status := 0, output := ready } }
  let loading := Collector.load world.collector address
  let server := loading.outcome.toOption.map fun directory =>
    { host := options.host
      port := options.port
      application := { directory, settings } }
  (outcome, server)

/- Starts the server, unless something is in the way. -/
def startServer
    (world : World)
    (texts : List String) : Outcome × Option Server :=
  match readServerOptions texts with
  | .error report => ({ report }, none)
  | .ok options =>
    match configured world options with
    | .error fault => (.broken fault, none)
    | .ok settings =>
      match address settings.current with
      | .error fault => (.broken fault, none)
      | .ok address => serve world options settings address

end LookingGlass.Tool
