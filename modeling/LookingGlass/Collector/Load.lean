import LookingGlass.Collector.Reply
import LookingGlass.Directory.Payload
import LookingGlass.Log

/-
  This file defines how a directory is loaded from a collector:
  two requests below the collector's address, both of which
  have to succeed.

  Both requests are always made. Where both fail, the failure
  of the routers is reported.

  Key definitions include:
    * `Failure`
    * `Failure.message`
    * `Failure.isOfLoading`
    * `base`
    * `get`
    * `Loading`
    * `load`
-/

namespace LookingGlass.Collector

open LookingGlass.Text (Wide)

------------------------------------------------------------
-- Failures
------------------------------------------------------------

/- Why there is no directory. -/
inductive Failure
  | address (text : String) (e : Url.Error)
  | request (path : String) (e : Fault)
  | payload (e : Payload.Error)
deriving Repr

/- The wording of a failure. -/
def Failure.message :
    Failure → String
  | .address text e =>
    "Invalid API URL " ++ Text.quoted text ++ ": " ++ e.message
  | .request path e => "GET " ++ path ++ " " ++ e.message
  | .payload e => e.message

/-
  Whether a failure is one of loading. A document that is
  nested too deeply is none, and neither is a cookie for a port
  where there is none; they break everything off.
-/
def Failure.isOfLoading :
    Failure → Bool
  | .request _ (.document (.text .tooDeep))
  | .request _ (.cookie _) => false
  | _ => true

------------------------------------------------------------
-- Requests
------------------------------------------------------------

/- The path of the routers. -/
def routersPath : String := "/api/routers"

/- The path of the routing instances. -/
def instancesPath : String := "/api/routing-instances"

/- The address below which requests go; it ends with a slash. -/
def base
    (address : String) : Except Url.Error Url := do
  let url ← Url.read address
  if url.target.endsWith "/" then return url
  url.withTarget (url.target ++ "/")

/- The address of a path below a base. -/
def below
    (base : Url)
    (path : String) : Except Url.Error Url :=
  base.withTarget
    (base.target ++
      String.ofList (Text.dropAll '/' path.toList))

/- The document that a collector has at a path. -/
def get
    (service : Service)
    (held : Cookie.Jar)
    (base : Url)
    (path : String) : Except Failure Visit :=
  match below base path with
  | .error e => .error (.request path (.address e))
  | .ok url => (service.ask held url).mapError (.request path)

/- The addresses of paths that are asked for. -/
def requests
    (base : Url)
    (paths : List String) : List Url :=
  let urls := paths.filterMap fun path =>
    (below base path).toOption
  urls.filter fun url => (checkDestination url).toBool

------------------------------------------------------------
-- Loading
------------------------------------------------------------

/- What comes of loading a directory. -/
structure Loading where
  outcome : Except Failure (Directory Wide)
  log : List Log.Record
  requests : List Url

/- The directory of a collector at a base address. -/
def directory
    (service : Service)
    (base : Url) : Except Failure (Directory Wide) := do
  let first ← get service [] base routersPath
  let routers ←
    (Payload.routers first.document).mapError .payload
  let second ← get service first.jar base instancesPath
  let groups ←
    (Payload.routingInstances second.document).mapError .payload
  return { routers, groups }

/- What is logged about an outcome. -/
def outcomeLog :
    Except Failure (Directory Wide) → List Log.Record
  | .ok d =>
    [⟨.info, s!"Loaded {d.routers.length} routers and " ++
      s!"{d.groups.length} routing instance groups"⟩]
  | .error e =>
    if e.isOfLoading then
      [⟨.error, "Directory initialization failed: " ++ e.message⟩]
    else []

/- Loads a directory from the collector at an address. -/
def load
    (service : Service)
    (address : String) : Loading :=
  match base address with
  | .error e =>
    let outcome := .error (.address address e)
    { outcome, log := outcomeLog outcome, requests := [] }
  | .ok base =>
    let paths := [routersPath, instancesPath]
    let outcome := directory service base
    { outcome
      log := paths.map (fun path => ⟨.debug, s!"GET {address}{path}"⟩)
        ++ outcomeLog outcome
      requests := requests base paths }

end LookingGlass.Collector
