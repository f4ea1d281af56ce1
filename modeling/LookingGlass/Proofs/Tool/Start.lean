import LookingGlass.Proofs.Collector.Loading
import LookingGlass.Tool.Lookup
import LookingGlass.Tool.Server
import Mathlib

/-
  How the programs start: where no directory can be loaded, they
  end with a status and a message of their own, and neither
  print anything nor serve.

  Main declarations:
    * `loadAddress?`
    * `serverAddress?`
    * `run_of_command?`
    * `Outcome.IsRefusal`
    * `isRefusal_loadDirectory`
    * `start_all_or_nothing`
-/

namespace LookingGlass.Tool

open Collector (AllOrNothing Half IsBase Session turnsOf)
open Text (Wide)

------------------------------------------------------------
-- Addresses
------------------------------------------------------------

/-
  The address from which a command of the lookup tool loads the
  directory, if it gets that far. Reading a link needs none.
-/
def loadAddress?
    (world : World)
    (texts : List String) : Option String := do
  let options ← (readOptions texts).toOption
  let settings ← (settingsOf world options).toOption
  let command ← options.command
  if command.needsDirectory then (address settings).toOption
  else none

/- The address from which the server loads the directory. -/
def serverAddress?
    (world : World)
    (texts : List String) : Option String := do
  let options ← (readServerOptions texts).toOption
  let settings ← (configured world options).toOption
  (address settings.current).toOption

theorem toOption_eq_some_iff
    {ε α : Type}
    {x : Except ε α}
    {a : α} :
    x.toOption = some a ↔ x = .ok a := by
  cases x <;> simp [Except.toOption]

/- The command that a command line asks for. -/
def command?
    (texts : List String) : Option Command := do
  (← (readOptions texts).toOption).command

/- A command that gets that far loads the directory from there. -/
theorem run_of_command?
    {world : World}
    {texts : List String}
    {command : Command}
    {given : String}
    (hCommand : command? texts = some command)
    (hAddress : loadAddress? world texts = some given) :
    ∃ verbose,
      run world texts =
        loadDirectory world verbose given command.run := by
  simp only [loadAddress?, Option.bind_eq_bind,
    Option.bind_eq_some_iff, toOption_eq_some_iff] at hAddress
  obtain ⟨options, hOptions, settings, hSettings, found, hFound,
    hGiven⟩ := hAddress
  simp only [command?, Option.bind_eq_bind,
    Option.bind_eq_some_iff, toOption_eq_some_iff, hOptions,
    Except.ok.injEq, exists_eq_left', hFound] at hCommand
  cases hCommand
  split at hGiven
  case isTrue hNeeds =>
    rw [toOption_eq_some_iff] at hGiven
    refine ⟨options.verbose, ?_⟩
    simp only [run, hOptions, runOptions, hSettings, hFound,
      runCommand, hNeeds, if_true, hGiven]
  case isFalse => cases hGiven

theorem run_of_loadAddress?
    {world : World}
    {texts : List String}
    {given : String}
    (hAddress : loadAddress? world texts = some given) :
    ∃ verbose next,
      run world texts = loadDirectory world verbose given next := by
  have hFar := hAddress
  simp only [loadAddress?, Option.bind_eq_bind,
    Option.bind_eq_some_iff, toOption_eq_some_iff] at hFar
  obtain ⟨options, hOptions, _, _, command, hFound, _⟩ := hFar
  have hCommand : command? texts = some command := by
    simp [command?, hOptions, hFound, Except.toOption]
  obtain ⟨verbose, hRun⟩ := run_of_command? hCommand hAddress
  exact ⟨verbose, command.run, hRun⟩

/- The server that gets that far does the same. -/
theorem startServer_of_serverAddress?
    {world : World}
    {texts : List String}
    {given : String}
    (hAddress : serverAddress? world texts = some given) :
    ∃ options settings,
      startServer world texts =
        serve world options settings given := by
  simp only [serverAddress?, Option.bind_eq_bind,
    Option.bind_eq_some_iff, toOption_eq_some_iff] at hAddress
  obtain ⟨options, hOptions, settings, hSettings, hGiven⟩ :=
    hAddress
  refine ⟨options, settings, ?_⟩
  simp only [startServer, hOptions, hSettings, hGiven]

------------------------------------------------------------
-- Refusals
------------------------------------------------------------

/- Whether a program ended by itself, without any output. -/
structure Outcome.IsRefusal
    (outcome : Outcome) : Prop where
  status : outcome.report.status = 1
  output : outcome.report.output = ""
  ended : outcome.fault.isNone = true

/- A failure of loading is refused, whatever was to come next. -/
theorem isRefusal_loadDirectory
    {world : World}
    {given : String}
    {e : Collector.Failure}
    (hOutcome :
      (Collector.load world.collector given).outcome = .error e)
    (hLoading : e.isOfLoading = true)
    (verbose : Bool)
    (next : Directory Wide → Outcome) :
    (loadDirectory world verbose given next).IsRefusal := by
  unfold loadDirectory
  simp only [hOutcome, hLoading, if_true]
  exact ⟨rfl, rfl, rfl⟩

/- No server comes of a failure. -/
theorem serve_of_error
    {world : World}
    {given : String}
    {e : Collector.Failure}
    (hOutcome :
      (Collector.load world.collector given).outcome = .error e)
    (options : ServerOptions)
    (settings : Settings.Holder) :
    (serve world options settings given).2 = none := by
  simp [serve, hOutcome, Except.toOption]

------------------------------------------------------------
-- Starting
------------------------------------------------------------

/-
  Starting is all or nothing. The directory of both documents
  comes of loading if both are delivered, and otherwise one
  failure, in whatever order the two fetches take their turns;
  the order in which loading takes them is one of these. With a
  failure every command that needs the directory ends in a
  refusal, and so does the server, before there is one.
-/
theorem start_all_or_nothing
    {world : World}
    {given : String}
    {base : Url}
    {url : Half → Url}
    (hBase : IsBase given base url)
    (hNever : ∀ half, world.collector.NeverBreaks (url half)) :
    AllOrNothing world.collector url
      (Collector.load world.collector given) ∧
    (∀ turns, (∀ half, 2 ≤ turnsOf half turns) →
      ∃ loading,
        (Session.run world.collector given base {} turns).loading? =
            some loading ∧
          AllOrNothing world.collector url loading) ∧
    (∃ turns, (∀ half, 2 ≤ turnsOf half turns) ∧
      (Session.run world.collector given base {} turns).loading? =
        some (Collector.load world.collector given)) ∧
    ((∀ directory,
        (Collector.load world.collector given).outcome ≠
          .ok directory) →
      (∀ texts, loadAddress? world texts = some given →
        (run world texts).IsRefusal) ∧
      ∀ texts, serverAddress? world texts = some given →
        (startServer world texts).1.IsRefusal ∧
          (startServer world texts).2 = none) := by
  have hLoad := Collector.allOrNothing_load hBase hNever
  refine ⟨hLoad, fun turns hTurns => ?_, ?_, fun hNone => ?_⟩
  · exact Collector.allOrNothing_run hBase hNever hTurns
  · exact Collector.exists_turns_load hBase hNever
  · cases hOutcome :
        (Collector.load world.collector given).outcome with
    | ok directory => exact absurd hOutcome (hNone directory)
    | error e =>
        have hLoading := (hLoad.failure e hOutcome).1
        constructor
        · intro texts hAddress
          obtain ⟨verbose, next, hRun⟩ :=
            run_of_loadAddress? hAddress
          rw [hRun]
          exact isRefusal_loadDirectory hOutcome hLoading verbose next
        · intro texts hAddress
          obtain ⟨options, settings, hStart⟩ :=
            startServer_of_serverAddress? hAddress
          rw [hStart]
          constructor
          · exact isRefusal_loadDirectory hOutcome hLoading _ _
          · exact serve_of_error hOutcome options settings

/- The addresses of the usual collector. -/
def usualUrl
    (half : Half) : Url :=
  { scheme := "http"
    user := ""
    host := "127.0.0.1"
    port := some 3000
    path := half.path
    query := none
    fragment := none }

/- What matters of such an address for cookies. -/
def usualOrigin
    (half : Half) : Cookie.Origin :=
  { scheme := "http"
    place := some "127.0.0.1:3000".toList
    host := "127.0.0.1".toList
    path := half.path.toList }

/-
  A world without files, in which the usual collector does not
  answer for the routers, and has nothing at the other address.
-/
def refusingWorld : World :=
  { files := fun _ => none
    collector :=
      { reply := fun url =>
          if url = usualUrl .routers then
            .failed "All connection attempts failed"
          else .answered 404 [] []
        clock := { now := 0, year := 1970 } } }

theorem checkDestination_usualUrl
    (half : Half) :
    Collector.checkDestination (usualUrl half) = .ok () := by
  apply toOption_eq_some_iff.mp
  cases half <;> decide +kernel

theorem originOf_usualUrl
    (half : Half) :
    Collector.originOf (usualUrl half) =
      .ok (usualOrigin half) := by
  apply toOption_eq_some_iff.mp
  cases half <;> decide +kernel

theorem isBase_usualUrl :
    IsBase "http://127.0.0.1:3000"
      { usualUrl .routers with path := "" } usualUrl := by
  constructor
  · exact toOption_eq_some_iff.mp (by decide +kernel)
  · intro half
    apply toOption_eq_some_iff.mp
    cases half <;> decide +kernel
  · intro half
    exact ⟨checkDestination_usualUrl half,
      _, originOf_usualUrl half⟩

theorem neverBreaks_refusingWorld
    (half : Half) :
    refusingWorld.collector.NeverBreaks (usualUrl half) := by
  apply Collector.Service.neverBreaks_of_place
    (checkDestination_usualUrl half) (originOf_usualUrl half) rfl
  intro held fault hFault
  cases half with
  | routers =>
      cases hFault
      rfl
  | instances =>
      change Collector.readAnswer _ held (usualUrl .instances) 404
        [] [] = _ at hFault
      simp [Collector.readAnswer, originOf_usualUrl,
        Collector.Headers.check, Collector.Headers.codings,
        Collector.Headers.values, Collector.undoAll, Cookie.Jar.take,
        Collector.isRedirect, Collector.isSuccess, bind,
        Except.bind, Except.map, pure, Except.pure, throw, throwThe,
        MonadExceptOf.throw] at hFault
      cases hFault
      rfl

/-
  A world without files, in which the usual collector answers
  with these bytes.
-/
def servingWorld
    (bytes : Half → List UInt8) : World :=
  { files := fun _ => none
    collector :=
      { reply := fun url =>
          if url = usualUrl .routers then
            .answered 200 [] (bytes .routers)
          else .answered 200 [] (bytes .instances)
        clock := { now := 0, year := 1970 } } }

section Serving

variable {bytes : Half → List UInt8}
variable {document : Half → Json.Value}

theorem reply_servingWorld
    (bytes : Half → List UInt8)
    (half : Half) :
    (servingWorld bytes).collector.reply (usualUrl half) =
      .answered 200 [] (bytes half) := by
  cases half <;> rfl

theorem delivers_servingWorld
    (hRead : ∀ half,
      Json.Value.ofBytes (bytes half) =
        .ok (document half))
    (half : Half) :
    ((servingWorld bytes).collector.reply (usualUrl half)).Delivers
      (document half) := by
  rw [reply_servingWorld]
  exact ⟨200, [], (bytes half), _, rfl, rfl, rfl,
    by decide, by decide, hRead half⟩

theorem neverBreaks_servingWorld
    (hRead : ∀ half,
      Json.Value.ofBytes (bytes half) =
        .ok (document half))
    (half : Half) :
    (servingWorld bytes).collector.NeverBreaks (usualUrl half) := by
  apply Collector.Service.neverBreaks_of_place
    (checkDestination_usualUrl half) (originOf_usualUrl half) rfl
  intro held fault hFault
  rw [reply_servingWorld] at hFault
  simp [Collector.Reply.read, Collector.readAnswer,
    originOf_usualUrl, hRead half, Collector.Headers.check,
    Collector.Headers.codings, Collector.Headers.values,
    Collector.undoAll, Cookie.Jar.take, Collector.isRedirect,
    Collector.isSuccess, bind, Except.bind, Except.map, pure,
    Except.pure] at hFault

/- A document is read in two steps. -/
theorem ofBytes_of_points
    {document : List UInt8}
    {points : List Text.Point}
    {value : Json.Value}
    (hText :
      (Json.Encoding.decode document).toOption = some points)
    (hRead : Json.readAll points = .ok value) :
    Json.Value.ofBytes document = .ok value := by
  rw [Json.Value.ofBytes, toOption_eq_some_iff.mp hText]
  simp only [hRead]
  rfl

end Serving

/- The text of a router. -/
def mixedRouters : String :=
  "\x7b\"1\":\x7b\"client_name\":\"edge\"\x7d\x7d"

/- The text of instances of all types, and of none. -/
def mixedInstances : String :=
  "\x7b\"g\":[[\"70000:2\",\"a\"],[\":1\",null],[\"0:0\",null]," ++
    "[\"65000:1\",\"b\"],[\"10.0.0.1:7\",null],[\":1\",null]]\x7d"

/- What the usual collector answers with them. -/
def mixedText :
    Half → String
  | .routers => mixedRouters
  | .instances => mixedInstances

/- The bytes of these texts. -/
def mixedBytes
    (half : Half) : List UInt8 :=
  (mixedText half).toUTF8.toList

/- The documents of these texts. -/
def mixedDocument :
    Half → Json.Value
  | .routers =>
    .object [("1", .object [("client_name", .text "edge")])]
  | .instances =>
    .object
      [("g",
        .list
          [.list [.text "70000:2", .text "a"],
            .list [.text ":1", .null], .list [.text "0:0", .null],
            .list [.text "65000:1", .text "b"],
            .list [.text "10.0.0.1:7", .null],
            .list [.text ":1", .null]])]

/- The directory of these documents. -/
def mixedDirectory : Directory Wide :=
  { routers := [{ id := "1", clientName := "edge" }]
    groups :=
      [("g",
        [⟨"70000:2", some "a"⟩, ⟨":1", none⟩, ⟨"0:0", none⟩,
          ⟨"65000:1", some "b"⟩, ⟨"10.0.0.1:7", none⟩,
          ⟨":1", none⟩])] }

theorem ofBytes_mixedBytes
    (half : Half) :
    Json.Value.ofBytes (mixedBytes half) =
      .ok (mixedDocument half) := by
  have hText :
      (Json.Encoding.decode (mixedBytes half)).toOption =
        some ((mixedText half).toList.map .scalar) := by
    cases half <;> decide +kernel
  have hRead :
      Json.readAll ((mixedText half).toList.map .scalar) =
        .ok (mixedDocument half) := by
    cases half with
    | routers => cbv
    | instances => cbv
  exact ofBytes_of_points hText hRead

theorem ofPayloads_mixedDocument :
    Directory.ofPayloads (mixedDocument .routers)
      (mixedDocument .instances) = .ok mixedDirectory := by
  cbv

/-
  Where both fetches fail, it is the routers' failure that
  counts. Where both documents are delivered, their directory is
  loaded with two requests and nothing to complain of.
-/
theorem start_all_or_nothing_both_ways :
    IsBase "http://127.0.0.1:3000"
        { usualUrl .routers with path := "" } usualUrl ∧
      (∀ half,
        refusingWorld.collector.NeverBreaks (usualUrl half)) ∧
      (∃ e,
        (Collector.load refusingWorld.collector
            "http://127.0.0.1:3000").outcome = .error e ∧
          e.half? = some .routers) ∧
      (run refusingWorld ["routers"]).IsRefusal ∧
      (startServer refusingWorld []).2 = none ∧
      (∀ half,
        (servingWorld mixedBytes).collector.NeverBreaks
          (usualUrl half)) ∧
      (∃ loading,
        loading = Collector.load (servingWorld mixedBytes).collector
          "http://127.0.0.1:3000" ∧
        loading.outcome = .ok mixedDirectory ∧
        loading.errors = [] ∧
        loading.requests.Perm
          [usualUrl .routers, usualUrl .instances]) := by
  have hNever := neverBreaks_servingWorld ofBytes_mixedBytes
  obtain ⟨hServed, _⟩ := start_all_or_nothing isBase_usualUrl hNever
  have hAll :=
    start_all_or_nothing isBase_usualUrl neverBreaks_refusingWorld
  obtain ⟨hLoad, _, _, hPrograms⟩ := hAll
  have hRouters (document : Json.Value) :
      ¬(refusingWorld.collector.reply (usualUrl .routers)).Delivers
        document := by
    rintro ⟨_, _, _, _, hReply, _⟩
    cases hReply
  have hNone (directory : Directory Wide) :
      (Collector.load refusingWorld.collector
          "http://127.0.0.1:3000").outcome ≠ .ok directory := by
    intro hOutcome
    obtain ⟨routers, _, hDelivers, _⟩ :=
      (hLoad.directory directory).mp hOutcome
    exact hRouters routers hDelivers
  obtain ⟨hRun, hStart⟩ := hPrograms hNone
  refine ⟨isBase_usualUrl, neverBreaks_refusingWorld, ?_, ?_, ?_,
    hNever, ?_⟩
  · cases hOutcome :
        (Collector.load refusingWorld.collector
          "http://127.0.0.1:3000").outcome with
    | ok directory => exact absurd hOutcome (hNone directory)
    | error e =>
        refine ⟨e, rfl, (hLoad.failure e hOutcome).2.2.1 ?_⟩
        rintro ⟨document, _, hDelivers, _⟩
        exact hRouters document hDelivers
  · exact hRun ["routers"] (by decide +kernel)
  · exact (hStart [] (by decide +kernel)).2
  · have hOutcome :=
      (hServed.directory mixedDirectory).mpr
        ⟨_, _, delivers_servingWorld ofBytes_mixedBytes .routers,
          delivers_servingWorld ofBytes_mixedBytes .instances,
          ofPayloads_mixedDocument⟩
    exact ⟨_, rfl, hOutcome, hServed.quiet _ hOutcome,
      hServed.requests⟩

end LookingGlass.Tool
