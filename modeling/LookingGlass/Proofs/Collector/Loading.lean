import LookingGlass.Proofs.Collector.Session

/-
  Loading is all or nothing: in whatever order the two fetches
  take their turns, a directory comes of them exactly if both
  replies deliver what it needs, and one failure otherwise.

  Main declarations:
    * `Failure.half?`
    * `AllOrNothing`
    * `Session.IsSound.allOrNothing`
    * `allOrNothing_run`
    * `load_is_session`
    * `allOrNothing_load`
-/

namespace LookingGlass.Collector

open Text (Wide)

------------------------------------------------------------
-- Halves of Failures
------------------------------------------------------------

/- The half that a failure is one of. -/
def Failure.half? :
    Failure → Option Half
  | .address _ _ => none
  | .request path _ =>
    [Half.routers, .instances].find? fun half => half.path = path
  | .payload (.routersNoObject _)
  | .payload (.routerWithoutName _) => some .routers
  | .payload _ => some .instances

theorem Failure.half?_request
    (half : Half)
    (fault : Fault) :
    (Failure.request half.path fault).half? = some half := by
  cases half <;> rfl

/- Members that are no routers are a failure of the routers. -/
theorem Failure.half?_routersOf
    {members : Json.Members}
    {e : Payload.Error}
    (hError : Payload.routersOf members = .error e) :
    (Failure.payload e).half? = some .routers := by
  induction members with
  | nil => cases hError
  | cons member rest ih =>
      obtain ⟨id, data⟩ := member
      rw [Payload.routersOf] at hError
      split at hError
      case h_1 => cases hError; rfl
      case h_2 => exact ih (map_eq_error_iff.mp hError)

theorem Failure.half?_routers
    {document : Json.Value}
    {e : Payload.Error}
    (hError : Payload.routers document = .error e) :
    (Failure.payload e).half? = some .routers := by
  unfold Payload.routers at hError
  split at hError
  case h_1 => exact half?_routersOf (map_eq_error_iff.mp hError)
  case h_2 => cases hError; rfl

/- An entry that is no instance is a failure of the instances. -/
theorem Failure.half?_groupOf
    {group : Wide}
    {entries : List Json.Value}
    {e : Payload.Error}
    (hError : Payload.groupOf group entries = .error e) :
    (Failure.payload e).half? = some .instances := by
  induction entries with
  | nil => cases hError
  | cons entry rest ih =>
      rw [Payload.groupOf] at hError
      split at hError
      case h_1 => cases hError; rfl
      case h_2 => exact ih (map_eq_error_iff.mp hError)

theorem Failure.half?_groupsOf
    {members : Json.Members}
    {e : Payload.Error}
    (hError : Payload.groupsOf members = .error e) :
    (Failure.payload e).half? = some .instances := by
  fun_induction Payload.groupsOf members with
  | case1 => cases hError
  | case2 group entries rest e' hGroup =>
      cases hError
      exact half?_groupOf hGroup
  | case3 group entries rest found hGroup ih =>
      exact ih (map_eq_error_iff.mp hError)
  | case4 => cases hError; rfl

theorem Failure.half?_instances
    {document : Json.Value}
    {e : Payload.Error}
    (hError : Payload.routingInstances document = .error e) :
    (Failure.payload e).half? = some .instances := by
  unfold Payload.routingInstances at hError
  split at hError
  case h_1 => exact half?_groupsOf hError
  case h_2 => cases hError; rfl

------------------------------------------------------------
-- Results of Both
------------------------------------------------------------

/- Both results make a directory if their documents do. -/
theorem gather_eq_ok_iff
    {first second : Except Failure Json.Value}
    {directory : Directory Wide} :
    gather first second = .ok directory ↔
      ∃ routers instances,
        first = .ok routers ∧ second = .ok instances ∧
          Directory.ofPayloads routers instances = .ok directory := by
  simp only [gather, Directory.ofPayloads, bind_eq_ok_iff,
    mapError_eq_ok_iff, pure, Except.pure, Except.ok.injEq]
  constructor
  · rintro ⟨r, hFirst, routers, hRouters, i, hSecond, groups,
      hGroups, hDirectory⟩
    exact ⟨r, i, hFirst, hSecond, routers, hRouters, groups,
      hGroups, hDirectory⟩
  · rintro ⟨r, i, hFirst, hSecond, routers, hRouters, groups,
      hGroups, hDirectory⟩
    exact ⟨r, hFirst, routers, hRouters, i, hSecond, groups,
      hGroups, hDirectory⟩

/- The four ways in which results make no directory. -/
theorem gather_error_cases
    {first second : Except Failure Json.Value}
    {e : Failure}
    (hError : gather first second = .error e) :
    first = .error e ∨
    (∃ document e', first = .ok document ∧
      Payload.routers document = .error e' ∧ e = .payload e') ∨
    ∃ document routers, first = .ok document ∧
      Payload.routers document = .ok routers ∧
      (second = .error e ∨
        ∃ other e', second = .ok other ∧
          Payload.routingInstances other = .error e' ∧
            e = .payload e') := by
  unfold gather at hError
  cases first with
  | error => left; cases hError; rfl
  | ok document =>
      right
      cases hRouters : Payload.routers document with
      | error e' =>
          left
          simp [bind, Except.bind, hRouters] at hError
          exact ⟨document, e', rfl, hRouters, hError.symm⟩
      | ok routers =>
          right
          refine ⟨document, routers, rfl, hRouters, ?_⟩
          cases second with
          | error =>
              left
              simp [bind, Except.bind, hRouters] at hError
              rw [hError]
          | ok other =>
              right
              cases hGroups : Payload.routingInstances other with
              | error e' =>
                  simp [bind, Except.bind, hRouters, hGroups]
                    at hError
                  exact ⟨other, e', rfl, hGroups, hError.symm⟩
              | ok groups =>
                  simp [bind, Except.bind, hRouters, hGroups, pure,
                    Except.pure] at hError

------------------------------------------------------------
-- All or Nothing
------------------------------------------------------------

/- The errors in the log of a loading. -/
def Loading.errors
    (loading : Loading) : List Log.Record :=
  loading.log.filter fun record => record.level = .error

/- Whether the routers' reply delivers routers. -/
def DeliversRouters
    (service : Service)
    (url : Half → Url) : Prop :=
  ∃ document routers,
    (service.reply (url .routers)).Delivers document ∧
      Payload.routers document = .ok routers

/-
  What every loading comes to. Both requests are made once. If
  both replies deliver documents that make a directory, it is
  this directory, and no error is logged. Otherwise it is a
  failure of loading, which is the one error in the log; it is
  one of the routers whenever these fail.
-/
structure AllOrNothing
    (service : Service)
    (url : Half → Url)
    (loading : Loading) : Prop where
  requests :
    loading.requests.Perm [url .routers, url .instances]
  directory (directory : Directory Wide) :
    loading.outcome = .ok directory ↔
      ∃ routers instances,
        (service.reply (url .routers)).Delivers routers ∧
          (service.reply (url .instances)).Delivers instances ∧
          Directory.ofPayloads routers instances = .ok directory
  quiet (directory : Directory Wide) :
    loading.outcome = .ok directory → loading.errors = []
  failure (e : Failure) :
    loading.outcome = .error e →
      e.isOfLoading = true ∧
        (DeliversRouters service url → e.half? = some .instances) ∧
        (¬DeliversRouters service url → e.half? = some .routers) ∧
        loading.errors =
          [⟨.error, "Directory initialization failed: " ++
            e.message⟩]

section Sessions

variable {service : Service}
variable {address : String}
variable {base : Url}
variable {url : Half → Url}

/- A result that is a document was delivered, and only that. -/
theorem IsResult.ok_iff
    {half : Half}
    {result : Except Failure Json.Value}
    (hResult : IsResult service url half result)
    (document : Json.Value) :
    result = .ok document ↔
      (service.reply (url half)).Delivers document := by
  cases result with
  | ok found =>
      constructor
      · intro hFound
        cases hFound
        exact hResult
      · intro hDelivers
        rw [hDelivers.unique hResult]
  | error e =>
      constructor
      · intro hFound
        cases hFound
      · intro hDelivers
        exact absurd hDelivers (hResult.2 document)

/- A failed result is one of loading, and one of its half. -/
theorem IsResult.failure
    {half : Half}
    {e : Failure}
    (hResult : IsResult service url half (.error e)) :
    e.isOfLoading = true ∧ e.half? = some half := by
  obtain ⟨⟨fault, rfl, hBreaking⟩, -⟩ := hResult
  constructor
  · rw [Failure.isOfLoading_request, hBreaking]
    rfl
  · exact Failure.half?_request half fault

/- Where results make no directory, this is a failure of loading. -/
theorem gather_failure
    {first second : Except Failure Json.Value}
    {e : Failure}
    (hFirst : IsResult service url .routers first)
    (hSecond : IsResult service url .instances second)
    (hError : gather first second = .error e) :
    e.isOfLoading = true ∧
      (DeliversRouters service url → e.half? = some .instances) ∧
      (¬DeliversRouters service url → e.half? = some .routers) := by
  rcases gather_error_cases hError with
    rfl | ⟨document, e', rfl, hRouters, rfl⟩ |
      ⟨document, routers, rfl, hRouters, hRest⟩
  · refine ⟨hFirst.failure.1, ?_, fun _ => hFirst.failure.2⟩
    rintro ⟨document, _, hDelivers, _⟩
    exact absurd hDelivers (hFirst.2 document)
  · refine ⟨rfl, ?_, fun _ => Failure.half?_routers hRouters⟩
    rintro ⟨other, routers, hDelivers, hOther⟩
    rw [hDelivers.unique hFirst, hRouters] at hOther
    cases hOther
  · have hDelivers : DeliversRouters service url :=
      ⟨document, routers, hFirst, hRouters⟩
    have hHalf :
        e.isOfLoading = true ∧ e.half? = some .instances := by
      rcases hRest with rfl | ⟨other, e', _, hGroups, rfl⟩
      · exact hSecond.failure
      · exact ⟨rfl, Failure.half?_instances hGroups⟩
    exact ⟨hHalf.1, fun _ => hHalf.2, absurd hDelivers⟩

/- A sound session in which both fetches have ended. -/
theorem Session.IsSound.allOrNothing
    {session : Session}
    {first second : Except Failure Json.Value}
    (hSound : session.IsSound service url)
    (hFirst : session.stage .routers = .ended first)
    (hSecond : session.stage .instances = .ended second) :
    ∃ loading, session.loading? = some loading ∧
      AllOrNothing service url loading := by
  have hRouters : IsResult service url .routers first := by
    have hStage := hSound.stage .routers
    rwa [hFirst] at hStage
  have hInstances : IsResult service url .instances second := by
    have hStage := hSound.stage .instances
    rwa [hSecond] at hStage
  have hQuiet :
      session.log.filter (fun record => record.level = .error) =
        [] := by
    apply List.filter_eq_nil_iff.mpr
    intro record hRecord
    simp [hSound.log record hRecord]
  refine ⟨_, by rw [loading?, hFirst, hSecond], ?_⟩
  constructor
  · have hSent := hSound.requests
    simpa [sentHalves, hFirst, hSecond, Stage.isSent] using hSent
  · intro directory
    simp only [gather_eq_ok_iff, hRouters.ok_iff, hInstances.ok_iff]
  · intro directory hOutcome
    simp only at hOutcome
    simp [Loading.errors, hQuiet, hOutcome, outcomeLog]
  · intro e hOutcome
    simp only at hOutcome
    obtain ⟨hLoading, hHalf⟩ :=
      gather_failure hRouters hInstances hOutcome
    refine ⟨hLoading, hHalf.1, hHalf.2, ?_⟩
    simp [Loading.errors, hQuiet, hOutcome, outcomeLog, hLoading]

/-
  Whatever the order of the turns is, all or nothing comes of a
  session in which each fetch has two of them.
-/
theorem allOrNothing_run
    (hBase : IsBase address base url)
    (hNever : ∀ half, service.NeverBreaks (url half))
    {turns : List Turn}
    (hTurns : ∀ half, 2 ≤ turnsOf half turns) :
    ∃ loading,
      (Session.run service address base {} turns).loading? =
          some loading ∧
        AllOrNothing service url loading := by
  obtain ⟨first, hFirst⟩ :=
    Session.ended_of_turns service address base (hTurns .routers)
  obtain ⟨second, hSecond⟩ :=
    Session.ended_of_turns service address base
      (hTurns .instances)
  have hSound : (Session.run service address base {} turns).IsSound
      service url :=
    Session.isSound_start.run hBase hNever turns
  exact hSound.allOrNothing hFirst hSecond

------------------------------------------------------------
-- One after the Other
------------------------------------------------------------

/- What is asked for at the path of a half. -/
theorem get_eq
    (hBase : IsBase address base url)
    (hNever : ∀ half, service.NeverBreaks (url half))
    (half : Half)
    (held : Cookie.Jar) :
    get service held base half.path =
      ((service.reply (url half)).read service.clock held
        (url half)).mapError (.request half.path) := by
  rw [get, hBase.below half]
  simp only [Service.ask_eq_read (hBase.sendable half)
    (hNever half)]

/- Loading makes both requests. -/
theorem requests_load
    (hBase : IsBase address base url) :
    (load service address).requests =
      [url .routers, url .instances] := by
  have hRouters : below base routersPath = .ok (url .routers) :=
    hBase.below .routers
  have hInstances :
      below base instancesPath = .ok (url .instances) :=
    hBase.below .instances
  simp [load, hBase.read, requests, hRouters, hInstances,
    Except.toOption, Except.toBool,
    (hBase.sendable .routers).destination,
    (hBase.sendable .instances).destination]

/- The cookies that the first reply leaves. -/
def heldAfter
    (service : Service)
    (url : Half → Url) : Cookie.Jar :=
  match
    (service.reply (url .routers)).read service.clock []
      (url .routers)
  with
  | .ok visit => visit.jar
  | .error _ => []

/- Both requests are sent before any reply is read. -/
def inOrder
    (service : Service)
    (url : Half → Url) : List Turn :=
  let held := heldAfter service url
  [⟨.routers, []⟩, ⟨.instances, []⟩, ⟨.routers, []⟩,
    ⟨.instances, held⟩]

theorem outcome_load
    (hBase : IsBase address base url)
    (hNever : ∀ half, service.NeverBreaks (url half)) :
    (load service address).outcome =
      gather
        (Session.answer service (url .routers) ⟨.routers, []⟩)
        (Session.answer service (url .instances)
          ⟨.instances, heldAfter service url⟩) := by
  have hRouters := get_eq hBase hNever .routers []
  have hInstances := get_eq hBase hNever .instances
  simp only [Half.path] at hRouters hInstances
  rw [load, hBase.read]
  simp only [directory, gather, Session.answer, heldAfter,
    hRouters, hInstances, Half.path]
  cases (service.reply (url .routers)).read service.clock []
      (url .routers) with
  | error fault => rfl
  | ok visit =>
      simp only [mapError_ok, Except.map, bind, Except.bind]
      cases Payload.routers visit.document with
      | error e => rfl
      | ok routers =>
          cases (service.reply (url .instances)).read service.clock
              visit.jar (url .instances) <;>
            rfl

/- What loading logs, with the outcome last. -/
def logOf
    (address : String)
    (outcome : Except Failure (Directory Wide)) : List Log.Record :=
  [⟨.debug, s!"GET {address}{routersPath}"⟩,
    ⟨.debug, s!"GET {address}{instancesPath}"⟩] ++
  outcomeLog outcome

theorem log_load
    (hBase : IsBase address base url) :
    (load service address).log =
      logOf address (load service address).outcome := by
  rw [load, hBase.read]
  rfl

/- Loading is the session in which they come in their order. -/
theorem load_is_session
    (hBase : IsBase address base url)
    (hNever : ∀ half, service.NeverBreaks (url half)) :
    (Session.run service address base {}
        (inOrder service url)).loading? =
      some (load service address) := by
  have hTarget := Turn.target_eq hBase hNever
  have hSession :
      (Session.run service address base {}
          (inOrder service url)).loading? =
        some
          { outcome := (load service address).outcome
            log := logOf address (load service address).outcome
            requests := (load service address).requests } := by
    rw [outcome_load hBase hNever, requests_load hBase]
    simp [Session.run, inOrder, Session.turn, Session.send,
      hTarget, Session.move, Session.loading?, logOf, Half.path]
  rw [hSession, ← log_load hBase]

/- So what holds of all sessions in full also holds of loading. -/
theorem exists_turns_load
    (hBase : IsBase address base url)
    (hNever : ∀ half, service.NeverBreaks (url half)) :
    ∃ turns, (∀ half, 2 ≤ turnsOf half turns) ∧
      (Session.run service address base {} turns).loading? =
        some (load service address) := by
  refine ⟨inOrder service url, ?_, load_is_session hBase hNever⟩
  intro half
  cases half <;> exact Nat.le_refl 2

theorem allOrNothing_load
    (hBase : IsBase address base url)
    (hNever : ∀ half, service.NeverBreaks (url half)) :
    AllOrNothing service url (load service address) := by
  obtain ⟨turns, hTurns, hLoad⟩ := exists_turns_load hBase hNever
  obtain ⟨loading, hLoading, hAll⟩ :=
    allOrNothing_run hBase hNever hTurns
  cases hLoad.symm.trans hLoading
  exact hAll

end Sessions

end LookingGlass.Collector
