import LookingGlass.Proofs.Collector.Answer
import Mathlib.Logic.Function.Basic

/-
  This file defines sessions: the loading of a directory in
  which the two requests are under way at the same time, and
  take their turns in any order.

  A fetch has two turns: in the first one its request is sent,
  in the second one the reply is read. Which cookies there are
  at a turn is left open.

  Main declarations:
    * `Session`, `Session.turn` and `Session.run`
    * `gather` and `Session.loading?`
    * `IsBase`
    * `Session.IsSound` and `Session.IsSound.run`
    * `Session.ended_of_turns`
-/

namespace LookingGlass.Collector

open Text (Wide)

------------------------------------------------------------
-- Sessions
------------------------------------------------------------

/- The two halves of a directory, each with its own request. -/
inductive Half
  | routers
  | instances
deriving DecidableEq, Repr

/- The path of a half. -/
def Half.path :
    Half → String
  | .routers => routersPath
  | .instances => instancesPath

/- How far the fetch of a half has come. -/
inductive Stage
  | waiting
  | asked (url : Url)
  | ended (result : Except Failure Json.Value)

/- The loading of a directory on its way. -/
structure Session where
  stage : Half → Stage := fun _ => .waiting
  log : List Log.Record := []
  requests : List Url := []

/- Which fetch goes on, and the cookies that there are then. -/
structure Turn where
  half : Half
  held : Cookie.Jar

/- The address that the request of a turn is sent to. -/
def Turn.target
    (turn : Turn)
    (base : Url) : Except Failure Url :=
  match below base turn.half.path with
  | .error e => .error (.request turn.half.path (.address e))
  | .ok url => do
    (checkCookies turn.held url).mapError (.request turn.half.path)
    (checkDestination url).mapError (.request turn.half.path)
    return url

namespace Session

/- A session in which a fetch has come to another stage. -/
def move
    (session : Session)
    (half : Half)
    (stage : Stage) : Session :=
  { session with stage := Function.update session.stage half stage }

/- A session after the first turn of a fetch. -/
def send
    (address : String)
    (base : Url)
    (session : Session)
    (turn : Turn) : Session :=
  let path := turn.half.path
  let log := session.log ++ [⟨.debug, s!"GET {address}{path}"⟩]
  match turn.target base with
  | .error e =>
    { session.move turn.half (.ended (.error e)) with log }
  | .ok url =>
    { session.move turn.half (.asked url) with
      log
      requests := session.requests ++ [url] }

/- What the reply to the request of a fetch comes to. -/
def answer
    (service : Service)
    (url : Url)
    (turn : Turn) : Except Failure Json.Value :=
  (((service.reply url).read service.clock turn.held url).map
    Visit.document).mapError (.request turn.half.path)

variable (service : Service)
variable (address : String)
variable (base : Url)

/- A session after a turn. -/
def turn
    (session : Session)
    (turn : Turn) : Session :=
  match session.stage turn.half with
  | .waiting => session.send address base turn
  | .asked url =>
    session.move turn.half (.ended (answer service url turn))
  | .ended _ => session

/- A session after many turns. -/
def run
    (session : Session)
    (turns : List Turn) : Session :=
  turns.foldl (Session.turn service address base) session

end Session

/-
  The directory of two results. Where there is none of the
  routers, the other result is not looked at.
-/
def gather
    (first second : Except Failure Json.Value) :
    Except Failure (Directory Wide) := do
  let routers ← (Payload.routers (← first)).mapError .payload
  let groups ←
    (Payload.routingInstances (← second)).mapError .payload
  return { routers, groups }

/- What comes of a session, as soon as both fetches have ended. -/
def Session.loading?
    (session : Session) : Option Loading :=
  match session.stage .routers, session.stage .instances with
  | .ended first, .ended second =>
    let outcome := gather first second
    some
      { outcome
        log := session.log ++ outcomeLog outcome
        requests := session.requests }
  | _, _ => none

------------------------------------------------------------
-- Addresses
------------------------------------------------------------

/- A base with the addresses below it, which can be asked. -/
structure IsBase
    (address : String)
    (base : Url)
    (url : Half → Url) : Prop where
  read : Collector.base address = .ok base
  below : ∀ half, Collector.below base half.path = .ok (url half)
  sendable : ∀ half, IsSendable (url half)

section Turns

variable {service : Service}
variable {address : String}
variable {base : Url}
variable {url : Half → Url}

/- The request of a turn is sent to the address of its half. -/
theorem Turn.target_eq
    (hBase : IsBase address base url)
    (hNever : ∀ half, service.NeverBreaks (url half))
    (turn : Turn) :
    turn.target base = .ok (url turn.half) := by
  have hSendable := hBase.sendable turn.half
  have hCookies :=
    Service.checkCookies_of_neverBreaks hSendable
      (hNever turn.half) turn.held
  simp [target, hBase.below, hCookies, hSendable.destination, bind,
    Except.bind, pure, Except.pure]

------------------------------------------------------------
-- Results
------------------------------------------------------------

/-
  Whether a result is that of a half: the document that the
  reply delivers, or a failure where it delivers none.
-/
def IsResult
    (service : Service)
    (url : Half → Url)
    (half : Half) :
    Except Failure Json.Value → Prop
  | .ok document => (service.reply (url half)).Delivers document
  | .error e =>
    (∃ fault, e = .request half.path fault ∧
        fault.isBreaking = false) ∧
      ∀ document, ¬(service.reply (url half)).Delivers document

/- A reply that is read leads to the result of its half. -/
theorem isResult_answer
    (hBase : IsBase address base url)
    (hNever : ∀ half, service.NeverBreaks (url half))
    (turn : Turn) :
    IsResult service url turn.half
      (Session.answer service (url turn.half) turn) := by
  rcases Service.read_of_neverBreaks (hBase.sendable turn.half)
      (hNever turn.half) turn.held with
    ⟨visit, hRead, hDelivers⟩ | ⟨fault, hRead, hBreaking, hNone⟩
  · rw [Session.answer, hRead]
    exact hDelivers
  · rw [Session.answer, hRead]
    exact ⟨⟨fault, rfl, hBreaking⟩, hNone⟩

------------------------------------------------------------
-- Soundness
------------------------------------------------------------

/- Whether a stage is one that the fetch of a half comes to. -/
def Stage.IsSound
    (service : Service)
    (url : Half → Url)
    (half : Half) :
    Stage → Prop
  | .waiting => True
  | .asked other => other = url half
  | .ended result => IsResult service url half result

/- Whether the request of a fetch has been sent. -/
def Stage.isSent :
    Stage → Bool
  | .waiting => false
  | _ => true

/- The halves of which the request has been sent. -/
def sentHalves
    (stage : Half → Stage) : List Half :=
  [.routers, .instances].filter fun half => (stage half).isSent

/-
  What holds of every session: the stages are those of their
  halves, each request was sent once, and no error was logged.
-/
structure Session.IsSound
    (service : Service)
    (url : Half → Url)
    (session : Session) : Prop where
  stage : ∀ half,
    (session.stage half).IsSound service url half
  requests :
    session.requests.Perm ((sentHalves session.stage).map url)
  log : ∀ record ∈ session.log, record.level = .debug

/- A request that is sent is one more. -/
theorem sentHalves_send
    {stage : Half → Stage}
    {half : Half}
    {next : Stage}
    (hWaiting : (stage half).isSent = false)
    (hNext : next.isSent = true) :
    (sentHalves (Function.update stage half next)).Perm
      (sentHalves stage ++ [half]) := by
  cases half with
  | routers =>
      cases hOther : (stage .instances).isSent <;>
        simp [sentHalves, Function.update, hWaiting, hNext, hOther,
          List.Perm.swap]
  | instances =>
      cases hOther : (stage .routers).isSent <;>
        simp [sentHalves, Function.update, hWaiting, hNext, hOther]

/- A request that was sent already is not sent again. -/
theorem sentHalves_move
    {stage : Half → Stage}
    {half : Half}
    {next : Stage}
    (hSent : (stage half).isSent = true)
    (hNext : next.isSent = true) :
    sentHalves (Function.update stage half next) =
      sentHalves stage := by
  cases half <;>
    simp [sentHalves, List.filter_cons, Function.update, hSent,
      hNext]

namespace Session

/- A stage of one half does not bear on the other one. -/
theorem isSound_update
    {stage : Half → Stage}
    {half : Half}
    {next : Stage}
    (hStage : ∀ other, (stage other).IsSound service url other)
    (hNext : next.IsSound service url half)
    (other : Half) :
    (Function.update stage half next other).IsSound
      service url other := by
  by_cases hSame : other = half
  · subst hSame
    rw [Function.update_self]
    exact hNext
  · rw [Function.update_of_ne hSame]
    exact hStage other

theorem isSound_start :
    IsSound service url {} :=
  { stage := fun _ => trivial
    requests := .nil
    log := by simp }

/- Every turn leaves a session sound; by its stage. -/
theorem IsSound.turn
    (hBase : IsBase address base url)
    (hNever : ∀ half, service.NeverBreaks (url half))
    {session : Session}
    (hSound : session.IsSound service url)
    (turn : Turn) :
    (session.turn service address base turn).IsSound
      service url := by
  have hTarget := Turn.target_eq hBase hNever turn
  have hAnswer := isResult_answer hBase hNever turn
  cases hStage : session.stage turn.half with
  | waiting =>
      simp only [Session.turn, hStage, send, hTarget]
      constructor
      · exact isSound_update hSound.stage rfl
      · have hSent :
            (sentHalves (Function.update session.stage turn.half
                (.asked (url turn.half)))).Perm
              (sentHalves session.stage ++ [turn.half]) :=
          sentHalves_send (by rw [hStage]; rfl) rfl
        have hUrls := hSent.map url
        rw [List.map_append] at hUrls
        exact (hSound.requests.append_right _).trans hUrls.symm
      · intro record hRecord
        rcases List.mem_append.mp hRecord with hOld | hNew
        · exact hSound.log record hOld
        · rw [List.mem_singleton.mp hNew]
  | asked other =>
      have hOther : other = url turn.half := by
        have hKnown := hSound.stage turn.half
        rwa [hStage] at hKnown
      simp only [Session.turn, hStage, hOther]
      constructor
      · exact isSound_update hSound.stage hAnswer
      · have hSent :
            sentHalves (session.move turn.half
                (.ended (answer service (url turn.half) turn))).stage =
              sentHalves session.stage :=
          sentHalves_move (by rw [hStage]; rfl) rfl
        rw [hSent]
        exact hSound.requests
      · exact hSound.log
  | ended result =>
      simpa only [Session.turn, hStage] using hSound

/- Every run leaves a session sound; by induction on its turns. -/
theorem IsSound.run
    (hBase : IsBase address base url)
    (hNever : ∀ half, service.NeverBreaks (url half))
    {session : Session}
    (hSound : session.IsSound service url)
    (turns : List Turn) :
    (session.run service address base turns).IsSound
      service url := by
  induction turns generalizing session with
  | nil => exact hSound
  | cons turn rest ih => exact ih (hSound.turn hBase hNever turn)

end Session

------------------------------------------------------------
-- Progress
------------------------------------------------------------

/- How many turns a fetch has had, as far as they count. -/
def Stage.turns :
    Stage → Nat
  | .waiting => 0
  | .asked _ => 1
  | .ended _ => 2

/- How many of the turns are those of a half. -/
def turnsOf
    (half : Half)
    (turns : List Turn) : Nat :=
  turns.countP fun turn => turn.half = half

namespace Session

variable (service)
variable (address)
variable (base)

/- A turn brings its own fetch on, and no other one back. -/
theorem turns_turn
    (session : Session)
    (turn : Turn)
    (half : Half) :
    min 2 ((session.stage half).turns +
        if turn.half = half then 1 else 0) ≤
      ((session.turn service address base turn).stage half).turns := by
  by_cases hSame : turn.half = half
  · subst hSame
    cases hStage : session.stage turn.half with
    | waiting =>
        simp only [Session.turn, hStage, send]
        cases turn.target base <;> simp [move, Stage.turns]
    | asked other => simp [Session.turn, hStage, move, Stage.turns]
    | ended result => simp [Session.turn, hStage, Stage.turns]
  · have hOther : half ≠ turn.half := Ne.symm hSame
    have hKept :
        (session.turn service address base turn).stage half =
          session.stage half := by
      simp only [Session.turn, send]
      split
      · split <;> simp [move, hOther]
      · simp [move, hOther]
      · rfl
    rw [hKept, if_neg hSame]
    omega

/- A run brings a fetch on by as many turns as it has in it. -/
theorem turns_run
    (session : Session)
    (turns : List Turn)
    (half : Half) :
    min 2 ((session.stage half).turns + turnsOf half turns) ≤
      ((session.run service address base turns).stage half).turns := by
  induction turns generalizing session with
  | nil => exact Nat.min_le_right _ _
  | cons turn rest ih =>
      have hTurn :=
        turns_turn service address base session turn half
      have hRest := ih (session.turn service address base turn)
      have hCount :
          turnsOf half (turn :: rest) =
            turnsOf half rest + if turn.half = half then 1 else 0 := by
        simp [turnsOf, List.countP_cons]
      rw [hCount]
      change _ ≤ (((session.turn service address base turn).run
        service address base rest).stage half).turns
      omega

/- A fetch with two turns has ended. -/
theorem ended_of_turns
    {turns : List Turn}
    {half : Half}
    (hTurns : 2 ≤ turnsOf half turns) :
    ∃ result,
      (Session.run service address base {} turns).stage half =
        .ended result := by
  have hRun := turns_run service address base {} turns half
  cases hStage :
      (Session.run service address base {} turns).stage half with
  | waiting => simp [hStage, Stage.turns] at hRun; omega
  | asked other => simp [hStage, Stage.turns] at hRun; omega
  | ended result => exact ⟨result, rfl⟩

end Session

end Turns

end LookingGlass.Collector
