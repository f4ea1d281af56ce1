import LookingGlass.Collector.Load
import LookingGlass.Proofs.Outcome

/-
  When a request yields a document: the answer has a status of
  success and a content that reads as one. Cookies only ever
  break a request off; they have no part in its document.

  Main declarations:
    * `Fault.isBreaking`
    * `Reply.Delivers`
    * `Reply.delivers_of_read`
    * `Reply.read_of_delivers`
    * `Service.NeverBreaks`
    * `Service.checkCookies_of_neverBreaks`
-/

namespace LookingGlass.Collector

------------------------------------------------------------
-- Faults
------------------------------------------------------------

/- Whether a fault breaks everything off. -/
def Fault.isBreaking :
    Fault → Bool
  | .document (.text .tooDeep) | .cookie _ => true
  | _ => false

/- A failed request is one of loading unless it breaks off. -/
theorem Failure.isOfLoading_request
    (path : String)
    (fault : Fault) :
    (Failure.request path fault).isOfLoading =
      !fault.isBreaking := by
  unfold isOfLoading Fault.isBreaking
  split <;> simp_all

------------------------------------------------------------
-- Replies
------------------------------------------------------------

theorem isRedirect_of_isSuccess
    {status : Nat}
    (hSuccess : isSuccess status = true) :
    isRedirect status = false := by
  simp only [isSuccess, Bool.and_eq_true, decide_eq_true_eq]
    at hSuccess
  have hCodes :
      ¬(status = 301 ∨ status = 302 ∨ status = 303 ∨
        status = 307 ∨ status = 308) := by
    omega
  simpa [isRedirect] using hCodes

namespace Reply

/-
  Whether a reply delivers a document: its content, with all
  codings undone, reads as the document, and its status is one
  of success.
-/
def Delivers
    (reply : Reply)
    (document : Json.Value) : Prop :=
  ∃ status headers body content,
    reply = .answered status headers body ∧
      headers.check = .ok () ∧
      undoAll headers.codings body = .ok content ∧
      200 ≤ status ∧ status ≤ 299 ∧
      Json.Value.ofBytes content = .ok document

/- A reply delivers one document at most. -/
theorem Delivers.unique
    {reply : Reply}
    {first second : Json.Value}
    (hFirst : reply.Delivers first)
    (hSecond : reply.Delivers second) :
    first = second := by
  obtain ⟨_, _, _, _, rfl, -, hContent, -, -, hRead⟩ := hFirst
  obtain ⟨_, _, _, _, hReply, -, hContent', -, -, hRead'⟩ := hSecond
  cases hReply
  cases hContent.symm.trans hContent'
  exact Except.ok.inj (hRead.symm.trans hRead')

variable {clock : Cookie.Date.Clock}
variable {held : Cookie.Jar}
variable {url : Url}
variable {reply : Reply}

/- What is read in a reply was delivered by it. -/
theorem delivers_of_read
    {visit : Visit}
    (hRead : reply.read clock held url = .ok visit) :
    reply.Delivers visit.document := by
  cases reply with
  | failed message => cases hRead
  | answered status headers body =>
      simp only [read, readAnswer, bind_eq_ok_iff,
        mapError_eq_ok_iff] at hRead
      obtain ⟨_, hHeaders, content, hContent, _, _, _, _, hRest⟩ :=
        hRead
      cases hSuccess : isSuccess status with
      | false =>
          exfalso
          split at hRest <;>
            simp [hSuccess, bind_eq_ok_iff, throw, throwThe,
              MonadExceptOf.throw] at hRest
      | true =>
          simp only [isRedirect_of_isSuccess hSuccess, hSuccess,
            Bool.not_true, Bool.false_eq_true, if_false,
            bind_eq_ok_iff, mapError_eq_ok_iff] at hRest
          obtain ⟨document, hDocument, hVisit⟩ := hRest
          cases hVisit
          simp only [isSuccess, Bool.and_eq_true,
            decide_eq_true_eq] at hSuccess
          exact ⟨status, headers, body, content, rfl, hHeaders,
            hContent, hSuccess.1, hSuccess.2, hDocument⟩

/-
  A delivered document is read, whatever the cookies are, unless
  they break it off.
-/
theorem read_of_delivers
    {origin : Cookie.Origin}
    {document : Json.Value}
    (hOrigin : originOf url = .ok origin)
    (hDelivers : reply.Delivers document) :
    (∃ jar, reply.read clock held url = .ok ⟨document, jar⟩) ∨
      ∃ e, reply.read clock held url = .error (.cookie e) := by
  obtain ⟨status, headers, body, content, rfl, hHeaders, hContent,
    hFrom, hTo, hDocument⟩ := hDelivers
  have hSuccess : isSuccess status = true := by
    simp [isSuccess, hFrom, hTo]
  have hNoRedirect := isRedirect_of_isSuccess hSuccess
  cases hTake :
      held.take clock origin (headers.values "set-cookie")
        (headers.values "set-cookie2") with
  | ok jar =>
      left
      exact ⟨jar, by
        simp [read, readAnswer, bind, Except.bind, pure, Except.pure,
          hHeaders, hContent, hOrigin, hTake, hNoRedirect, hSuccess,
          hDocument]⟩
  | error e =>
      right
      exact ⟨e, by
        simp [read, readAnswer, bind, Except.bind, hHeaders, hContent,
          hOrigin, hTake]⟩

end Reply

------------------------------------------------------------
-- Requests
------------------------------------------------------------

/- Whether a request to an address can be sent. -/
structure IsSendable
    (url : Url) : Prop where
  destination : checkDestination url = .ok ()
  origin : ∃ origin, originOf url = .ok origin

/- Whether cookies go along only depends on the origin. -/
theorem checkCookies_eq
    {url : Url}
    {origin : Cookie.Origin}
    (hOrigin : originOf url = .ok origin)
    (held : Cookie.Jar) :
    checkCookies held url =
      (held.check origin).mapError .cookie := by
  cases held with
  | nil => rfl
  | cons cookie rest =>
      simp [checkCookies, hOrigin, bind, Except.bind]

/- Where there is a place to look for a port, cookies go along. -/
theorem checkCookies_of_place
    {url : Url}
    {origin : Cookie.Origin}
    (hOrigin : originOf url = .ok origin)
    (hPlace : origin.place.isSome = true)
    (held : Cookie.Jar) :
    checkCookies held url = .ok () := by
  obtain ⟨place, hSome⟩ := Option.isSome_iff_exists.mp hPlace
  rw [checkCookies_eq hOrigin]
  simp [Cookie.Jar.check, hSome]

namespace Service

/-
  Whether requests to an address never break everything off,
  whatever cookies there are.
-/
def NeverBreaks
    (service : Service)
    (url : Url) : Prop :=
  ∀ held fault,
    service.ask held url = .error fault → fault.isBreaking = false

variable {service : Service}
variable {url : Url}

/- Such a request can always be sent. -/
theorem checkCookies_of_neverBreaks
    (hSendable : IsSendable url)
    (hNever : service.NeverBreaks url)
    (held : Cookie.Jar) :
    checkCookies held url = .ok () := by
  obtain ⟨origin, hOrigin⟩ := hSendable.origin
  have hCookies := checkCookies_eq hOrigin held
  cases hCheck : held.check origin with
  | ok => rw [hCookies, hCheck, mapError_ok]
  | error e =>
      have hAsk : service.ask held url = .error (.cookie e) := by
        rw [ask, hCookies, hCheck]
        rfl
      cases hNever held _ hAsk

/- With a place to look for a port, it is up to the reply. -/
theorem neverBreaks_of_place
    {origin : Cookie.Origin}
    (hDestination : checkDestination url = .ok ())
    (hOrigin : originOf url = .ok origin)
    (hPlace : origin.place.isSome = true)
    (hReply : ∀ held fault,
      (service.reply url).read service.clock held url =
          .error fault →
        fault.isBreaking = false) :
    service.NeverBreaks url := by
  intro held fault hAsk
  rw [ask, checkCookies_of_place hOrigin hPlace, hDestination]
    at hAsk
  exact hReply held fault hAsk

/- Then only the reply decides what is asked for. -/
theorem ask_eq_read
    (hSendable : IsSendable url)
    (hNever : service.NeverBreaks url)
    (held : Cookie.Jar) :
    service.ask held url =
      (service.reply url).read service.clock held url := by
  rw [ask, checkCookies_of_neverBreaks hSendable hNever,
    hSendable.destination]
  rfl

/-
  What comes of the reply to such a request: the document that
  it delivers, or a fault of loading where it delivers none.
-/
theorem read_of_neverBreaks
    (hSendable : IsSendable url)
    (hNever : service.NeverBreaks url)
    (held : Cookie.Jar) :
    (∃ visit,
      (service.reply url).read service.clock held url = .ok visit ∧
        (service.reply url).Delivers visit.document) ∨
    ∃ fault,
      (service.reply url).read service.clock held url =
          .error fault ∧
        fault.isBreaking = false ∧
        ∀ document, ¬(service.reply url).Delivers document := by
  cases hRead :
      (service.reply url).read service.clock held url with
  | ok visit =>
      left
      exact ⟨visit, rfl, Reply.delivers_of_read hRead⟩
  | error fault =>
      right
      have hBreaking : fault.isBreaking = false := by
        apply hNever held
        rw [ask_eq_read hSendable hNever, hRead]
      refine ⟨fault, rfl, hBreaking, ?_⟩
      intro document hDelivers
      obtain ⟨origin, hOrigin⟩ := hSendable.origin
      rcases Reply.read_of_delivers hOrigin hDelivers with
        ⟨jar, hOk⟩ | ⟨e, hCookie⟩
      · cases hRead.symm.trans hOk
      · cases hRead.symm.trans hCookie
        cases hBreaking

end Service

end LookingGlass.Collector
