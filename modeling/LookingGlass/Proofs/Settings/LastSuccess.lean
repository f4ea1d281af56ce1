import LookingGlass.Proofs.Json.Update
import LookingGlass.Proofs.Settings.History
import Mathlib.Data.List.Permutation

/-
  What settings are in force after any history: the defaults
  updated with what the last assignment gave that did not fail,
  or the bare defaults after a reset. Nothing of what came
  before remains, and an assignment that fails, in its reading
  or part way through the update, leaves all as it was.

  Main declarations:
    * `Configuration.Holds`, `Configuration.Gives` and
      `ofConfiguration_eq_ok_iff`
    * `Holder.assignInPlace` and `Holder.assignInPlace_eq`
    * `Holder.Step` and `Holder.takeAll`
    * `Holder.OfLastSuccess`, `OfLastSuccess.take` and
      `OfLastSuccess.takeAll`
    * `Holder.settings_are_of_last_success`
-/

namespace LookingGlass

open Text (Wide)
open Json (Key Value)
open Json.Table (IsMapping IsUpdate updateInPlace)

------------------------------------------------------------
-- What is Given
------------------------------------------------------------

namespace Configuration

/-
  The values that configurations hold. Without one it is null. A
  text is read as JSON, whether it is written down, in an open
  file or a value itself, and any other value is held as it is.
-/
inductive Holds :
    Configuration → Value → Prop
  | absent :
      Holds .absent .null
  | written
      {text : Wide}
      {value : Value}
      (hRead : Value.read text = .ok value) :
      Holds (.written text) value
  | opened
      {text : Wide}
      {value : Value}
      (hRead : Value.read text = .ok value) :
      Holds (.opened text) value
  | text
      {text : Wide}
      {value : Value}
      (hRead : Value.read text = .ok value) :
      Holds (.value (.text text)) value
  | value
      {value : Value}
      (hOther : ∀ text, value ≠ .text text) :
      Holds (.value value) value

/-
  What a configuration gives to set: nothing where it holds
  null, and otherwise the pairs of the value that it holds.
-/
inductive Gives
    (configuration : Configuration) :
    List (Key × Value) → Prop
  | nothing
      (hNull : configuration.Holds .null) :
      Gives configuration []
  | pairs
      {value : Value}
      {found : List (Key × Value)}
      (hValue : configuration.Holds value)
      (hMapping : IsMapping value found) :
      Gives configuration found

/- What is decoded is what is held. -/
theorem decode_eq_ok_iff
    {configuration : Configuration}
    {value : Value} :
    configuration.decode = .ok value ↔
      configuration.Holds value := by
  constructor
  · intro hDecoded
    unfold decode at hDecoded
    split at hDecoded
    case h_1 =>
      cases hDecoded
      exact .absent
    case h_2 => exact .written hDecoded
    case h_3 => exact .opened hDecoded
    case h_4 => exact .text hDecoded
    case h_5 hOther =>
      cases hDecoded
      exact .value hOther
  · intro hHolds
    cases hHolds with
    | absent => rfl
    | written hRead => exact hRead
    | opened hRead => exact hRead
    | text hRead => exact hRead
    | value hOther =>
        cases value with
        | text text => exact absurd rfl (hOther text)
        | _ => rfl

end Configuration

namespace Settings

open LookingGlass.Configuration (decode_eq_ok_iff)

/- A value that is not null updates the defaults. -/
theorem ofConfiguration_of_value
    {configuration : Configuration}
    {value : Value}
    (hValue : configuration.decode = .ok value)
    (hOther : value = .null → False)
    (defaults : Settings) :
    ofConfiguration defaults configuration =
      (defaults.update value).mapError .table := by
  unfold ofConfiguration
  rw [hValue]
  split
  case h_1 hError => cases hError
  case h_2 hNull => exact (hOther (Except.ok.inj hNull)).elim
  case h_3 hSame => rw [Except.ok.inj hSame]

/- A configuration is taken over if it gives something to set. -/
theorem ofConfiguration_eq_ok_iff
    {defaults settings : Settings}
    {configuration : Configuration} :
    ofConfiguration defaults configuration = .ok settings ↔
      ∃ found, configuration.Gives found ∧
        settings = defaults.putAll found := by
  constructor
  · intro hTaken
    unfold ofConfiguration at hTaken
    split at hTaken
    case h_1 => cases hTaken
    case h_2 hNull =>
      cases hTaken
      exact ⟨[], .nothing (decode_eq_ok_iff.mp hNull), rfl⟩
    case h_3 value _ hValue =>
      rcases map_eq_ok_iff.mp (mapError_eq_ok_iff.mp hTaken) with
        ⟨found, hFound, rfl⟩
      exact ⟨found,
        .pairs (decode_eq_ok_iff.mp hValue)
          (Json.Table.pairs_eq_ok_iff.mp hFound), rfl⟩
  · rintro ⟨found, hGives, rfl⟩
    cases hGives with
    | nothing hNull =>
        simp only [ofConfiguration, decode_eq_ok_iff.mpr hNull]
        rfl
    | @pairs value _ hValue hMapping =>
        have hOther : value = .null → False := by
          rintro rfl
          cases hMapping
        have hFound := Json.Table.pairs_eq_ok_iff.mpr hMapping
        rw [ofConfiguration_of_value (decode_eq_ok_iff.mpr hValue)
            hOther, mapError_eq_ok_iff, Json.Table.update, map_eq_ok_iff]
        exact ⟨found, hFound, rfl⟩

namespace Holder

------------------------------------------------------------
-- Assignments in Place
------------------------------------------------------------

/-
  An assignment step by step. The configuration is read, a copy
  of the defaults is updated in place, and the copy is held in
  the end. With a fault on the way, the copy is left behind as
  far as it got.
-/
def assignInPlace
    (holder : Holder)
    (configuration : Configuration) :
    Holder × Option Error :=
  match configuration.decode with
  | .error e => (holder, some (.malformed e))
  | .ok .null =>
    ({ holder with held := some holder.defaults }, none)
  | .ok value =>
    match updateInPlace holder.defaults value with
    | (copy, none) => ({ holder with held := some copy }, none)
    | (_, some e) => (holder, some (.table e))

/- It ends as the assignment as a whole does, in both cases. -/
theorem assignInPlace_eq
    (holder : Holder)
    (configuration : Configuration) :
    holder.assignInPlace configuration =
      match holder.assign configuration with
      | .ok next => (next, none)
      | .error e => (holder, some e) := by
  unfold assignInPlace assign
  split
  case h_1 hError =>
    simp only [ofConfiguration, hError]
    rfl
  case h_2 hNull =>
    simp only [ofConfiguration, hNull]
    rfl
  case h_3 value hOther hValue =>
    rw [ofConfiguration_of_value hValue hOther]
    cases hUpdate : holder.defaults.update value with
    | error e =>
        have hFault := Json.Table.updateInPlace_of_error hUpdate
        split
        case h_1 hEnded =>
          rw [hEnded] at hFault
          cases hFault
        case h_2 hEnded =>
          rw [hEnded] at hFault
          cases hFault
          rfl
    | ok updated =>
        rw [Json.Table.updateInPlace_of_ok hUpdate]
        rfl

------------------------------------------------------------
-- Steps
------------------------------------------------------------

/- What an event gives to set over the defaults. -/
inductive Event.Gives :
    Event → List (Key × Value) → Prop
  | assigned
      {configuration : Configuration}
      {found : List (Key × Value)}
      (hGives : configuration.Gives found) :
      Gives (.assigned configuration) found
  | adopted
      (settings : Settings) :
      Gives (.adopted settings) settings
  | reset :
      Gives .reset []

/- Whether an event is none that fails. -/
def Event.Succeeds
    (event : Event) : Prop :=
  ∃ found, event.Gives found

/-
  The holder behind a look at the settings. If there are none
  held, the defaults are assigned first.
-/
def restored
    (holder : Holder) : Holder :=
  match holder.held with
  | some _ => holder
  | none => holder.after (.assigned .absent)

/- A change of the settings, or a look at them in between. -/
inductive Step
  | change (event : Event)
  | look
deriving Repr

/- The event of a step, if it is one. -/
def Step.event? :
    Step → Option Event
  | .change event => some event
  | .look => none

/- The holder behind a step. -/
def take
    (holder : Holder) :
    Step → Holder
  | .change event => holder.after event
  | .look => holder.restored

/- The holder behind one step after another. -/
def takeAll
    (holder : Holder)
    (steps : List Step) : Holder :=
  steps.foldl take holder

/- An assignment that gives nothing to set is refused. -/
theorem assign_of_not_succeeds
    {configuration : Configuration}
    (hFails : ¬ (Event.assigned configuration).Succeeds)
    (holder : Holder) :
    ∃ e, holder.assign configuration = .error e := by
  cases hTaken : holder.assign configuration with
  | error e => exact ⟨e, rfl⟩
  | ok next =>
      rcases map_eq_ok_iff.mp hTaken with ⟨settings, hSettings, _⟩
      rcases ofConfiguration_eq_ok_iff.mp hSettings with
        ⟨found, hGives, _⟩
      exact absurd ⟨found, .assigned hGives⟩ hFails

/- An event that fails changes nothing. -/
theorem after_of_not_succeeds
    {event : Event}
    (hFails : ¬ event.Succeeds)
    (holder : Holder) :
    holder.after event = holder := by
  cases event with
  | assigned configuration =>
      rcases assign_of_not_succeeds hFails holder with ⟨e, hError⟩
      simp only [after, hError]
  | adopted settings => exact absurd ⟨_, .adopted settings⟩ hFails
  | reset => exact absurd ⟨_, .reset⟩ hFails

/- What a configuration gives is set over the defaults alone. -/
theorem assign_of_gives
    {configuration : Configuration}
    {found : List (Key × Value)}
    (hGives : configuration.Gives found)
    (holder : Holder) :
    holder.assign configuration =
      .ok { holder with
        held := some (holder.defaults.putAll found) } := by
  rw [assign, map_eq_ok_iff]
  exact ⟨_, ofConfiguration_eq_ok_iff.mpr ⟨found, hGives, rfl⟩, rfl⟩

/- So is what an event gives. -/
theorem after_of_gives
    {event : Event}
    {found : List (Key × Value)}
    (hGives : event.Gives found)
    (holder : Holder) :
    (holder.after event).defaults = holder.defaults ∧
      (holder.after event).current =
        holder.defaults.putAll found := by
  cases hGives with
  | assigned hGives =>
      simp only [after, assign_of_gives hGives]
      exact ⟨trivial, rfl⟩
  | adopted => exact ⟨rfl, rfl⟩
  | reset => exact ⟨rfl, rfl⟩

/- An assignment that is refused gives nothing to set. -/
theorem not_succeeds_of_error
    {configuration : Configuration}
    {holder : Holder}
    {e : Error}
    (hError : holder.assign configuration = .error e) :
    ¬ (Event.assigned configuration).Succeeds := by
  intro hSucceeds
  rcases hSucceeds with ⟨found, hGives⟩
  cases hGives with
  | assigned hGives =>
      rw [assign_of_gives hGives] at hError
      cases hError

/- A look at the settings does not change what they are. -/
theorem current_restored
    (holder : Holder) :
    holder.restored.defaults = holder.defaults ∧
      holder.restored.current = holder.current := by
  unfold restored
  cases hHeld : holder.held with
  | some settings => exact ⟨rfl, rfl⟩
  | none =>
      have hAbsent : (Event.assigned .absent).Gives [] :=
        .assigned (.nothing .absent)
      rcases after_of_gives hAbsent holder with
        ⟨hDefaults, hCurrent⟩
      refine ⟨hDefaults, hCurrent.trans ?_⟩
      rw [current, hHeld]
      rfl

------------------------------------------------------------
-- Histories
------------------------------------------------------------

/-
  Whether the settings are those of the last event of a history
  that did not fail: its pairs are set over the defaults.
-/
def OfLastSuccess
    (defaults : Settings)
    (history : List Event)
    (holder : Holder) : Prop :=
  holder.defaults = defaults ∧
    ∃ before event after found,
      history = before ++ event :: after ∧
        event.Gives found ∧ (∀ later ∈ after, ¬ later.Succeeds) ∧
        holder.current = defaults.putAll found

/- A history with an event that does not fail starts it. -/
theorem OfLastSuccess.start
    {defaults : Settings}
    {given : Configuration}
    {made : Holder}
    (hMade : ({ defaults } : Holder).assign given = .ok made) :
    made.OfLastSuccess defaults [.assigned given] := by
  rcases map_eq_ok_iff.mp hMade with ⟨settings, hSettings, rfl⟩
  rcases ofConfiguration_eq_ok_iff.mp hSettings with
    ⟨found, hGives, rfl⟩
  exact ⟨rfl, [], _, [], found, rfl, .assigned hGives, by simp, rfl⟩

/- An event either is the last that did not fail, or fails. -/
theorem OfLastSuccess.after
    {defaults : Settings}
    {history : List Event}
    {holder : Holder}
    (hHolder : holder.OfLastSuccess defaults history)
    (event : Event) :
    (holder.after event).OfLastSuccess defaults
      (history ++ [event]) := by
  rcases hHolder with
    ⟨rfl, before, last, behind, found, rfl, hGives, hFail, hCurrent⟩
  by_cases hSucceeds : event.Succeeds
  · rcases hSucceeds with ⟨given, hGiven⟩
    rcases after_of_gives hGiven holder with ⟨hDefaults, hNext⟩
    exact ⟨hDefaults, before ++ last :: behind, event, [], given,
      rfl, hGiven, by simp, hNext⟩
  · rw [after_of_not_succeeds hSucceeds]
    refine ⟨rfl, before, last, behind ++ [event], found, ?_, hGives,
      ?_, hCurrent⟩
    · simp
    · exact List.forall_mem_append.mpr
        ⟨hFail, List.forall_mem_singleton.mpr hSucceeds⟩

/- A step adds its event to the history, if it is one. -/
theorem OfLastSuccess.take
    {defaults : Settings}
    {history : List Event}
    {holder : Holder}
    (hHolder : holder.OfLastSuccess defaults history)
    (step : Step) :
    (holder.take step).OfLastSuccess defaults
      (history ++ step.event?.toList) := by
  cases step with
  | change event => exact hHolder.after event
  | look =>
      rcases holder.current_restored with ⟨hDefaults, hCurrent⟩
      rcases hHolder with
        ⟨rfl, before, event, behind, found, hHistory, hGives,
          hFail, hNow⟩
      refine ⟨hDefaults, before, event, behind, found, ?_, hGives,
        hFail, hCurrent.trans hNow⟩
      rw [hHistory]
      exact List.append_nil _

/- So after any steps the last success of all is in force. -/
theorem OfLastSuccess.takeAll
    {defaults : Settings}
    {history : List Event}
    {holder : Holder}
    (hHolder : holder.OfLastSuccess defaults history)
    (steps : List Step) :
    (holder.takeAll steps).OfLastSuccess defaults
      (history ++ steps.filterMap Step.event?) := by
  induction steps generalizing history holder with
  | nil => simpa [Holder.takeAll] using hHolder
  | cons step rest ih =>
      have hRest := ih (hHolder.take step)
      rw [List.append_assoc] at hRest
      cases step <;> exact hRest

/- An assignment in place ends as the event does, fault or not. -/
theorem assignInPlace_fst
    (holder : Holder)
    (configuration : Configuration) :
    (holder.assignInPlace configuration).1 =
      holder.after (.assigned configuration) := by
  rw [assignInPlace_eq, after]
  cases holder.assign configuration <;> rfl

theorem assignInPlace_snd_eq_none_iff
    (holder : Holder)
    (configuration : Configuration) :
    (holder.assignInPlace configuration).2 = none ↔
      (Event.assigned configuration).Succeeds := by
  rw [assignInPlace_eq]
  constructor
  · intro hNone
    by_contra hFails
    rcases assign_of_not_succeeds hFails holder with ⟨e, hError⟩
    rw [hError] at hNone
    cases hNone
  · rintro ⟨found, hGives⟩
    cases hGives with
    | assigned hGives => rw [assign_of_gives hGives]

/-
  Settings that were once made are, after any events and looks
  at them, the defaults updated with what the last event gave
  that did not fail; the first of all is that which made them.
  All names of the defaults are in front. An assignment that
  fails, wherever it stops on its way through the update, leaves
  everything as it was.
-/
theorem settings_are_of_last_success
    {defaults : Settings}
    {given : Configuration}
    {made : Holder}
    (hMade : ({ defaults } : Holder).assign given = .ok made)
    (steps : List Step) :
    let now := made.takeAll steps
    (∃ before event after found,
      .assigned given :: steps.filterMap Step.event? =
          before ++ event :: after ∧
        event.Gives found ∧ (∀ later ∈ after, ¬ later.Succeeds) ∧
        now.current = defaults.putAll found ∧
        IsUpdate defaults found now.current) ∧
    defaults.keys <+: now.current.keys ∧
    ∀ configuration,
      (now.assignInPlace configuration).1 =
          now.after (.assigned configuration) ∧
        ((now.assignInPlace configuration).2 = none ↔
          (Event.assigned configuration).Succeeds) ∧
        ((now.assignInPlace configuration).2 ≠ none →
          now.after (.assigned configuration) = now) := by
  intro now
  rcases (OfLastSuccess.start hMade).takeAll steps with
    ⟨_, before, event, after, found, hHistory, hGives, hFail, hNow⟩
  have hUpdate : IsUpdate defaults found now.current :=
    hNow ▸ Json.Table.isUpdate_putAll defaults found
  refine ⟨⟨before, event, after, found, hHistory, hGives, hFail, hNow,
    hUpdate⟩, ?_, ?_⟩
  · rw [hUpdate.keys]
    exact List.prefix_append _ _
  · intro configuration
    have hSucceeds := assignInPlace_snd_eq_none_iff now configuration
    refine ⟨assignInPlace_fst now configuration, hSucceeds, ?_⟩
    intro hFault
    exact after_of_not_succeeds (mt hSucceeds.mpr hFault) now

/- A list in which only the first entry is a pair. -/
def brokenPairs : Value :=
  .list [.list [.text "auto_submit", .bool false], .int 5]

/- A JSON text of an object with one setting. -/
def darkText : Wide :=
  "\x7b\"theme\":\"dark\"\x7d"

/- A JSON text of a list of one pair. -/
def lightText : Wide :=
  "[[\"theme\",\"light\"]]"

/- The start of a JSON text. -/
def brokenText : Wide :=
  "\x7b"

theorem gives_darkText :
    (Configuration.written darkText).Gives
      [(.text "theme", .text "dark")] := by
  have hRead :
      Value.read darkText =
        .ok (.object [("theme", .text "dark")]) := by
    cbv
  exact .pairs (.written hRead) (.object _)

theorem gives_lightText :
    (Configuration.opened lightText).Gives
      [(.text "theme", .text "light")] := by
  have hRead :
      Value.read lightText =
        .ok (.list [.list [.text "theme", .text "light"]]) := by
    cbv
  exact .pairs (.opened hRead) (.list (.cons (.list rfl) .nil))

theorem not_succeeds_brokenText :
    ¬ (Event.assigned (.written brokenText)).Succeeds := by
  have hRead :
      Value.read brokenText =
        .error (.malformed .expectedName 1 2 1) := by
    cbv
  have hError :
      ({ defaults := [] } : Holder).assign (.written brokenText) =
        .error (.malformed (.malformed .expectedName 1 2 1)) := by
    simp only [assign, ofConfiguration, Configuration.decode, hRead]
    rfl
  exact not_succeeds_of_error hError

theorem not_succeeds_brokenPairs :
    ¬ (Event.assigned (.value brokenPairs)).Succeeds := by
  have hError :
      ({ defaults := [] } : Holder).assign (.value brokenPairs) =
        .error (.table (.entryNoSequence 1)) := by
    rfl
  exact not_succeeds_of_error hError

/-
  A text and a file are taken over. The start of a text is not,
  and neither is a list that is no list of pairs: what the file
  gave remains, though this list starts with a pair.
-/
theorem settings_are_of_last_success_of_all_kinds :
    let broken : Configuration := .value brokenPairs
    ∃ made,
      ({ defaults := webDefaults } : Holder).assign
            (.written darkText) = .ok made ∧
        made.current.get? "theme" = some (.text "dark") ∧
        let now :=
          made.takeAll
            [.change .reset, .change (.assigned (.opened lightText)),
              .change (.assigned (.written brokenText)),
              .change (.assigned broken), .look]
        webDefaults.keys <+: now.current.keys ∧
          now.current.get? "theme" = some (.text "light") ∧
          (updateInPlace webDefaults brokenPairs).1.get?
              "auto_submit" = some (.bool false) ∧
          (now.assignInPlace broken).2 ≠ none ∧
          now.after (.assigned broken) = now := by
  intro broken
  have hMade :=
    assign_of_gives gives_darkText { defaults := webDefaults }
  refine ⟨_, hMade, rfl, ?_⟩
  intro now
  have hFault : (now.assignInPlace broken).2 ≠ none := by
    rw [Ne, assignInPlace_snd_eq_none_iff]
    exact not_succeeds_brokenPairs
  have hLast :
      now.current =
        webDefaults.putAll [(.text "theme", .text "light")] := by
    simp only [now, takeAll, List.foldl_cons, List.foldl_nil, take,
      after_of_not_succeeds not_succeeds_brokenText, broken,
      after_of_not_succeeds not_succeeds_brokenPairs,
      current_restored]
    exact (after_of_gives (.assigned gives_lightText) _).2
  have hNow :=
    settings_are_of_last_success hMade
      [.change .reset, .change (.assigned (.opened lightText)),
        .change (.assigned (.written brokenText)),
        .change (.assigned broken), .look]
  rcases hNow with ⟨⟨_⟩, hKeys, hAssignments⟩
  rcases hAssignments broken with ⟨_, _, hUnchanged⟩
  refine ⟨hKeys, ?_, rfl, hFault, hUnchanged hFault⟩
  rw [hLast]
  rfl

end Holder

end Settings

end LookingGlass
