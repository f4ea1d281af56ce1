import LookingGlass.Proofs.Json.Table
import LookingGlass.Settings

/-
  The history of settings: assignments, of which some may fail,
  and returns to the defaults. Whatever happens, the names of
  the defaults stay, in their order and in front of all others.

  Main declarations:
    * `Holder.Event` and `Holder.after`
    * `Holder.run`
    * `Holder.KeepsDefaults`
    * `Holder.keepsDefaults_run`
    * `Holder.exists_get?_run`
-/

namespace LookingGlass.Settings

------------------------------------------------------------
-- Assignments
------------------------------------------------------------

/- What is assigned goes over the defaults, not in their place. -/
theorem keys_ofConfiguration
    {defaults settings : Settings}
    {configuration : Configuration}
    (hTaken :
      ofConfiguration defaults configuration = .ok settings) :
    defaults.keys <+: settings.keys := by
  unfold ofConfiguration at hTaken
  split at hTaken
  case h_1 => cases hTaken
  case h_2 =>
    cases hTaken
    exact List.prefix_rfl
  case h_3 value _ _ =>
    unfold Json.Table.update at hTaken
    cases hPairs : Json.Table.pairs value with
    | error e =>
        rw [hPairs] at hTaken
        cases hTaken
    | ok pairs =>
        rw [hPairs] at hTaken
        rw [← Except.ok.inj hTaken]
        exact Json.Table.keys_putAll defaults pairs

namespace Holder

------------------------------------------------------------
-- Events
------------------------------------------------------------

/- What can happen to settings. -/
inductive Event
  | assigned (configuration : Configuration)
  | adopted (settings : Settings)
  | reset
deriving Repr

/- Settings after an event; a failed assignment changes nothing. -/
def after
    (holder : Holder) :
    Event → Holder
  | .assigned configuration =>
    match holder.assign configuration with
    | .ok next => next
    | .error _ => holder
  | .adopted settings => holder.adopt settings
  | .reset => holder.reset

/- Settings after one event after another. -/
def run
    (holder : Holder)
    (events : List Event) : Holder :=
  events.foldl after holder

/- The names of the defaults are there, in front of all others. -/
def KeepsDefaults
    (holder : Holder) : Prop :=
  holder.defaults.keys <+: holder.current.keys

theorem defaults_assign
    {holder next : Holder}
    {configuration : Configuration}
    (hTaken : holder.assign configuration = .ok next) :
    next.defaults = holder.defaults ∧ next.KeepsDefaults := by
  unfold assign at hTaken
  cases hSettings :
      ofConfiguration holder.defaults configuration with
  | error e =>
      rw [hSettings] at hTaken
      cases hTaken
  | ok settings =>
      rw [hSettings] at hTaken
      rw [← Except.ok.inj hTaken]
      exact ⟨rfl, keys_ofConfiguration hSettings⟩

/- No event changes the defaults or loses one of their names. -/
theorem defaults_after
    {holder : Holder}
    (hKeeps : holder.KeepsDefaults)
    (event : Event) :
    (holder.after event).defaults = holder.defaults ∧
      (holder.after event).KeepsDefaults := by
  cases event with
  | assigned configuration =>
      cases hTaken : holder.assign configuration with
      | error e =>
          simp only [after, hTaken]
          exact ⟨trivial, hKeeps⟩
      | ok next =>
          simp only [after, hTaken]
          exact defaults_assign hTaken
  | adopted settings =>
      exact ⟨rfl, Json.Table.keys_putAll holder.defaults settings⟩
  | reset => exact ⟨rfl, List.prefix_rfl⟩

/- So no run of events does. -/
theorem defaults_run
    {holder : Holder}
    (hKeeps : holder.KeepsDefaults)
    (events : List Event) :
    (holder.run events).defaults = holder.defaults ∧
      (holder.run events).KeepsDefaults := by
  induction events generalizing holder with
  | nil => exact ⟨rfl, hKeeps⟩
  | cons event rest ih =>
      obtain ⟨hDefaults, hNext⟩ := defaults_after hKeeps event
      obtain ⟨hRest, hLast⟩ := ih hNext
      exact ⟨hRest.trans hDefaults, hLast⟩

/- A setting with a default has a value all the time. -/
theorem exists_get?_run
    {defaults : Settings}
    {name : String}
    (hDefault : (defaults.get? name).isSome = true)
    (events : List Event) :
    ∃ value,
      (run { defaults } events).current.get? name = some value := by
  have hStart : KeepsDefaults { defaults } := List.prefix_rfl
  obtain ⟨hDefaults, hKeeps⟩ := defaults_run hStart events
  unfold KeepsDefaults at hKeeps
  rw [hDefaults] at hKeeps
  rw [← Option.isSome_iff_exists, Json.Table.isSome_get?_iff]
  exact hKeeps.subset (Json.Table.isSome_get?_iff.mp hDefault)

end Holder

end LookingGlass.Settings
