import LookingGlass.Json.Reader
import LookingGlass.Json.Table

/-
  This file defines settings: a table that starts out with
  defaults and is updated from JSON.

  Assigning starts from the defaults again, so nothing of an
  earlier assignment remains, and an assignment that fails
  changes nothing.

  Key definitions include:
    * `Settings`
    * `Settings.Error`
    * `Configuration`
    * `Configuration.decode`
    * `Settings.Holder`
    * `Settings.Holder.assign`
    * `Settings.Holder.reset`
    * `Settings.Holder.current`
-/

namespace LookingGlass

/- Settings by their names. -/
abbrev Settings :=
  Json.Table

namespace Settings

/- Why settings are not taken over. -/
inductive Error
  | malformed (e : Json.Error)
  | table (e : Json.Table.Error)
deriving DecidableEq, Repr

/- The wording of an error. -/
def Error.message :
    Error → String
  | .malformed e => e.message
  | .table e => e.message

end Settings

------------------------------------------------------------
-- Configurations
------------------------------------------------------------

/- What can be assigned as settings. -/
inductive Configuration
  | absent
  | written (text : Text.Wide)
  | opened (text : Text.Wide)
  | value (v : Json.Value)
deriving Repr

/-
  The value of a configuration. A text is JSON, whether it is
  written down, in an open file or a value itself.
-/
def Configuration.decode :
    Configuration → Except Json.Error Json.Value
  | .absent => .ok .null
  | .written text => Json.Value.read text
  | .opened text => Json.Value.read text
  | .value (.text text) => Json.Value.read text
  | .value v => .ok v

namespace Settings

/- The settings of a configuration over given defaults. -/
def ofConfiguration
    (defaults : Settings)
    (configuration : Configuration) : Except Error Settings :=
  match configuration.decode with
  | .error e => .error (.malformed e)
  | .ok .null => .ok defaults
  | .ok value => (defaults.update value).mapError .table

------------------------------------------------------------
-- Holders
------------------------------------------------------------

/- Defaults, and the settings that were assigned last. -/
structure Holder where
  defaults : Settings
  held : Option Settings := none
deriving Repr

namespace Holder

/- The settings in force. -/
def current
    (holder : Holder) : Settings :=
  holder.held.getD holder.defaults

/- Assigns a configuration. -/
def assign
    (holder : Holder)
    (configuration : Configuration) : Except Error Holder :=
  (ofConfiguration holder.defaults configuration).map
    fun settings => { holder with held := some settings }

/- Takes over settings that are decoded already. -/
def adopt
    (holder : Holder)
    (settings : Settings) : Holder :=
  { holder with held := some (holder.defaults.putAll settings) }

/- Goes back to the defaults. -/
def reset
    (holder : Holder) : Holder :=
  { holder with held := none }

end Holder

------------------------------------------------------------
-- Defaults
------------------------------------------------------------

/- The setting that holds the collector's address. -/
def apiUrlName : String := "api_url"

/- The setting that limits the time for an answer. -/
def timeoutName : String := "timeout"

/- The setting that makes selectors submit the form. -/
def autoSubmitName : String := "auto_submit"

/- The defaults for everything that asks the collector. -/
def collectorDefaults : Settings :=
  [(.text apiUrlName, .text "http://127.0.0.1:3000"),
    (.text timeoutName, .float (.ofDecimal false 10 2 0))]

/- The defaults of the web application. -/
def webDefaults : Settings :=
  collectorDefaults ++ [(.text autoSubmitName, .bool true)]

end Settings

end LookingGlass
