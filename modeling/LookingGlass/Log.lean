/-
  This file defines the records that are logged: a level and a
  text.

  Key definitions include:
    * `Log.Level`
    * `Log.Record`
-/

namespace LookingGlass.Log

/- How serious a record is. -/
inductive Level
  | debug
  | info
  | error
deriving DecidableEq, Repr

/- The word for a level. -/
def Level.name :
    Level → String
  | .debug => "DEBUG"
  | .info => "INFO"
  | .error => "ERROR"

/- A record of the log. -/
structure Record where
  level : Level
  message : String
deriving DecidableEq, Repr

end LookingGlass.Log
