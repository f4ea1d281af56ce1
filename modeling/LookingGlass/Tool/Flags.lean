import LookingGlass.CommandLine.Help

/-
  This file defines what the command lines of the programs have
  in common.

  Key definitions include:
    * `name`
    * `version`
    * `configFlag`
    * `apiFlag`
    * `verboseFlag`
    * `readFor`
-/

namespace LookingGlass.Tool

open LookingGlass.CommandLine
  (Flag Program Reading Report Stop)

/- The name of the lookup tool. -/
def name : String := "vrfglass"

/- The version of the programs. -/
def version : String := "0.1"

------------------------------------------------------------
-- Flags
------------------------------------------------------------

/- The flag for the file of settings. -/
def configFlag
    (help : String) : Flag :=
  { key := "config"
    names := ["--config", "-c"]
    effect := .take .text
    help }

/- The flag for the collector's address. -/
def apiFlag : Flag :=
  { key := "api"
    names := ["--api", "-A"]
    effect := .take .text
    help := "Base URL of the collector API" }

/- The flag that prints the whole log. -/
def verboseFlag : Flag :=
  { key := "verbose"
    names := ["--verbose", "-v"]
    effect := .switch }

------------------------------------------------------------
-- Reading
------------------------------------------------------------

/- Reads the arguments of a program, or reports why not. -/
def readFor
    (program : Program)
    (texts : List String) : Except Report Reading :=
  (program.read texts).mapError (Stop.report program)

end LookingGlass.Tool
