import LookingGlass.Number.Integer
import LookingGlass.Text.Quoted

/-
  This file defines what the command line of a program may
  hold: flags with one or more names, and at most one operand.

  A flag asks for help or for the version, switches something
  on, or takes a value. An operand is a text, or the name of a
  command that all remaining arguments belong to.

  Key definitions include:
    * `Value`
    * `Kind`
    * `Effect`
    * `Flag`
    * `Operand`
    * `Program`
    * `Given`
    * `Kind.read`
-/

namespace LookingGlass.CommandLine

------------------------------------------------------------
-- Values
------------------------------------------------------------

/- What separates flags from all that is none. -/
def separator : String := "--"

/-
  A value that was given. It is blank where the separator
  stands in its place.
-/
inductive Value (α : Type)
  | blank
  | of (a : α)
deriving DecidableEq, Repr

/- A value in words; a blank one is an empty list. -/
def Value.print
    {α : Type}
    (write : α → String) :
    Value α → String
  | .blank => "[]"
  | .of a => write a

/- What values a flag takes. -/
inductive Kind
  | text
  | integer
  | oneOf (choices : List String)
deriving DecidableEq, Repr

/- What was given for a key. -/
inductive Given
  | switched
  | blank
  | text (s : String)
  | integer (n : Int)
deriving DecidableEq, Repr

/- The wording for a text that is not among choices. -/
def invalidChoice
    (text : String)
    (choices : List String) : String :=
  "invalid choice: " ++ Text.quoted text ++ " (choose from " ++
    ", ".intercalate (choices.map Text.quoted) ++ ")"

/-
  Reads a value of a kind, or says why it is none. A blank one
  is of every kind.
-/
def Kind.read
    (kind : Kind)
    (text : String) : Except String Given :=
  if text = separator then .ok .blank
  else
    match kind with
    | .text => .ok (.text text)
    | .integer =>
      match Number.Integer.read text.toList with
      | some n => .ok (.integer n)
      | none => .error ("invalid int value: " ++ Text.quoted text)
    | .oneOf choices =>
      if choices.contains text then .ok (.text text)
      else .error (invalidChoice text choices)

------------------------------------------------------------
-- Flags
------------------------------------------------------------

/- What a flag does. -/
inductive Effect
  | help
  | version
  | switch
  | take (kind : Kind)
deriving DecidableEq, Repr

/- A flag of a program. -/
structure Flag where
  key : String
  names : List String
  effect : Effect
  help : String := ""
deriving DecidableEq, Repr

/- The kind of the value that a flag takes, if it takes one. -/
def Flag.kind?
    (flag : Flag) : Option Kind :=
  match flag.effect with
  | .take kind => some kind
  | _ => none

/- What messages call a flag. -/
def Flag.title
    (flag : Flag) : String :=
  "argument " ++ "/".intercalate flag.names

/- The flag that asks for help; every program has it. -/
def helpFlag : Flag :=
  { key := "help"
    names := ["-h", "--help"]
    effect := .help
    help := "show this help message and exit" }

------------------------------------------------------------
-- Programs
------------------------------------------------------------

/- What the operand of a program is. -/
inductive OperandKind
  | required
  | optional
  | command (commands : List (String × String))
deriving DecidableEq, Repr

/- The operand of a program. -/
structure Operand where
  key : String
  kind : OperandKind
  help : String := ""
deriving DecidableEq, Repr

/- A program as its users see it. -/
structure Program where
  name : String
  description : String := ""
  version : String := ""
  ownFlags : List Flag := []
  operand : Option Operand := none
deriving DecidableEq, Repr

namespace Program

/- All flags of a program, that for help first. -/
def flags
    (program : Program) : List Flag :=
  helpFlag :: program.ownFlags

/- Every name of a flag, with its flag. -/
def flagNames
    (program : Program) : List (String × Flag) :=
  program.flags.flatMap fun flag =>
    flag.names.map fun name => (name, flag)

/- The flag of a name. -/
def flag?
    (program : Program)
    (name : String) : Option Flag :=
  program.flagNames.lookup name

end Program

end LookingGlass.CommandLine
