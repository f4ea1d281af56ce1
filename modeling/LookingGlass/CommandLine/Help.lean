import LookingGlass.CommandLine.Reading

/-
  This file defines what a program prints about itself: its
  usage in lines of a limited width, and its help.

  Key definitions include:
    * `lineWidth`
    * `fill`
    * `Program.usage`
    * `Program.help`
    * `Report`
    * `Stop.report`
-/

namespace LookingGlass.CommandLine

------------------------------------------------------------
-- Names
------------------------------------------------------------

/- A list of choices as it stands in a usage. -/
def choiceList
    (choices : List String) : String :=
  "\x7b" ++ ",".intercalate choices ++ "\x7d"

/- What stands for the value of a flag. -/
def Flag.metavariable?
    (flag : Flag) : Option String :=
  match flag.effect with
  | .take (.oneOf choices) => some (choiceList choices)
  | .take _ => some flag.key.toUpper
  | _ => none

/- A name of a flag, with what stands for its value. -/
def Flag.withValue
    (flag : Flag)
    (name : String) : String :=
  match flag.metavariable? with
  | none => name
  | some value => name ++ " " ++ value

/- A flag as it stands in a usage. -/
def Flag.usage
    (flag : Flag) : String :=
  "[" ++ flag.withValue (flag.names.headD "") ++ "]"

/- What stands for an operand in the help. -/
def Operand.title
    (operand : Operand) : String :=
  match operand.kind with
  | .command commands => choiceList (commands.map Prod.fst)
  | _ => operand.key

/- The words for an operand in a usage. -/
def Operand.usage
    (operand : Operand) : List String :=
  match operand.kind with
  | .required => [operand.title]
  | .optional => ["[" ++ operand.title ++ "]"]
  | .command _ => [operand.title, "..."]

------------------------------------------------------------
-- Usage
------------------------------------------------------------

/- The greatest width of a line. -/
def lineWidth : Nat := 78

/-
  Puts words into lines. A line ends where the next word would
  not fit, but holds one word at least; `used` is the width
  that the first line has taken up already.
-/
def fillFrom
    (indent used : Nat)
    (line : List String) :
    List String → List (List String)
  | [] => if line.isEmpty then [] else [line]
  | word :: rest =>
    if used + 1 + word.length > lineWidth ∧ !line.isEmpty then
      line :: fillFrom indent (indent + word.length) [word] rest
    else
      fillFrom indent (used + word.length + 1)
        (line ++ [word]) rest

/- Words in lines behind an indent. -/
def fill
    (indent : Nat)
    (words : List String) : List String :=
  (fillFrom indent (indent - 1) [] words).map (" ".intercalate ·)

/- A number of spaces. -/
def spaces
    (n : Nat) : String :=
  String.ofList (List.replicate n ' ')

/- The word in front of a usage. -/
def usageLead : String := "usage: "

namespace Program

/- The usage of a program: one line if that fits, else more. -/
def usage
    (program : Program) : String :=
  let flags := program.flags.map Flag.usage
  let operands := (program.operand.map Operand.usage).getD []
  let words := program.name :: flags ++ operands
  let whole := usageLead ++ " ".intercalate words
  if whole.length ≤ lineWidth then whole ++ "\n"
  else
    let indent := usageLead.length + program.name.length + 1
    let first :=
      (fillFrom indent (usageLead.length - 1) []
        (program.name :: flags)).map (" ".intercalate ·)
    let lines := first ++ fill indent operands
    usageLead ++ ("\n" ++ spaces indent).intercalate lines ++ "\n"

------------------------------------------------------------
-- Help
------------------------------------------------------------

/- An entry of the help: its depth, a title and a text. -/
structure Entry where
  depth : Nat
  title : String
  text : String
deriving DecidableEq, Repr

/- The entries of an operand; commands have one each. -/
def operandEntries
    (operand : Operand) : List Entry :=
  let commands :=
    match operand.kind with
    | .command commands => commands
    | _ => []
  ⟨2, operand.title, operand.help⟩ ::
    commands.map fun (name, text) => ⟨4, name, text⟩

/- The entry of a flag. -/
def flagEntry
    (flag : Flag) : Entry :=
  ⟨2, ", ".intercalate (flag.names.map flag.withValue), flag.help⟩

/- The column at which the texts of entries start. -/
def textColumn
    (entries : List Entry) : Nat :=
  let widest :=
    entries.foldl (fun n entry => max n entry.title.length) 0
  min (widest + 4) 24

/- The lines of an entry. A long title has its own line. -/
def Entry.print
    (column : Nat)
    (entry : Entry) : String :=
  let title := spaces entry.depth ++ entry.title
  if entry.text.isEmpty then title ++ "\n"
  else if title.length + 2 ≤ column then
    title ++ spaces (column - title.length) ++ entry.text ++ "\n"
  else
    title ++ "\n" ++ spaces column ++ entry.text ++ "\n"

/- A part of the help, unless there is nothing in it. -/
def paragraph?
    (column : Nat)
    (heading : String)
    (entries : List Entry) : Option String :=
  if entries.isEmpty then none
  else
    some (heading ++ ":\n" ++
      String.join (entries.map (Entry.print column)))

/- The help of a program. -/
def help
    (program : Program) : String :=
  let operands := (program.operand.map operandEntries).getD []
  let flags := program.flags.map flagEntry
  let column := textColumn (operands ++ flags)
  let description :=
    if program.description.isEmpty then none
    else some (program.description ++ "\n")
  let parts :=
    [some program.usage, description,
      paragraph? column "positional arguments" operands,
      paragraph? column "options" flags]
  "\n".intercalate (parts.filterMap id)

end Program

------------------------------------------------------------
-- Reports
------------------------------------------------------------

/- What a program prints before it ends, and its status. -/
structure Report where
  status : Nat
  output : String := ""
  errors : String := ""
deriving DecidableEq, Repr

/- What a program reports when reading stops early. -/
def Stop.report
    (program : Program) :
    Stop → Report
  | .help => { status := 0, output := program.help }
  | .version =>
    { status := 0, output := program.version ++ "\n" }
  | .error message =>
    { status := 2
      errors := program.usage ++
        s!"{program.name}: error: {message}\n" }

end LookingGlass.CommandLine
