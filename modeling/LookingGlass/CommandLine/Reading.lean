import LookingGlass.CommandLine.Basic
import LookingGlass.Text.Cut
import LookingGlass.Text.Digit

/-
  This file defines the reading of a command line.

  First every argument is told apart on its own: a flag that is
  written in full, shortened or joined with its value, a text,
  or something unknown. Then the arguments are taken one after
  another; what nothing takes is left over.

  Key definitions include:
    * `Token`
    * `Token.ofText`
    * `tokens`
    * `Joined`
    * `join`
    * `Stop`
    * `Reading`
    * `Program.read`
-/

namespace LookingGlass.CommandLine

------------------------------------------------------------
-- Tokens
------------------------------------------------------------

/-
  An argument by itself. A flag may have a text attached to it
  in the same argument.
-/
inductive Token
  | text
  | separator
  | flag (name : String) (flag : Flag) (value : Option (List Char))
  | unknown
deriving DecidableEq, Repr

/- Digits, of which there may have to be one. -/
def isDigits
    (atLeastOne : Bool)
    (cs : List Char) : Bool :=
  (!atLeastOne || !cs.isEmpty) &&
    cs.all fun c => (Text.decimalValue? c).isSome

/- Whether a text looks like a negative number. -/
def isNegativeNumber
    (cs : List Char) : Bool :=
  match cs with
  | '-' :: rest =>
    let line :=
      if rest.getLast? = some '\n' then rest.dropLast else rest
    match Text.cut '.' line with
    | (whole, none) => isDigits true whole
    | (whole, some decimals) =>
      isDigits false whole && isDigits true decimals
  | _ => false

/-
  The flags that a text may be short for, by their full names.
  A long name may be cut short; a short one may be followed by
  more in the same argument.
-/
def candidates
    (program : Program)
    (cs : List Char) : List (String × Flag × Option (List Char)) :=
  match cs with
  | '-' :: '-' :: _ =>
    let parts := Text.cut '=' cs
    program.flagNames.filterMap fun (name, flag) =>
      if parts.1.isPrefixOf name.toList then
        some (name, flag, parts.2)
      else none
  | _ =>
    program.flagNames.filterMap fun (name, flag) =>
      if name.toList = cs.take 2 then
        some (name, flag, some (cs.drop 2))
      else if cs.isPrefixOf name.toList then
        some (name, flag, none)
      else none

/- What an argument before any separator is. -/
def Token.ofText
    (program : Program)
    (text : String) : Except String Token :=
  let cs := text.toList
  let parts := Text.cut '=' cs
  let named (name : List Char) := program.flag? (String.ofList name)
  if cs.head? ≠ some '-' then .ok .text
  else
    match named cs, named parts.1, parts.2 with
    | some found, _, _ => .ok (.flag text found none)
    | none, some found, some value =>
      .ok (.flag (String.ofList parts.1) found (some value))
    | none, _, _ =>
      if cs.length = 1 then .ok .text
      else
        match candidates program cs with
        | [(name, found, value)] => .ok (.flag name found value)
        | [] =>
          .ok (if isNegativeNumber cs || cs.contains ' ' then .text
            else .unknown)
        | several =>
          .error ("ambiguous option: " ++ text ++ " could match " ++
            ", ".intercalate (several.map Prod.fst))

/-
  The arguments with what each of them is. Behind the first
  separator there are texts only.
-/
def tokens
    (program : Program) :
    List String → Except String (List (String × Token))
  | [] => .ok []
  | "--" :: rest =>
    .ok ((separator, .separator) ::
      rest.map fun text => (text, .text))
  | text :: rest =>
    match Token.ofText program text with
    | .error e => .error e
    | .ok token => (tokens program rest).map ((text, token) :: ·)

------------------------------------------------------------
-- Flags in one argument
------------------------------------------------------------

/- A flag that is complete: with the value that it takes. -/
structure Use where
  flag : Flag
  value : Option String
deriving DecidableEq, Repr

/-
  What one argument amounts to: flags that are complete, and
  one that still wants a value.
-/
structure Joined where
  uses : List Use := []
  wanting : Option Flag := none
deriving DecidableEq, Repr

/- The flags of one argument, with one more in front. -/
def Joined.cons
    (use : Use)
    (joined : Joined) : Joined :=
  { joined with uses := use :: joined.uses }

/- A flag that nothing is attached to. -/
def joinNone
    (flag : Flag) : Joined :=
  if flag.kind?.isSome then { wanting := some flag }
  else { uses := [⟨flag, none⟩] }

/- Whether a name has a single hyphen. -/
def isShort
    (name : String) : Bool :=
  (name.toList.drop 1).head? != some '-'

/- The message that a flag takes no value. -/
def ignoredValue
    (flag : Flag)
    (text : List Char) : String :=
  flag.title ++ ": ignored explicit argument " ++
    Text.quoted (String.ofList text)

/-
  A flag and what is attached to it. What follows a short flag
  that takes no value has to be short flags again.
-/
def join
    (program : Program)
    (flag : Flag)
    (short : Bool)
    (text : List Char) : Except String Joined :=
  if flag.kind?.isSome then
    .ok { uses := [⟨flag, some (String.ofList text)⟩] }
  else if !short then .error (ignoredValue flag text)
  else
    match text with
    | [] => .error (ignoredValue flag [])
    | c :: rest =>
      match program.flag? (String.ofList ['-', c]), rest with
      | none, _ => .error (ignoredValue flag (c :: rest))
      | some next, [] => .ok (.cons ⟨flag, none⟩ (joinNone next))
      | some next, d :: others =>
        (join program next true (d :: others)).map
          (.cons ⟨flag, none⟩)
termination_by text.length

/- What the argument of a flag amounts to. -/
def joinToken
    (program : Program)
    (name : String)
    (flag : Flag) :
    Option (List Char) → Except String Joined
  | none => .ok (joinNone flag)
  | some text => join program flag (isShort name) text

------------------------------------------------------------
-- Reading
------------------------------------------------------------

/- Why the reading of a command line stops early. -/
inductive Stop
  | help
  | version
  | error (message : String)
deriving DecidableEq, Repr

/-
  What has been read: what was given by key, the first given
  last, the command with its arguments, and what is left over.
-/
structure Reading where
  given : List (String × Given) := []
  command : List String := []
  left : List String := []
deriving DecidableEq, Repr

namespace Reading

/- What was given last for a key. -/
def get?
    (reading : Reading)
    (key : String) : Option Given :=
  reading.given.lookup key

/- The text that was given for a key. -/
def text?
    (reading : Reading)
    (key : String) : Option (Value String) :=
  match reading.get? key with
  | some (.text s) => some (.of s)
  | some .blank => some .blank
  | _ => none

/- The number that was given for a key. -/
def integer?
    (reading : Reading)
    (key : String) : Option (Value Int) :=
  match reading.get? key with
  | some (.integer n) => some (.of n)
  | some .blank => some .blank
  | _ => none

/- The text of an operand, which is never blank. -/
def operand?
    (reading : Reading)
    (key : String) : Option String :=
  match reading.get? key with
  | some (.text s) => some s
  | _ => none

/- Whether a key was switched on. -/
def isOn
    (reading : Reading)
    (key : String) : Bool :=
  reading.get? key == some .switched

/- Takes over what was given for a key. -/
def give
    (reading : Reading)
    (key : String)
    (given : Given) : Reading :=
  { reading with given := (key, given) :: reading.given }

/- Leaves texts over. -/
def leave
    (reading : Reading)
    (texts : List String) : Reading :=
  { reading with left := reading.left ++ texts }

/- Does what a flag asks for. -/
def apply
    (reading : Reading)
    (use : Use) : Except Stop Reading :=
  match use.flag.effect, use.value with
  | .help, _ => .error .help
  | .version, _ => .error .version
  | .switch, _ => .ok (reading.give use.flag.key .switched)
  | .take _, none => .ok reading
  | .take kind, some text =>
    match kind.read text with
    | .ok given => .ok (reading.give use.flag.key given)
    | .error e => .error (.error (use.flag.title ++ ": " ++ e))

end Reading

/- The name of the command, which has to be a known one. -/
def takeCommand
    (operand : Operand)
    (commands : List (String × String))
    (reading : Reading)
    (texts : List String) : Except Stop Reading :=
  let names := commands.map Prod.fst
  match texts with
  | [] => .ok reading
  | name :: _ =>
    if names.contains name then
      .ok { reading with command := texts }
    else
      .error (.error ("argument " ++ operand.key ++ ": " ++
        invalidChoice name names))

/-
  The end of a command line. A separator in front of the
  operand belongs to it.
-/
def finish
    (operand : Option Operand)
    (reading : Reading)
    (rest : List String) : Except Stop Reading :=
  match operand, rest with
  | none, rest => .ok (reading.leave rest)
  | some operand, rest =>
    let missing : Except Stop Reading :=
      .error (.error
        ("the following arguments are required: " ++ operand.key))
    match operand.kind, rest with
    | .required, "--" :: text :: more =>
      .ok ((reading.give operand.key (.text text)).leave more)
    | .required, _ => missing
    | .optional, "--" :: text :: more =>
      .ok ((reading.give operand.key (.text text)).leave more)
    | .optional, _ => .ok reading
    | .command commands, "--" :: text :: more =>
      takeCommand operand commands reading ("--" :: text :: more)
    | .command _, rest => .ok (reading.leave rest)

/- Takes the arguments one after another. -/
def take
    (program : Program)
    (operand : Option Operand)
    (reading : Reading) :
    List (String × Token) → Except Stop Reading
  | [] => finish operand reading []
  | (_, .separator) :: rest =>
    finish operand reading ("--" :: rest.map Prod.fst)
  | (text, .unknown) :: rest =>
    take program operand (reading.leave [text]) rest
  | (text, .text) :: rest =>
    match operand with
    | none => take program none (reading.leave [text]) rest
    | some found =>
      match found.kind with
      | .command commands =>
        takeCommand found commands reading
          (text :: rest.map Prod.fst)
      | _ =>
        let reading := reading.give found.key (.text text)
        match rest with
        | (_, .separator) :: more =>
          .ok (reading.leave (more.map Prod.fst))
        | rest => take program none reading rest
  | (_, .flag name flag value) :: rest =>
    match joinToken program name flag value with
    | .error e => .error (.error e)
    | .ok joined =>
      match joined.wanting, rest with
      | some wanting, (text, .text) :: rest =>
        let last : Use := ⟨wanting, some text⟩
        match (joined.uses ++ [last]).foldlM
            Reading.apply reading with
        | .error stop => .error stop
        | .ok reading => take program operand reading rest
      | some wanting, _ =>
        .error (.error
          (wanting.title ++ ": expected one argument"))
      | none, rest =>
        match joined.uses.foldlM Reading.apply reading with
        | .error stop => .error stop
        | .ok reading => take program operand reading rest

/- Reads the arguments of a program. -/
def Program.read
    (program : Program)
    (texts : List String) : Except Stop Reading :=
  match tokens program texts with
  | .error e => .error (.error e)
  | .ok tokens => take program program.operand {} tokens

/- The message about texts that are left over. -/
def Reading.checkLeft
    (reading : Reading) : Except Stop Unit :=
  if reading.left.isEmpty then .ok ()
  else
    .error (.error ("unrecognized arguments: " ++
      " ".intercalate reading.left))

end LookingGlass.CommandLine
