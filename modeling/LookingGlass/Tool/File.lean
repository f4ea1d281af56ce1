import LookingGlass.Text.Cut

/-
  This file defines how a path is followed through a tree of
  files to the text of a file.

  A path is followed name by name. Each name but the last has
  to be that of a directory, and the last one that of a file.

  Key definitions include:
    * `File.Entry`
    * `File.Tree`
    * `File.Fault`
    * `File.names`
    * `File.step`
    * `File.read`
-/

namespace LookingGlass.Tool.File

------------------------------------------------------------
-- Trees
------------------------------------------------------------

/- What stands at a place of a tree. -/
inductive Entry
  | directory
  | text (s : String)
deriving DecidableEq, Repr

/-
  What stands at the end of names that have been followed. The
  root has an empty name; without names one is where one is.
-/
abbrev Tree :=
  List String → Option Entry

/- Why there is no text at the end of a path. -/
inductive Fault
  | nulCharacter
  | tooLong
  | missing
  | isDirectory
  | noDirectory
deriving DecidableEq, Repr

/- The wording of a fault. -/
def Fault.message :
    Fault → String
  | .nulCharacter => "embedded null byte"
  | .tooLong => "File name too long"
  | .missing => "No such file or directory"
  | .isDirectory => "Is a directory"
  | .noDirectory => "Not a directory"

------------------------------------------------------------
-- Paths
------------------------------------------------------------

/- The greatest size of a name, in bytes. -/
def greatestName : Nat := 255

/- The greatest size of a path, in bytes. -/
def greatestPath : Nat := 4095

/- The names of a path; the first of an absolute one is empty. -/
def names
    (path : String) : List String :=
  (Text.pieces '/' path.toList).map String.ofList

/- Where a name leads from the end of other names. -/
def step
    (trail : List String)
    (name : String) : List String :=
  if name = "." then trail
  else if name = "" then
    if trail.isEmpty then [""] else trail
  else if name = ".." then
    match trail.getLast? with
    | some "" => trail
    | some ".." | none => trail ++ [".."]
    | some _ => trail.dropLast
  else trail ++ [name]

/- The names that have been followed at the end of a path. -/
def trail
    (path : String) : List String :=
  (names path).foldl step []

------------------------------------------------------------
-- Reading
------------------------------------------------------------

/- Follows names from the end of others to a text. -/
def follow
    (tree : Tree)
    (trail : List String) :
    List String → Except Fault String
  | [] => .error .isDirectory
  | name :: rest =>
    if name.utf8ByteSize > greatestName then .error .tooLong
    else
      match tree (step trail name) with
      | none => .error .missing
      | some .directory => follow tree (step trail name) rest
      | some (.text s) =>
        if rest.isEmpty then .ok s else .error .noDirectory

/- The text at the end of a path. -/
def read
    (tree : Tree)
    (path : String) : Except Fault String :=
  if path.contains '\x00' then .error .nulCharacter
  else if path.isEmpty then .error .missing
  else if path.utf8ByteSize > greatestPath then .error .tooLong
  else follow tree [] (names path)

end LookingGlass.Tool.File
