import LookingGlass.Json.Value

/-
  This file defines tables: values under names that are
  scalars, in the order in which the names first came.

  A table is updated from an object, or from a list of pairs.
  Numbers that are equal are the same name.

  Key definitions include:
    * `Key`
    * `Key.sameAs`
    * `Table`
    * `Table.Error`
    * `Table.put`
    * `Table.update`
    * `Table.ofValue`
    * `Table.ofGiven`
-/

namespace LookingGlass.Json

open LookingGlass.Text (Wide)

------------------------------------------------------------
-- Names
------------------------------------------------------------

/- The name of an entry, as it was written. -/
inductive Key
  | text (s : Wide)
  | null
  | bool (b : Bool)
  | int (n : Int)
  | float (x : Number.Binary64)
deriving DecidableEq, Repr

namespace Key

/- The name of a value; lists and objects are none. -/
def ofValue? :
    Value → Option Key
  | .text s => some (.text s)
  | .null => some .null
  | .bool b => some (.bool b)
  | .int n => some (.int n)
  | .float x => some (.float x)
  | .list _ => none
  | .object _ => none

/- The one name that stands for all names equal to it. -/
def canonical :
    Key → Key
  | .bool b => .int (if b then 1 else 0)
  | .float x =>
    match x.integral? with
    | some n => .int n
    | none => .float x
  | key => key

/- Whether two names are the same. -/
def sameAs
    (k l : Key) : Bool :=
  k.canonical == l.canonical

end Key

------------------------------------------------------------
-- Tables
------------------------------------------------------------

/- Named values in the order in which the names first came. -/
abbrev Table :=
  List (Key × Value)

namespace Table

/- Why a value is no update of a table. -/
inductive Error
  | noMapping
  | entryNoSequence (index : Nat)
  | entryLength (index length : Nat)
  | nameNoScalar (index : Nat)
deriving DecidableEq, Repr

/- The wording of an error. -/
def Error.message :
    Error → String
  | .noMapping => "the update is neither an object nor a list"
  | .entryNoSequence index =>
    "cannot convert dictionary update sequence element " ++
      s!"#{index} to a sequence"
  | .entryLength index length =>
    s!"dictionary update sequence element #{index} has length " ++
      s!"{length}; 2 is required"
  | .nameNoScalar index =>
    s!"the name of element #{index} is no scalar"

/- The value under a text as a name. -/
def get?
    (table : Table)
    (name : Wide) : Option Value :=
  table.lookup (.text name)

/- Sets a value. A name that is there already keeps its place. -/
def put
    (key : Key)
    (value : Value) :
    Table → Table
  | [] => [(key, value)]
  | (other, old) :: rest =>
    if other.sameAs key then (other, value) :: rest
    else (other, old) :: put key value rest

/- Sets the values of pairs one after another. -/
def putAll
    (table : Table)
    (pairs : List (Key × Value)) : Table :=
  pairs.foldl (fun held pair => put pair.1 pair.2 held) table

/- The table of the members of an object. -/
def ofMembers
    (members : Members) : Table :=
  members.map fun member => (.text member.1, member.2)

/- The parts of an entry that is a sequence. -/
def parts? :
    Value → Option (List Value)
  | .list items => some items
  | .text s =>
    some (s.letters.map .text)
  | .object members => some (members.map fun m => .text m.1)
  | _ => none

/- The pair that an entry is. -/
def pairOf
    (index : Nat)
    (entry : Value) : Except Error (Key × Value) :=
  match parts? entry with
  | none => .error (.entryNoSequence index)
  | some [name, value] =>
    match Key.ofValue? name with
    | none => .error (.nameNoScalar index)
    | some key => .ok (key, value)
  | some parts => .error (.entryLength index parts.length)

/- The pairs that entries are; the first fault is reported. -/
def pairsOf
    (index : Nat) :
    List Value → Except Error (List (Key × Value))
  | [] => .ok []
  | entry :: rest =>
    match pairOf index entry with
    | .error e => .error e
    | .ok pair => (pairsOf (index + 1) rest).map (pair :: ·)

/- The pairs of a value that a table can be updated with. -/
def pairs :
    Value → Except Error (List (Key × Value))
  | .object members => .ok (ofMembers members)
  | .list entries => pairsOf 0 entries
  | .text s =>
    pairsOf 0 (s.letters.map .text)
  | _ => .error .noMapping

/- A table updated with a value. -/
def update
    (table : Table)
    (value : Value) : Except Error Table :=
  (pairs value).map table.putAll

/- The table of a value's pairs. -/
def ofValue
    (value : Value) : Except Error Table :=
  update [] value

/- The table of a value, which is empty where none is given. -/
def ofGiven
    (value : Value) : Except Error Table :=
  if value.isTrue then ofValue value else .ok []

end Table

end LookingGlass.Json
