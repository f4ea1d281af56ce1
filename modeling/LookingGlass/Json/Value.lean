import LookingGlass.Number.Shortest
import LookingGlass.Text.Wide

/-
  This file defines JSON values. Members of an object keep the
  order in which their names first appear; integers have any
  size and are kept apart from floating-point numbers. Texts
  are wide: an escape can name half of a surrogate pair.

  Key definitions include:
    * `Value`
    * `Members`
    * `Members.put`
    * `Value.kind`
    * `Value.isTrue`
    * `Value.quoted`
-/

namespace LookingGlass.Json

open LookingGlass.Text (Wide)

/- A JSON value. -/
inductive Value
  | null
  | bool (b : Bool)
  | int (n : Int)
  | float (x : Number.Binary64)
  | text (s : Wide)
  | list (items : List Value)
  | object (members : List (Wide × Value))
deriving Repr, Inhabited

/- The members of an object. -/
abbrev Members :=
  List (Wide × Value)

namespace Members

/-
  Sets a member. A name that is there already keeps its place
  and takes the new value.
-/
def put
    (name : Wide)
    (value : Value) :
    Members → Members
  | [] => [(name, value)]
  | (other, old) :: rest =>
    if other = name then (name, value) :: rest
    else (other, old) :: put name value rest

/- The members of a list of pairs, later pairs winning. -/
def ofPairs
    (pairs : List (Wide × Value)) : Members :=
  pairs.foldl (fun members pair => members.put pair.1 pair.2) []

/- The value of a member. -/
def get?
    (members : Members)
    (name : Wide) : Option Value :=
  members.lookup name

end Members

namespace Value

/- The word by which messages call the kind of a value. -/
def kind :
    Value → String
  | .null => "NoneType"
  | .bool _ => "bool"
  | .int _ => "int"
  | .float _ => "float"
  | .text _ => "str"
  | .list _ => "list"
  | .object _ => "dict"

/- Whether a value counts as set: not empty, zero or false. -/
def isTrue :
    Value → Bool
  | .null => false
  | .bool b => b
  | .int n => n != 0
  | .float x => !x.isZero
  | .text s => !s.isEmpty
  | .list items => !items.isEmpty
  | .object members => !members.isEmpty

mutual

/- The form in which messages show a value. -/
def quoted :
    Value → String
  | .null => "None"
  | .bool b => if b then "True" else "False"
  | .int n => toString n
  | .float x => x.text
  | .text s => s.quoted
  | .list items =>
    "[" ++ ", ".intercalate (quotedItems items) ++ "]"
  | .object members =>
    "\x7b" ++ ", ".intercalate (quotedMembers members) ++ "\x7d"

/- The shown forms of the items of a list. -/
def quotedItems :
    List Value → List String
  | [] => []
  | item :: rest => item.quoted :: quotedItems rest

/- The shown forms of the members of an object. -/
def quotedMembers :
    List (Wide × Value) → List String
  | [] => []
  | (name, value) :: rest =>
    (name.quoted ++ ": " ++ value.quoted) ::
      quotedMembers rest

end

end Value

end LookingGlass.Json
