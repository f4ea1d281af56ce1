import LookingGlass.Json.Table

/-
  This file defines the directory of a route collector: its
  routers, and its routing instances by group.

  A router is identified by its id alone. A routing instance
  has a route distinguisher, which is any text here, and may
  have a display name. Names are texts of any kind: those that
  a collector gives are wide.

  Key definitions include:
    * `Router`
    * `Router.sameAs`
    * `Router.get`
    * `Router.item?`
    * `Router.set`
    * `RoutingInstance`
    * `RoutingInstance.label`
    * `Directory`
    * `Directory.wide`
-/

namespace LookingGlass

open LookingGlass.Text (Wide Wording)

variable {T : Type} [Wording T]

------------------------------------------------------------
-- Routers
------------------------------------------------------------

/- A router of the collector. -/
structure Router (T : Type := String) where
  id : T
  clientName : T
  attributes : Json.Table := []
deriving Repr, Inhabited

namespace Router

/- Whether two records are of the same router. -/
def sameAs
    (r s : Router T) : Bool :=
  r.id == s.id

/- An attribute, or a value in its place. -/
def get
    (r : Router T)
    (name : Wide)
    (default : Json.Value := .null) : Json.Value :=
  (r.attributes.get? name).getD default

/- An attribute, if there is one. -/
def item?
    (r : Router T)
    (name : Wide) : Option Json.Value :=
  r.attributes.get? name

/- Sets an attribute. -/
def set
    (r : Router T)
    (name : Wide)
    (value : Json.Value) : Router T :=
  { r with attributes := r.attributes.put (.text name) value }

/- How many different routers there are in a list. -/
def countDistinct
    (routers : List (Router T)) : Nat :=
  (routers.map Router.id).eraseDups.length

/- The form in which messages show a router. -/
def quoted
    (r : Router T) : String :=
  "Router(" ++ Wording.quoted r.id ++ ", " ++
    Wording.quoted r.clientName ++ ")"

/- A router with its names as wide texts. -/
def wide
    (r : Router T) : Router Wide :=
  { id := Wording.wide r.id
    clientName := Wording.wide r.clientName
    attributes := r.attributes }

end Router

------------------------------------------------------------
-- Routing instances
------------------------------------------------------------

/- A routing instance as the collector lists it. -/
structure RoutingInstance (T : Type := String) where
  rd : T
  name : Option T
deriving DecidableEq, Repr

namespace RoutingInstance

/- What an instance is called: its name, or its distinguisher. -/
def label
    (r : RoutingInstance T) : T :=
  r.name.getD r.rd

/- The form in which messages show an instance. -/
def quoted
    (r : RoutingInstance T) : String :=
  let name :=
    match r.name with
    | none => "None"
    | some name => Wording.quoted name
  "RoutingInstanceEntry(route_distinguisher=" ++
    Wording.quoted r.rd ++ ", display_name=" ++ name ++ ")"

/- A routing instance with its names as wide texts. -/
def wide
    (r : RoutingInstance T) : RoutingInstance Wide :=
  ⟨Wording.wide r.rd, r.name.map Wording.wide⟩

end RoutingInstance

------------------------------------------------------------
-- Directories
------------------------------------------------------------

/- The form in which messages show a fixed list. -/
def quotedTuple
    (parts : List String) : String :=
  match parts with
  | [part] => "(" ++ part ++ ",)"
  | parts => "(" ++ ", ".intercalate parts ++ ")"

/- The routers and routing instances of a collector. -/
structure Directory (T : Type := String) where
  routers : List (Router T) := []
  groups : List (T × List (RoutingInstance T)) := []
deriving Repr, Inhabited

namespace Directory

/- All routing instances, group by group. -/
def instances
    (d : Directory T) : List (RoutingInstance T) :=
  d.groups.flatMap Prod.snd

/- The form in which messages show a directory. -/
def quoted
    (d : Directory T) : String :=
  let routers := quotedTuple (d.routers.map Router.quoted)
  let groups :=
    d.groups.map fun (group, instances) =>
      Wording.quoted group ++ ": " ++
        quotedTuple (instances.map RoutingInstance.quoted)
  "InstanceDirectory(" ++ routers ++ ", \x7b" ++
    ", ".intercalate groups ++ "\x7d)"

/- A directory with its names as wide texts. -/
def wide
    (d : Directory T) : Directory Wide :=
  { routers := d.routers.map Router.wide
    groups := d.groups.map fun (group, instances) =>
      (Wording.wide group, instances.map RoutingInstance.wide) }

end Directory

end LookingGlass
