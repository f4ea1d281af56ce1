import LookingGlass.Directory.Basic

/-
  This file defines how the collector's answers become a
  directory.

  The routers come as an object from ids to objects with a
  client name, and are put in the order of their client names.
  The routing instances come as an object from groups to lists
  of pairs and are kept as they are. The first part that has
  another shape is reported.

  Key definitions include:
    * `Payload.Error`
    * `Payload.Error.message`
    * `Payload.router?`
    * `Payload.routers`
    * `Payload.routingInstance?`
    * `Payload.routingInstances`
    * `Directory.ofPayloads`
-/

namespace LookingGlass

open LookingGlass.Text (Wide)

namespace Payload

/- What is wrong with an answer. -/
inductive Error
  | routersNoObject (found : Json.Value)
  | routerWithoutName (id : Wide)
  | instancesNoObject (found : Json.Value)
  | groupNoList (group : Wide)
  | malformedInstance (entry : Json.Value) (group : Wide)
deriving Repr

/- The wording of an error. -/
def Error.message :
    Error → String
  | .routersNoObject found =>
    "Expected router list to be an object, got " ++ found.kind
  | .routerWithoutName id =>
    "Router " ++ id.quoted ++ " has no client_name"
  | .instancesNoObject found =>
    "Expected routing instances to be an object, got " ++
      found.kind
  | .groupNoList group =>
    "Routing instances of " ++ group.quoted ++
      " are not a list"
  | .malformedInstance entry group =>
    "Malformed routing instance " ++ entry.quoted ++ " in " ++
      group.quoted

------------------------------------------------------------
-- Routers
------------------------------------------------------------

/- The member that holds a router's client name. -/
def clientNameMember : String := "client_name"

/-
  The router of a member. Whatever else is known about it is
  kept as attributes.
-/
def router?
    (id : Wide)
    (data : Json.Value) : Option (Router Wide) :=
  match data with
  | .object members =>
    match Json.Members.get? members clientNameMember with
    | some (.text clientName) =>
      some
        { id, clientName
          attributes := .ofMembers (members.filter fun member =>
            member.1 != clientNameMember) }
    | _ => none
  | _ => none

/- Whether a router comes no later than another one. -/
def routerBefore
    (r s : Router Wide) : Bool :=
  r.clientName ≤ s.clientName

/- The routers of members, in the order of the members. -/
def routersOf :
    Json.Members → Except Error (List (Router Wide))
  | [] => .ok []
  | (id, data) :: rest =>
    match router? id data with
    | none => .error (.routerWithoutName id)
    | some router => (routersOf rest).map (router :: ·)

/-
  The routers of an answer, by client name. Routers of the same
  client name keep their order.
-/
def routers :
    Json.Value → Except Error (List (Router Wide))
  | .object members =>
    (routersOf members).map (·.mergeSort routerBefore)
  | found => .error (.routersNoObject found)

------------------------------------------------------------
-- Routing instances
------------------------------------------------------------

/- The routing instance of a pair of a text and a name. -/
def routingInstance? :
    Json.Value → Option (RoutingInstance Wide)
  | .list [.text rd, .null] => some ⟨rd, none⟩
  | .list [.text rd, .text name] => some ⟨rd, some name⟩
  | _ => none

/- The routing instances of the entries of a group. -/
def groupOf
    (group : Wide) :
    List Json.Value → Except Error (List (RoutingInstance Wide))
  | [] => .ok []
  | entry :: rest =>
    match routingInstance? entry with
    | none => .error (.malformedInstance entry group)
    | some found => (groupOf group rest).map (found :: ·)

/- The groups of members, in the order of the members. -/
def groupsOf :
    Json.Members →
      Except Error (List (Wide × List (RoutingInstance Wide)))
  | [] => .ok []
  | (group, .list entries) :: rest =>
    match groupOf group entries with
    | .error e => .error e
    | .ok found => (groupsOf rest).map ((group, found) :: ·)
  | (group, _) :: _ => .error (.groupNoList group)

/- The routing instances of an answer, group by group. -/
def routingInstances :
    Json.Value →
      Except Error (List (Wide × List (RoutingInstance Wide)))
  | .object members => groupsOf members
  | found => .error (.instancesNoObject found)

end Payload

------------------------------------------------------------
-- Directories
------------------------------------------------------------

/- The directory of two answers; the routers are read first. -/
def Directory.ofPayloads
    (routers instances : Json.Value) :
    Except Payload.Error (Directory Wide) := do
  let routers ← Payload.routers routers
  let groups ← Payload.routingInstances instances
  return { routers, groups }

end LookingGlass
