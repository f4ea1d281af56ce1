import LookingGlass.Directory.Basic
import LookingGlass.Query.Basic

/-
  This file defines what a directory offers to choose from:
  the routers by client name, and the distinct routing
  instances in a fixed order.

  Key definitions include:
    * `Choice`
    * `RoutingInstance.before`
    * `Directory.distinctInstances`
    * `routerChoices`
    * `instanceChoices`
-/

namespace LookingGlass

open LookingGlass.Text (Wording)

variable {T : Type} [Wording T]

/- Something to choose: a value and the text that shows it. -/
structure Choice (T : Type := String) where
  value : T
  label : T
deriving DecidableEq, Repr

------------------------------------------------------------
-- Routers
------------------------------------------------------------

/- The choice of all routers. -/
def allRoutersChoice : Choice T :=
  ⟨Wording.ofString allRouters, Wording.ofString "on all"⟩

/- The choice of the routers of a client name. -/
def routerChoice
    (clientName : T) : Choice T :=
  ⟨clientName, Wording.append (Wording.ofString "on ") clientName⟩

/-
  All routers, and each client name once, in the order in which
  the names first appear.
-/
def routerChoices
    (routers : List (Router T)) : List (Choice T) :=
  allRoutersChoice ::
    (routers.map Router.clientName).eraseDups.map routerChoice

------------------------------------------------------------
-- Routing instances
------------------------------------------------------------

/-
  The order of routing instances: by distinguisher, then those
  with a name first, then by name.
-/
def RoutingInstance.before
    (r s : RoutingInstance T) : Bool :=
  if Wording.wide r.rd < Wording.wide s.rd then true
  else if Wording.wide s.rd < Wording.wide r.rd then false
  else
    match r.name, s.name with
    | some m, some n => Wording.wide m ≤ Wording.wide n
    | some _, none => true
    | none, some _ => false
    | none, none => true

/- Each routing instance of a directory once, in order. -/
def Directory.distinctInstances
    (d : Directory T) : List (RoutingInstance T) :=
  d.instances.eraseDups.mergeSort RoutingInstance.before

/-
  The choice among routing instances. There is none to make
  among fewer than two.
-/
def instanceChoices
    (instances : List (RoutingInstance T)) : List (Choice T) :=
  if instances.length ≤ 1 then []
  else instances.map fun entry => ⟨entry.rd, entry.label⟩

end LookingGlass
