import LookingGlass.Query.Link
import LookingGlass.Text.Wide

/-
  This file defines lookup queries whose texts may be wide, and
  how their links are read and written.

  A link may hold half of a surrogate pair. It stays what it is
  when the link is read, and parts two runs of characters whose
  escapes are read apart from each other. As escapes are those
  of UTF-8, there is no link of a query that holds a half.

  Key definitions include:
    * `Text.Percent.decodePoints`
    * `WideQuery`
    * `WideQuery.make`
    * `WideQuery.ofLink`
    * `WideQuery.spell`
    * `WideQuery.link`
-/

namespace LookingGlass

open LookingGlass.Text (Point Wide)

------------------------------------------------------------
-- Escapes
------------------------------------------------------------

namespace Text.Percent

/- Reads escapes behind a run of characters, the last one first. -/
def decodeBehind
    (run : List Char) :
    List Point → List Point
  | [] => (decodeLossy run.reverse).map .scalar
  | .scalar c :: rest => decodeBehind (c :: run) rest
  | .half n :: rest =>
    (decodeLossy run.reverse).map .scalar ++
      .half n :: decodeBehind [] rest

/- Reads the escapes of a text, each run of characters apart. -/
def decodePoints
    (points : List Point) : List Point :=
  decodeBehind [] points

end Text.Percent

------------------------------------------------------------
-- Queries
------------------------------------------------------------

/- A lookup query of texts that may be wide. -/
structure WideQuery where
  mode : Mode
  value : Wide
  router : Wide
  rd : Option Wide
  rd_ne_default : rd ≠ some (defaultInstance : Wide)
deriving DecidableEq, Repr

namespace WideQuery

/- A query of a distinguisher that may name the default. -/
def make
    (mode : Mode)
    (value : Wide)
    (router : Wide)
    (rd : Option Wide) : WideQuery :=
  if h : rd = some (defaultInstance : Wide) then
    { mode, value, router, rd := none
      rd_ne_default := by simp }
  else
    { mode, value, router, rd, rd_ne_default := h }

/- Why there is no query. -/
inductive Error
  | unknownMode (name : Wide)
deriving DecidableEq, Repr

/- The wording of an error. -/
def Error.message :
    Error → Wide
  | .unknownMode name => ("Invalid query mode " : Wide) ++ name

/- A query of a mode that is given by its name. -/
def ofNames
    (mode : Wide)
    (value : Wide)
    (router : Wide)
    (rd : Option Wide) : Except Error WideQuery :=
  match Mode.all.find? fun known => (known.name : Wide) == mode with
  | some known => .ok (make known value router rd)
  | none => .error (.unknownMode mode)

------------------------------------------------------------
-- Reading
------------------------------------------------------------

/- A name or value of a parameter, with its escapes read. -/
def parameterText
    (points : List Point) : Wide :=
  ⟨Text.Percent.decodePoints
    (points.map fun p =>
      if p = .scalar '+' then .scalar ' ' else p)⟩

/- The parameters that stand in a text. -/
def parameters
    (points : List Point) : List (Wide × Wide) :=
  ((Text.pieces (.scalar '&') points).filter
    fun piece => !piece.isEmpty).map
      fun piece =>
        let parts := Text.cut (.scalar '=') piece
        (parameterText parts.1, parameterText (parts.2.getD []))

/-
  The query of a mode, a value behind it and the parameters of
  an address. Without mode and value it is the empty query with
  these parameters.
-/
def ofParts
    (mode : List Point)
    (value : Option (List Point))
    (parameter : Wide → Option Wide) : Except Error WideQuery :=
  let router :=
    (parameter Query.routerFilter).getD (allRouters : Wide)
  let rd := parameter Query.instanceFilter
  if mode.isEmpty ∧ value.isNone then
    .ok (make .fallback "" router rd)
  else ofNames ⟨mode⟩ ⟨value.getD []⟩ router rd

/-
  Reads a link, with or without its first two characters. Of
  parameters of the same name the last one counts.
-/
def ofLink
    (link : Wide) : Except Error WideQuery :=
  let body :=
    Text.dropLead (.scalar '/')
      (Text.dropLead (.scalar '#') link.points)
  let parts := Text.cut (.scalar '?') body
  let found := parameters (parts.2.getD [])
  let segments := Text.cut (.scalar '/') parts.1
  ofParts segments.1 (segments.2.map Text.Percent.decodePoints)
    fun name => found.reverse.lookup name

------------------------------------------------------------
-- Writing
------------------------------------------------------------

/- The query of characters that a query is, or a fault. -/
def spell
    (q : WideQuery) : Except Wide.Fault Query :=
  match q.value.spell, q.router.spell with
  | .error fault, _ => .error fault
  | .ok _, .error fault => .error fault
  | .ok value, .ok router =>
    match q.rd with
    | none => .ok (.make q.mode value router none)
    | some rd =>
      rd.spell.map fun rd => .make q.mode value router (some rd)

/- The link of a query, if there is one. -/
def link
    (q : WideQuery) : Except Wide.Fault String :=
  q.spell.map Query.link

end WideQuery

end LookingGlass
