import LookingGlass.Collector.Coding
import LookingGlass.Collector.Status
import LookingGlass.Cookie.Jar
import LookingGlass.Json.Encoding
import LookingGlass.Text.Ascii

/-
  This file defines why a request to the collector yields no
  document.

  Key definitions include:
    * `Fault`
    * `Fault.isOfRequest`
    * `Fault.message`
-/

namespace LookingGlass.Collector

/- Why a request yields no document. -/
inductive Fault
  | address (e : Url.Error)
  | noAnswer (message : String)
  | coding (e : Compression.Fault)
  | location (e : Url.Error)
  | status (code : Nat) (url : String) (target : Option String)
  | label (e : Url.Label.Error)
  | noAscii (e : Text.Ascii.Error)
  | origin (e : Cookie.Origin.Error)
  | bracket (e : Url.Bracket.Error)
  | cookie (e : Cookie.Error)
  | document (e : Json.DocumentError)
deriving Repr

namespace Fault

/- What is wrong, in words. -/
def detail :
    Fault → String
  | .address e => e.message
  | .noAnswer message => message
  | .coding e => e.message
  | .location e =>
    s!"Invalid URL in location header: {e.message}."
  | .status code url target => statusMessage code url target
  | .label e => e.message
  | .noAscii e => e.message
  | .origin e => e.message
  | .bracket e => e.message
  | .cookie e => e.message
  | .document e => e.message

/-
  Whether a fault is one of the request. All others are put
  down to the document.
-/
def isOfRequest :
    Fault → Bool
  | .address _ | .noAnswer _ | .coding _ | .location _
  | .status _ _ _ => true
  | _ => false

/- The wording of a fault. -/
def message
    (fault : Fault) : String :=
  (if fault.isOfRequest then "failed: "
    else "returned malformed JSON: ") ++ fault.detail

end Fault

end LookingGlass.Collector
