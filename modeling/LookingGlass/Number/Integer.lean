import LookingGlass.Text.Digit
import LookingGlass.Text.Quoted

/-
  This file defines the reading of integers from text.

  Digits of every decimal script count. A numeral may have a
  sign, single underscores between its digits and blanks
  around it, and at most 4300 digits.

  Key definitions include:
    * `digitLimit`
    * `Fault`
    * `Fault.message`
    * `natural`
    * `readDigits`
    * `read`
-/

namespace LookingGlass.Number.Integer

/- The greatest number of digits that a numeral may have. -/
def digitLimit : Nat := 4300

/- Why a text is not read as an integer. -/
inductive Fault
  | tooLong (digits : Nat)
  | noNumeral (text : String)
deriving DecidableEq, Repr

/- The wording of a fault; a long text is cut off. -/
def Fault.message :
    Fault → String
  | .tooLong digits =>
    s!"Exceeds the limit ({digitLimit} digits) for integer " ++
      s!"string conversion: value has {digits} digits; " ++
      "use sys.set_int_max_str_digits() to increase the limit"
  | .noNumeral text =>
    "invalid literal for int() with base 10: " ++
      String.ofList ((Text.quoted text).toList.take 200)

/- The number that decimal digits are written for. -/
def natural
    (digits : List Nat) : Nat :=
  digits.foldl (fun n d => 10 * n + d) 0

------------------------------------------------------------
-- Plain digits
------------------------------------------------------------

/- The values of the decimal digits at the start of a text. -/
def leadingDigits
    (cs : List Char) : List Nat :=
  (cs.takeWhile fun c => (Text.decimalValue? c).isSome).filterMap
    Text.decimalValue?

/-
  Reads a text of digits. The limit is checked on the decimal
  digits that the text starts with, before the rest is looked
  at.
-/
def readDigits
    (cs : List Char) : Except Fault Nat :=
  let digits := leadingDigits cs
  if digits.length > digitLimit then
    .error (.tooLong digits.length)
  else if digits.length < cs.length ∨ cs = [] then
    .error (.noNumeral (String.ofList cs))
  else
    .ok (natural digits)

------------------------------------------------------------
-- Numerals with a sign, underscores and blanks
------------------------------------------------------------

/- The blanks that may stand around a numeral. -/
def isBlank
    (c : Char) : Bool :=
  let v := c.toNat
  (0x09 ≤ v && v ≤ 0x0D) || v == 0x20 || v == 0x85 ||
    v == 0xA0 || v == 0x1680 || (0x2000 ≤ v && v ≤ 0x200A) ||
    v == 0x2028 || v == 0x2029 || v == 0x202F ||
    v == 0x205F || v == 0x3000

/-
  The digits of a numeral and what follows them. An underscore
  has to stand between two digits.
-/
def grouped :
    List Char → Option (List Nat × List Char)
  | [] => none
  | c :: '_' :: rest =>
    match Text.decimalValue? c, grouped rest with
    | some d, some (ds, left) => some (d :: ds, left)
    | _, _ => none
  | c :: rest =>
    match Text.decimalValue? c, grouped rest with
    | some d, some (ds, left) => some (d :: ds, left)
    | some d, none => some ([d], rest)
    | none, _ => none

/- Reads a numeral with an optional sign and blanks around. -/
def read
    (cs : List Char) : Option Int :=
  let trimmed := cs.dropWhile isBlank
  let signed :=
    match trimmed with
    | '-' :: rest => (true, rest)
    | '+' :: rest => (false, rest)
    | _ => (false, trimmed)
  match grouped signed.2 with
  | none => none
  | some (digits, rest) =>
    if rest.all isBlank ∧ digits.length ≤ digitLimit then
      let n : Int := natural digits
      some (if signed.1 then -n else n)
    else none

end LookingGlass.Number.Integer
