import LookingGlass.Number.Integer

/-
  This file defines the reading of dates, with which cookies say
  how long they are kept.

  There is a full form, in which everything has its place, and
  a loose one, in which the weekday, the clock, the zone and a
  note behind it may be left out. Moments are counted in
  seconds from the start of 1970; there are none before it.

  Key definitions include:
    * `Clock`
    * `moment?`
    * `Scan`
    * `fullForm`
    * `looseForm`
    * `read`
-/

namespace LookingGlass.Cookie.Date

------------------------------------------------------------
-- Moments
------------------------------------------------------------

/- The present: a moment, and the year that it is in. -/
structure Clock where
  now : Int
  year : Nat
deriving DecidableEq, Repr

/- Whether a year has a day more than others. -/
def isLeap
    (year : Nat) : Bool :=
  year % 4 == 0 && (year % 100 != 0 || year % 400 == 0)

/- The lengths of the months of a year. -/
def monthLengths
    (year : Nat) : List Nat :=
  [31, if isLeap year then 29 else 28, 31, 30, 31, 30, 31, 31, 30,
    31, 30, 31]

/- The days before a year, from year 1 on. -/
def daysBefore
    (year : Nat) : Nat :=
  let past := year - 1
  365 * past + past / 4 - past / 100 + past / 400

/- A date and a time of day, in numbers. -/
structure Written where
  year : Nat
  month : Nat
  day : Nat
  hour : Nat
  minute : Nat
  second : Nat
deriving DecidableEq, Repr

/- The first year that moments are counted in. -/
def firstYear : Nat := 1970

/- The last year that there is. -/
def lastYear : Nat := 9999

/-
  Whether numbers are those of a date. Every month may have 31
  days here, and a minute two seconds more.
-/
def Written.isDate
    (w : Written) : Bool :=
  firstYear ≤ w.year && 1 ≤ w.month && w.month ≤ 12 &&
    1 ≤ w.day && w.day ≤ 31 && w.hour ≤ 24 && w.minute ≤ 59 &&
    w.second ≤ 61

/- The moment of a date. -/
def moment?
    (w : Written) : Option Int :=
  if w.isDate then
    let months := (monthLengths w.year).take (w.month - 1)
    let days := daysBefore w.year - daysBefore firstYear +
      months.foldr (· + ·) 0 + (w.day - 1)
    some (((days * 24 + w.hour) * 60 + w.minute) * 60 + w.second)
  else none

------------------------------------------------------------
-- Parts of a text
------------------------------------------------------------

/- Reads the start of a text, and gives the rest. -/
abbrev Scan :=
  StateT (List Char) Option

/- Reads one character of a kind. -/
def char
    (isOfKind : Char → Bool) : Scan Char
  | [] => none
  | c :: rest => if isOfKind c then some (c, rest) else none

/- Reads the characters of a text. -/
def exactly
    (text : String) : Scan Unit := fun cs =>
  if text.toList.isPrefixOf cs then
    some ((), cs.drop text.length)
  else none

/- Reads as many characters of a kind as there are. -/
def many
    (isOfKind : Char → Bool) : Scan (List Char) := fun cs =>
  some (cs.span isOfKind)

/- Reads characters of a kind; there has to be one. -/
def some1
    (isOfKind : Char → Bool) : Scan (List Char) := do
  let found ← many isOfKind
  if found.isEmpty then failure
  return found

/- Reads what may be left out. -/
def optional
    (scan : Scan α) : Scan (Option α) := fun cs =>
  match scan cs with
  | some (a, rest) => some (some a, rest)
  | none => some (none, cs)

/- The number that digits of ASCII are written for. -/
def value
    (digits : List Char) : Nat :=
  Number.Integer.natural (digits.map fun c => c.toNat - 0x30)

/- Reads digits, as many as there are up to a greatest number. -/
def digits
    (least greatest : Nat) : Scan (List Char) := fun cs =>
  let found := (cs.take greatest).takeWhile Char.isDigit
  if found.length < least then none
  else some (found, cs.drop found.length)

/- Reads a number of so many digits. -/
def number
    (least greatest : Nat) : Scan Nat :=
  value <$> digits least greatest

/- Whether a character is blank. -/
def isBlank
    (c : Char) : Bool :=
  c == ' ' || (0x09 ≤ c.toNat && c.toNat ≤ 0x0D)

/- Whether a character can be part of a word. -/
def isWord
    (c : Char) : Bool :=
  c.isAlphanum || c == '_'

------------------------------------------------------------
-- Months
------------------------------------------------------------

/- The names of the months. -/
def monthNames : List String :=
  ["jan", "feb", "mar", "apr", "may", "jun", "jul", "aug", "sep",
    "oct", "nov", "dec"]

/- The number of a named month. -/
def monthOfName?
    (name : List Char) : Option Nat :=
  let small := String.ofList (name.map Char.toLower)
  (monthNames.findIdx? (· == small)).map (· + 1)

/- The number of a month, by its name or as it is. -/
def month?
    (word : List Char) : Option Nat :=
  match monthOfName? word with
  | some n => some n
  | none =>
    match Number.Integer.read word with
    | some n => if 1 ≤ n ∧ n ≤ 12 then some n.toNat else none
    | none => none

------------------------------------------------------------
-- The full form
------------------------------------------------------------

/- Reads a capital letter of some, and two small ones. -/
def shortName
    (capitals : String) : Scan (List Char) := do
  let a ← char capitals.toList.contains
  let b ← char Char.isLower
  let c ← char Char.isLower
  return [a, b, c]

/- Reads a date in full: the name of a month, and the rest. -/
def fullForm : Scan (List Char × Written) := do
  let _ ← shortName "SMTWF"
  exactly ", "
  let day ← number 2 2
  exactly " "
  let name ← shortName "JFMASOND"
  exactly " "
  let year ← number 4 4
  exactly " "
  let hour ← number 2 2
  exactly ":"
  let minute ← number 2 2
  exactly ":"
  let second ← number 2 2
  exactly " GMT"
  return (name, { year, month := 0, day, hour, minute, second })

------------------------------------------------------------
-- The loose form
------------------------------------------------------------

/- The names of the days that a date may start with. -/
def dayNames : List String :=
  ["sun", "mon", "tue", "wed", "thu", "fri", "sat"]

/- Drops the day of the week, and what is blank around it. -/
def dropDay
    (cs : List Char) : List Char :=
  let name := (cs.take 3).map Char.toLower
  if dayNames.contains (String.ofList name) then
    match (cs.drop 3).dropWhile Char.isAlpha with
    | ',' :: rest => rest.dropWhile isBlank
    | rest => rest.dropWhile isBlank
  else cs

/- Reads what separates day, month and year. -/
def separator : Scan Unit := do
  match ← optional (some1 isBlank) with
  | some _ => return ()
  | none =>
    let _ ← char fun c => c == '-' || c == '/'
    return ()

/- Reads a time of day; the seconds may be left out. -/
def clock : Scan (Nat × Nat × Nat) := do
  match ← optional (some1 isBlank) with
  | some _ => pure ()
  | none => exactly ":"
  let hour ← number 1 2
  exactly ":"
  let minute ← number 2 2
  let second ← optional (exactly ":" *> number 2 2)
  return (hour, minute, second.getD 0)

/- Whether a text starts with the word for a half of the day. -/
def startsWithHalf :
    List Char → Bool
  | a :: b :: rest =>
    "APap".toList.contains a && "Mm".toList.contains b &&
      !rest.head?.any isWord
  | _ => false

/-
  Reads the distance of a zone in seconds; nothing if it is not
  known. Of three digits the first one is the hour.
-/
def numberZone : Scan (Option Int) := do
  let sign ← optional (char fun c => c == '-' || c == '+')
  let found ← digits 2 4
  let hours := if found.length = 3 then 1 else 2
  let seconds : Int :=
    3600 * value (found.take hours) + 60 * value (found.drop hours)
  return some (if sign = some '-' then -seconds else seconds)

/- Reads the name of a zone. Only those without distance count. -/
def namedZone : Scan (Option Int) := do
  if startsWithHalf (← get) then failure
  let name ← some1 Char.isAlpha
  let capital := String.ofList (name.map Char.toUpper)
  return if ["GMT", "UTC", "UT", "Z"].contains capital then some 0
    else none

/- Reads a note in parentheses. -/
def note : Scan Unit := do
  exactly "("
  let _ ← some1 isWord
  exactly ")"
  let _ ← many isBlank
  return ()

/- The year that a short one is written for: one near to now. -/
def fullYear
    (present written : Nat) : Nat :=
  if written ≥ 1000 then written
  else
    let rest := present % 100
    let year := written + present - rest
    if rest > written + 50 then year + 100
    else if written > rest + 50 then year - 100
    else year

/- A date in the loose form. -/
structure Loose where
  day : Nat
  month : List Char
  year : List Char
  time : Nat × Nat × Nat
  zone : Option Int
deriving DecidableEq, Repr

/- Reads a date in the loose form. -/
def looseForm : Scan Loose := do
  let day ← number 1 2
  separator
  let month ← some1 isWord
  separator
  let year ← some1 Char.isDigit
  let time ← optional clock
  let _ ← many isBlank
  let zone ← optional (numberZone <|> namedZone)
  let _ ← many isBlank
  let _ ← optional note
  return {
    day
    month
    year
    time := time.getD (0, 0, 0)
    zone := zone.getD (some 0) }

/- The moment of a date in the loose form. -/
def Loose.moment?
    (present : Nat)
    (loose : Loose) : Option Int := do
  let written := value loose.year
  if written > lastYear then none
  let month ← month? loose.month
  let (hour, minute, second) := loose.time
  let year := fullYear present written
  let moment ← Date.moment?
    { year, month, day := loose.day, hour, minute, second }
  return moment - (← loose.zone)

------------------------------------------------------------
-- Reading
------------------------------------------------------------

/- What is wrong with the text of a date. -/
inductive Fault
  | noMonth
  | longYear
deriving DecidableEq, Repr

/- Reads a whole text. -/
def whole?
    (scan : Scan α)
    (cs : List Char) : Option α :=
  match scan cs with
  | some (a, []) => some a
  | _ => none

/-
  The moment of a text, if it is a date. It is a fault if a text
  in the full form has a name that is no month, or one in the
  loose form a year of more digits than a number may have.
-/
def read
    (present : Nat)
    (cs : List Char) : Except Fault (Option Int) :=
  match whole? fullForm cs with
  | some (name, written) =>
    match monthOfName? name with
    | some month => .ok (moment? { written with month })
    | none => .error .noMonth
  | none =>
    match whole? looseForm (dropDay (cs.dropWhile isBlank)) with
    | some loose =>
      if loose.year.length > Number.Integer.digitLimit then
        .error .longYear
      else .ok (loose.moment? present)
    | none => .ok none

end LookingGlass.Cookie.Date
