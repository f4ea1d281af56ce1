import LookingGlass.Text.Ascii
import LookingGlass.Text.Composition
import LookingGlass.Text.Cut
import LookingGlass.Text.Direction
import LookingGlass.Text.Joining
import LookingGlass.Text.LetterCase
import LookingGlass.Text.Punycode
import LookingGlass.Text.Quoted
import LookingGlass.Text.Script
import LookingGlass.Url.LabelLetter

/-
  This file defines the labels of international names.

  A label is either written in ASCII or marked and in Punycode.
  Whichever it is, its code points are checked: what they are,
  what stands next to them, and in which directions they are
  written. Names are labels with dots between them.

  Key definitions include:
    * `Label.Error`
    * `Label.Error.message`
    * `Label.check`
    * `Label.decode`
    * `Label.encode`
    * `Label.decodeName`
    * `Label.encodeName`
-/

namespace LookingGlass.Url.Label

open LookingGlass.Text (Direction)

------------------------------------------------------------
-- Errors
------------------------------------------------------------

/- A code point of a label and its position, from 1 on. -/
structure Place where
  point : Nat
  position : Nat
  label : List Nat
deriving DecidableEq, Repr

/- Why a text is no label, or labels are no name. -/
inductive Error
  | empty
  | notComposed
  | hyphens
  | outerHyphen
  | leadingMark
  | neighbor (place : Place)
  | joiner (place : Place)
  | context (place : Place)
  | character (place : Place)
  | unknownDirection (place : Place)
  | firstDirection (label : List Nat)
  | rightToLeft (position : Nat)
  | leftToRight (position : Nat)
  | numbers
  | lastDirection
  | noPunycode
  | punycodeHyphen
  | punycode
  | notCanonical
  | tooLong
  | nameTooLong
deriving DecidableEq, Repr

/- A code point as messages name it. -/
def pointText
    (point : Nat) : String :=
  let digits :=
    if point < 0x10000 then 4
    else if point < 0x100000 then 5
    else 6
  let text := Text.Quoted.hexDigits digits point
  "U+" ++ String.ofList (text.map Char.toUpper)

/- A code point and its position. -/
def Place.text
    (place : Place) : String :=
  s!"{pointText place.point} at position {place.position}"

/- A code point that is not allowed at its position. -/
def Place.refused
    (place : Place) : String :=
  s!"{pointText place.point} not allowed at position " ++
    s!"{place.position} in " ++ Text.quotedPoints place.label

/- The wording of an error. -/
def Error.message :
    Error → String
  | .empty => "Empty Label"
  | .notComposed => "Label must be in Normalization Form C"
  | .hyphens =>
    "Label has disallowed hyphens in 3rd and 4th position"
  | .outerHyphen => "Label must not start or end with a hyphen"
  | .leadingMark =>
    "Label begins with an illegal combining character"
  | .neighbor place =>
    s!"Unknown codepoint adjacent to joiner {place.text} in " ++
      Text.quotedPoints place.label
  | .joiner place => "Joiner " ++ place.refused
  | .context place => "Codepoint " ++ place.refused
  | .character place =>
    s!"Codepoint {place.text} of " ++
      Text.quotedPoints place.label ++ " not allowed"
  | .unknownDirection place =>
    "Unknown directionality in label " ++
      Text.quotedPoints place.label ++
      s!" at position {place.position}"
  | .firstDirection label =>
    "First codepoint in label " ++ Text.quotedPoints label ++
      " must be directionality L, R or AL"
  | .rightToLeft position =>
    s!"Invalid direction for codepoint at position {position} " ++
      "in a right-to-left label"
  | .leftToRight position =>
    s!"Invalid direction for codepoint at position {position} " ++
      "in a left-to-right label"
  | .numbers => "Can not mix numeral types in a right-to-left label"
  | .lastDirection =>
    "Label ends with illegal codepoint directionality"
  | .noPunycode =>
    "Malformed A-label, no Punycode eligible content found"
  | .punycodeHyphen => "A-label must not end with a hyphen"
  | .punycode => "Invalid A-label"
  | .notCanonical =>
    "A-label is not the canonical Punycode encoding of its U-label"
  | .tooLong => "Label too long"
  | .nameTooLong => "Domain too long"

------------------------------------------------------------
-- Characters
------------------------------------------------------------

/- Whether the next letter, joins apart, is of a kind. -/
def nextLetter
    (isOfKind : Nat → Bool)
    (points : List Nat) : Bool :=
  (points.dropWhile Text.isJoinTransparent).head?.any isOfKind

/- The joiner that keeps letters apart. -/
def nonJoiner : Nat := 0x200C

/- The joiner that puts letters together. -/
def joiner : Nat := 0x200D

/-
  Whether a joiner may stand between two texts, the first of
  which is given from its end: behind a virama, and one that
  keeps letters apart also between letters that would join.
-/
def allowsJoiner
    (before : List Nat)
    (point : Nat)
    (after : List Nat) : Bool :=
  before.head?.any Text.isVirama ||
    (point == nonJoiner && nextLetter Text.joinsAfter before &&
      nextLetter Text.joinsBefore after)

/- The ideographs of Tangut, which are known without names. -/
def namelessIdeographs : Text.Ranges :=
  [(0x17000, 0x187F7), (0x18D00, 0x18D08)]

/- Whether a code point that can stand in labels has a name. -/
def isNamed
    (point : Nat) : Bool :=
  Direction.isKnown point && !namelessIdeographs.has point

/- Checks a joiner; what precedes it has to have a name. -/
def checkJoiner
    (before : List Nat)
    (place : Place)
    (after : List Nat) : Except Error Unit :=
  if before.head?.any (!isNamed ·) then
    .error (.neighbor place)
  else if allowsJoiner before place.point after then .ok ()
  else .error (.joiner place)

/- The digits of Arabic. -/
def arabicDigits : Text.Ranges :=
  [(0x660, 0x669)]

/- The digits of Arabic in their eastern form. -/
def easternDigits : Text.Ranges :=
  [(0x6F0, 0x6F9)]

/-
  Whether a sign may stand between two texts, the first of
  which is given from its end. Nothing if it is no such sign.
  The signs are a dot between two letters l, a numeral sign of
  Greek, two marks of Hebrew, a dot of Japanese and the digits
  of Arabic, which are of one form each time.
-/
def allowsSign?
    (before : List Nat)
    (point : Nat)
    (after : List Nat) : Option Bool :=
  let others := before ++ after
  if point = 0xB7 then
    some (before.head? == some 0x6C && after.head? == some 0x6C)
  else if point = 0x375 then some (after.head?.any Text.isGreek)
  else if point = 0x5F3 ∨ point = 0x5F4 then
    some (before.head?.any Text.isHebrew)
  else if point = 0x30FB then
    some (others.any fun p => p != point && Text.isJapanese p)
  else if arabicDigits.has point then
    some (!others.any easternDigits.has)
  else if easternDigits.has point then
    some (!others.any arabicDigits.has)
  else none

/- Checks a code point between two texts. -/
def checkPoint
    (before : List Nat)
    (point : Nat)
    (after : List Nat) : Except Error Unit :=
  let label := before.reverse ++ point :: after
  let place : Place := ⟨point, before.length + 1, label⟩
  if isLabelLetter point then .ok ()
  else if point = nonJoiner ∨ point = joiner then
    checkJoiner before place after
  else
    match allowsSign? before point after with
    | some true => .ok ()
    | some false => .error (.context place)
    | none => .error (.character place)

/- Checks the code points of a text behind another one. -/
def checkPoints
    (before : List Nat) :
    List Nat → Except Error Unit
  | [] => .ok ()
  | point :: after => do
    checkPoint before point after
    checkPoints (point :: before) after

------------------------------------------------------------
-- Directions
------------------------------------------------------------

/- Whether a direction makes a label one of two directions. -/
def isBackward :
    Direction → Bool
  | .rightToLeft | .arabicLetter | .arabicNumber => true
  | _ => false

/- Whether a direction can be in a label of a main direction. -/
def fits
    (isForward : Bool)
    (d : Direction) : Bool :=
  if isForward then !isBackward d else d != .leftToRight

/- Whether a label of a main direction can end with another one. -/
def canEnd
    (isForward : Bool)
    (d : Direction) : Bool :=
  if isForward then d == .leftToRight || d == .europeanNumber
  else isBackward d || d == .europeanNumber

/-
  Checks directions from a position on. In a label from right
  to left there is one kind of numbers, which is noted.
-/
def checkDirections
    (isForward : Bool)
    (position : Nat)
    (number : Option Direction) :
    List Direction → Except Error Unit
  | [] => .ok ()
  | d :: rest =>
    if !fits isForward d then
      .error (if isForward then .leftToRight position
        else .rightToLeft position)
    else if !isForward ∧
        (d = .arabicNumber ∨ d = .europeanNumber) then
      if number.any (· != d) then .error .numbers
      else checkDirections isForward (position + 1) (some d) rest
    else checkDirections isForward (position + 1) number rest

/- The direction of a code point at a position of a label. -/
def direction
    (label : List Nat)
    (point position : Nat) : Except Error Direction :=
  match Direction.ofPoint? point with
  | some d => .ok d
  | none => .error (.unknownDirection ⟨point, position, label⟩)

/- The directions of the code points of a label. -/
def directions
    (label : List Nat) : Except Error (List Direction) :=
  (label.zipIdx 1).mapM fun entry =>
    direction label entry.1 entry.2

/-
  Checks the directions of a label, if it has any from right to
  left. The first one is the main direction; marks at the end
  do not count.
-/
def checkDirection
    (label : List Nat) : Except Error Unit := do
  let found ← directions label
  if !found.any isBackward then return ()
  let isForward ←
    match found.head? with
    | some .leftToRight => pure true
    | some .rightToLeft | some .arabicLetter => pure false
    | _ => throw (.firstDirection label)
  checkDirections isForward 1 none found
  let last := (found.reverse.dropWhile (· == .mark)).head?
  if !last.any (canEnd isForward) then throw .lastDirection

------------------------------------------------------------
-- Labels
------------------------------------------------------------

/- The hyphen. -/
def hyphen : Nat := 0x2D

/- Checks a label in code points. -/
def check
    (label : List Nat) : Except Error Unit := do
  if label.isEmpty then throw .empty
  if !Text.isComposed label then throw .notComposed
  if (label.drop 2).take 2 = [hyphen, hyphen] then throw .hyphens
  if label.head? = some hyphen ∨ label.getLast? = some hyphen then
    throw .outerHyphen
  if label.head?.any Text.isMark then throw .leadingMark
  checkPoints [] label
  checkDirection label

/- The mark of a label in Punycode. -/
def mark : List Char := "xn--".toList

/- Checks a label in characters. -/
def checkChars
    (label : List Char) : Except Error (List Char) := do
  check (label.map Char.toNat)
  return label

/-
  The label of a text in Punycode. There is one such text of a
  label; another one that reads the same is refused.
-/
def ofPunycode
    (text : List Char) : Except Error (List Char) := do
  if text.isEmpty then throw .noPunycode
  if text.getLast? = some '-' then throw .punycodeHyphen
  match Text.Punycode.decode? text with
  | none => throw .punycode
  | some points =>
    if Text.Punycode.encode points ≠ text then throw .notCanonical
    check points
    return points.map Char.ofNat

/- A label in characters, which may be written in Punycode. -/
def decode
    (label : List Char) : Except Error (List Char) :=
  let small := label.map Char.toLower
  if !label.all Text.Ascii.isAscii then checkChars label
  else if !mark.isPrefixOf small then checkChars small
  else ofPunycode (small.drop mark.length)

/- The greatest length of a label. -/
def greatestLength : Nat := 63

/- A label in ASCII. -/
def encode
    (label : List Char) : Except Error (List Char) := do
  let _ ← decode label
  let text :=
    if label.all Text.Ascii.isAscii then label
    else mark ++ Text.Punycode.encode (label.map Char.toNat)
  if text.length > greatestLength then throw .tooLong
  return text

------------------------------------------------------------
-- Names
------------------------------------------------------------

/- Whether a character separates labels. -/
def isDot
    (c : Char) : Bool :=
  c == '.' || c == '\u3002' || c == '\uFF0E' || c == '\uFF61'

/- The labels of a name, and whether it ends with a dot. -/
def labels
    (name : List Char) : List (List Char) × Bool :=
  let pieces := Text.pieces '.'
    (name.map fun c => if isDot c then '.' else c)
  if pieces.getLast? = some [] then (pieces.dropLast, true)
  else (pieces, false)

/- A name of labels. -/
def join
    (labels : List (List Char))
    (endsWithDot : Bool) : List Char :=
  ['.'].intercalate (labels ++ if endsWithDot then [[]] else [])

/- The greatest length of a name, a dot at its end apart. -/
def greatestNameLength : Nat := 253

/-
  A name in characters. A long name is refused right away; for
  that, a dot at its end is taken for granted.
-/
def decodeName
    (name : List Char) : Except Error (List Char) := do
  if name.length > greatestNameLength + 1 then throw .nameTooLong
  let (parts, endsWithDot) := labels name
  return join (← parts.mapM decode) endsWithDot

/- A name in ASCII. -/
def encodeName
    (name : List Char) : Except Error (List Char) := do
  let (parts, endsWithDot) := labels name
  let text := join (← parts.mapM encode) endsWithDot
  let dot := if endsWithDot then 1 else 0
  if text.length > greatestNameLength + dot then throw .nameTooLong
  return text

end LookingGlass.Url.Label
