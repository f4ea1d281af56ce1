import LookingGlass.Json.Value
import LookingGlass.Number.Integer

/-
  This file defines the reading of JSON texts.

  Each reader takes a text and returns what is left of it,
  together with the fact that this is no longer, or shorter,
  than the text; so the readers of nested values end. A fault
  is noted with the number of code points left at its place,
  which is turned into a position when the whole text is known.

  Key definitions include:
    * `Fault`
    * `Error`
    * `Error.message`
    * `greatestDepth`
    * `value`
    * `Value.read`
-/

namespace LookingGlass.Json

open LookingGlass.Text (Point Wide)

------------------------------------------------------------
-- Errors
------------------------------------------------------------

/- What is wrong at a place of a text. -/
inductive Fault
  | byteOrderMark
  | expectedValue
  | expectedName
  | expectedColon
  | expectedComma
  | extraData
  | controlCharacter
  | unterminatedText
  | unknownEscape
  | incompleteEscape
deriving DecidableEq, Repr

/- The wording of a fault. -/
def Fault.message :
    Fault → String
  | .byteOrderMark =>
    "Unexpected UTF-8 BOM (decode using utf-8-sig)"
  | .expectedValue => "Expecting value"
  | .expectedName =>
    "Expecting property name enclosed in double quotes"
  | .expectedColon => "Expecting ':' delimiter"
  | .expectedComma => "Expecting ',' delimiter"
  | .extraData => "Extra data"
  | .controlCharacter => "Invalid control character at"
  | .unterminatedText => "Unterminated string starting at"
  | .unknownEscape => "Invalid \\escape"
  | .incompleteEscape => "Invalid \\uXXXX escape"

/-
  Why a text is not read: a fault at a place, an integer with
  more digits than are read, or too many nested values.
-/
inductive Error
  | malformed (fault : Fault) (line column position : Nat)
  | integer (fault : Number.Integer.Fault)
  | tooDeep
deriving DecidableEq, Repr

/- The wording of an error. -/
def Error.message :
    Error → String
  | .malformed fault line column position =>
    s!"{fault.message}: line {line} column {column} " ++
      s!"(char {position})"
  | .integer fault => fault.message
  | .tooDeep => "too many nested values"

/- A fault with the number of code points left at its place. -/
inductive Stop
  | fault (fault : Fault) (left : Nat)
  | integer (fault : Number.Integer.Fault)
  | tooDeep
deriving DecidableEq, Repr

/- The error that a stop is in a given text. -/
def Stop.error
    (whole : List Point) :
    Stop → Error
  | .integer long => .integer long
  | .tooDeep => .tooDeep
  | .fault what left =>
    let position := whole.length - left
    let before := whole.take position
    let line := before.count (.scalar '\n')
    let column :=
      (before.reverse.takeWhile (· != .scalar '\n')).length
    .malformed what (line + 1) (column + 1) position

------------------------------------------------------------
-- Rests
------------------------------------------------------------

/- A rest that is no longer than a text. -/
abbrev Rest
    (s : List Point) :=
  { r : List Point // r.length ≤ s.length }

/- A rest that is shorter than a text. -/
abbrev Shorter
    (s : List Point) :=
  { r : List Point // r.length < s.length }

/- Whether a code point is a blank between tokens. -/
def isBlank
    (p : Point) : Bool :=
  p == .scalar ' ' || p == .scalar '\t' ||
    p == .scalar '\n' || p == .scalar '\r'

/- What follows the code points of a kind at the start. -/
def skip
    (p : Point → Bool)
    (s : List Point) : Rest s :=
  ⟨s.dropWhile p, (List.dropWhile_suffix p).length_le⟩

/- What follows a sign, with blanks in front of it. -/
def sign?
    (sign : Char)
    (s : List Point) : Option (Shorter s) :=
  match h : s.dropWhile isBlank with
  | [] => none
  | c :: rest =>
    if c = .scalar sign then
      some ⟨rest, by
        have hRest := (skip isBlank s).2
        simp only [skip, h, List.length_cons] at hRest
        omega⟩
    else none

/- How many code points are left behind blanks. -/
def left
    (s : List Point) : Nat :=
  (skip isBlank s).1.length

/- What follows a text's first code points. -/
def Rest.drop
    (n : Nat)
    (s : List Point) : Rest s :=
  ⟨s.drop n, by simp⟩

------------------------------------------------------------
-- Texts
------------------------------------------------------------

/- The character of an escape of one letter. -/
def plainEscape? :
    Point → Option Char
  | .scalar '"' => some '"'
  | .scalar '\\' => some '\\'
  | .scalar '/' => some '/'
  | .scalar 'b' => some '\x08'
  | .scalar 'f' => some '\x0c'
  | .scalar 'n' => some '\n'
  | .scalar 'r' => some '\r'
  | .scalar 't' => some '\t'
  | _ => none

/- The value of a hexadecimal digit of either case. -/
def hexValue?
    (p : Point) : Option Nat :=
  p.char?.bind Text.Percent.hexValue?

/- The value of four hexadecimal digits. -/
def hex4?
    (a b c d : Point) : Option Nat :=
  match hexValue? a, hexValue? b, hexValue? c, hexValue? d with
  | some w, some x, some y, some z =>
    some (((w * 16 + x) * 16 + y) * 16 + z)
  | _, _, _, _ => none

/- The code point of a surrogate pair. -/
def pairedPoint
    (high low : Nat) : Point :=
  .ofNat (0x10000 + (high - 0xD800) * 0x400 + (low - 0xDC00))

/- Puts a code point in front of a text that has been read. -/
def prepend
    {s t : List Point}
    (c : Point)
    (h : s.length ≤ t.length) :
    Except Stop (List Point × Rest s) →
      Except Stop (List Point × Rest t)
  | .error stop => .error stop
  | .ok (cs, r) => .ok (c :: cs, ⟨r.1, Nat.le_trans r.2 h⟩)

/-
  Reads a text up to its closing mark. The number given is how
  many code points are left at the opening mark. A long escape
  has to be followed by something, and an escaped pair of
  surrogates is one character; a half of one stands alone.
-/
def text
    (start : Nat) :
    (s : List Point) → Except Stop (List Point × Rest s)
  | [] => .error (.fault .unterminatedText start)
  | .scalar '"' :: rest => .ok ([], ⟨rest, Nat.le_succ _⟩)
  | .scalar '\\' :: [] => .error (.fault .unterminatedText start)
  | .scalar '\\' :: .scalar 'u' ::
      a :: b :: c :: d :: next :: rest =>
    match hex4? a b c d with
    | none =>
      .error (.fault .incompleteEscape (rest.length + 6))
    | some v =>
      match next, rest with
      | .scalar '\\',
          .scalar 'u' :: e :: f :: g :: h :: last :: rest =>
        if 0xD800 ≤ v ∧ v < 0xDC00 then
          match hex4? e f g h with
          | none =>
            .error (.fault .incompleteEscape (rest.length + 6))
          | some w =>
            if 0xDC00 ≤ w ∧ w < 0xE000 then
              prepend (pairedPoint v w) (Nat.le_add_right _ 12)
                (text start (last :: rest))
            else
              prepend (.ofNat v) (Nat.le_add_right _ 6)
                (text start
                  (.scalar '\\' :: .scalar 'u' ::
                    e :: f :: g :: h :: last :: rest))
        else
          prepend (.ofNat v) (Nat.le_add_right _ 6)
            (text start
              (.scalar '\\' :: .scalar 'u' ::
                e :: f :: g :: h :: last :: rest))
      | next, rest =>
        prepend (.ofNat v) (Nat.le_add_right _ 6)
          (text start (next :: rest))
  | .scalar '\\' :: .scalar 'u' :: rest =>
    .error (.fault .incompleteEscape (rest.length + 1))
  | .scalar '\\' :: c :: rest =>
    match plainEscape? c with
    | none => .error (.fault .unknownEscape (rest.length + 2))
    | some e =>
      prepend (.scalar e) (Nat.le_add_right _ 2) (text start rest)
  | c :: rest =>
    if c.value < 0x20 then
      .error (.fault .controlCharacter (rest.length + 1))
    else
      prepend c (Nat.le_succ _) (text start rest)
termination_by s => s.length
decreasing_by
  all_goals
    repeat first
      | exact Nat.lt_succ_self _
      | apply Nat.lt_succ_of_lt

------------------------------------------------------------
-- Numbers and words
------------------------------------------------------------

/- Whether a code point is a digit of ASCII. -/
def isDigit
    (p : Point) : Bool :=
  p.char?.any Char.isDigit

/- The value of a digit of ASCII. -/
def digitValue
    (p : Point) : Nat :=
  p.value - 0x30

/- The digits at the start of a text. -/
def digits
    (s : List Point) : List Nat :=
  (s.takeWhile isDigit).map digitValue

/- The digits of a whole part: a zero stands alone. -/
def wholePart
    (s : List Point) : List Nat :=
  match s with
  | .scalar '0' :: _ => [0]
  | _ => digits s

/- The digits after a point, and what follows them. -/
def fraction
    (s : List Point) : List Nat × Rest s :=
  match s with
  | .scalar '.' :: rest =>
    match digits rest with
    | [] => ([], ⟨.scalar '.' :: rest, Nat.le_refl _⟩)
    | found =>
      (found, Rest.drop (found.length + 1) (.scalar '.' :: rest))
  | s => ([], ⟨s, Nat.le_refl _⟩)

/- An exponent, and what follows it. -/
def exponent
    (s : List Point) : Option Int × Rest s :=
  match s with
  | c :: rest =>
    if c = .scalar 'e' ∨ c = .scalar 'E' then
      let sign := rest.takeWhile fun p =>
        p == .scalar '-' || p == .scalar '+'
      let signed := sign.length = 1
      let found := digits (if signed then rest.drop 1 else rest)
      if found.isEmpty then (none, ⟨c :: rest, Nat.le_refl _⟩)
      else
        let n : Int := Number.Integer.natural found
        (some (if sign = [.scalar '-'] then -n else n),
          Rest.drop (found.length + (if signed then 2 else 1))
            (c :: rest))
    else (none, ⟨c :: rest, Nat.le_refl _⟩)
  | [] => (none, ⟨[], Nat.le_refl _⟩)

/-
  Reads a number behind its sign. Without fraction and exponent
  it is an integer. There is none where no digit stands.
-/
def unsigned?
    (negative : Bool)
    (s : List Point) : Option (Except Stop Value × Shorter s) :=
  match h : wholePart s with
  | [] => none
  | d :: ds =>
    let whole := d :: ds
    let (places, afterPoint) := fraction (s.drop whole.length)
    let (power, rest) := exponent afterPoint.1
    let number :=
      if places.isEmpty ∧ power.isNone then
        if whole.length > Number.Integer.digitLimit then
          .error (.integer (.tooLong whole.length))
        else
          let n : Int := Number.Integer.natural whole
          .ok (.int (if negative then -n else n))
      else
        let all := whole ++ places
        .ok (.float (Number.Binary64.ofDecimal negative
          (Number.Integer.natural all) all.length
          (power.getD 0 - (places.length : Int))))
    some (number, ⟨rest.1, by
      have hRest := rest.2
      have hPoint := afterPoint.2
      have hNonempty : 0 < s.length := by
        cases s with
        | nil => simp [wholePart, digits] at h
        | cons c cs => simp
      simp only [List.length_drop] at hPoint
      have hWhole : 0 < whole.length := by simp [whole]
      omega⟩)

/- The words that are values of their own. -/
def words : List (String × Value) :=
  [("null", .null), ("true", .bool true), ("false", .bool false),
    ("NaN", .float .nan), ("Infinity", .float (.infinite false)),
    ("-Infinity", .float (.infinite true))]

/- Reads a word that is a value, of a text that is not empty. -/
def word?
    (c : Point)
    (s : List Point) : Option (Value × Shorter (c :: s)) :=
  words.findSome? fun (word, value) =>
    if (Wide.ofString word).points.isPrefixOf (c :: s) then
      some (value, ⟨s.drop (word.length - 1), by
        simp only [List.length_drop, List.length_cons]
        omega⟩)
    else none

/- Reads a word or a number. -/
def scalar
    (c : Point)
    (s : List Point) : Except Stop (Value × Shorter (c :: s)) :=
  match word? c s with
  | some found => .ok found
  | none =>
    let number :=
      if c = .scalar '-' then
        (unsigned? true s).map fun (n, rest) =>
          (n, ⟨rest.1, Nat.lt_succ_of_lt rest.2⟩)
      else unsigned? false (c :: s)
    match number with
    | none => .error (.fault .expectedValue (s.length + 1))
    | some (.error stop, _) => .error stop
    | some (.ok found, rest) => .ok (found, rest)

/- Reads the name of a member. -/
def name
    (s : List Point) : Except Stop (Wide × Shorter s) :=
  match s with
  | .scalar '"' :: rest =>
    match text (rest.length + 1) rest with
    | .error stop => .error stop
    | .ok (points, after) =>
      .ok (⟨points⟩,
        ⟨after.1, Nat.lt_succ_of_le after.2⟩)
  | s => .error (.fault .expectedName s.length)

------------------------------------------------------------
-- Values
------------------------------------------------------------

/- How many lists and objects may be nested in one another. -/
def greatestDepth : Nat := 980

mutual

/- Reads a value in which so many others may be nested. -/
def value
    (room : Nat)
    (s : List Point) : Except Stop (Value × Shorter s) :=
  match s with
  | [] => .error (.fault .expectedValue 0)
  | .scalar '"' :: rest =>
    match text (rest.length + 1) rest with
    | .error stop => .error stop
    | .ok (points, after) =>
      .ok (.text ⟨points⟩,
        ⟨after.1, Nat.lt_succ_of_le after.2⟩)
  | .scalar '[' :: rest =>
    if room = 0 then .error .tooDeep
    else
      match sign? ']' rest with
      | some after =>
        .ok (.list [], ⟨after.1, Nat.lt_succ_of_lt after.2⟩)
      | none =>
        have hRest := (skip isBlank rest).2
        match items (room - 1) (skip isBlank rest).1 with
        | .error stop => .error stop
        | .ok (found, after) =>
          .ok (.list found, ⟨after.1, by
            have := after.2
            simp only [List.length_cons]
            omega⟩)
  | .scalar '\x7b' :: rest =>
    if room = 0 then .error .tooDeep
    else
      match sign? '\x7d' rest with
      | some after =>
        .ok (.object [], ⟨after.1, Nat.lt_succ_of_lt after.2⟩)
      | none =>
        have hRest := (skip isBlank rest).2
        match pairs (room - 1) (skip isBlank rest).1 with
        | .error stop => .error stop
        | .ok (found, after) =>
          .ok (.object (Members.ofPairs found), ⟨after.1, by
            have := after.2
            simp only [List.length_cons]
            omega⟩)
  | c :: rest => scalar c rest
termination_by (s.length, 0)

/- Reads the items of a list, up to its closing bracket. -/
def items
    (room : Nat)
    (s : List Point) : Except Stop (List Value × Shorter s) :=
  match value room s with
  | .error stop => .error stop
  | .ok (first, afterFirst) =>
    have hFirst := afterFirst.2
    match sign? ']' afterFirst.1 with
    | some after =>
      .ok ([first], ⟨after.1, Nat.lt_trans after.2 hFirst⟩)
    | none =>
      match sign? ',' afterFirst.1 with
      | none =>
        .error (.fault .expectedComma (left afterFirst.1))
      | some comma =>
        have hComma := comma.2
        have hNext := (skip isBlank comma.1).2
        match items room (skip isBlank comma.1).1 with
        | .error stop => .error stop
        | .ok (others, after) =>
          .ok (first :: others, ⟨after.1, by
            have := after.2
            omega⟩)
termination_by (s.length, 1)

/- Reads the members of an object, up to its closing brace. -/
def pairs
    (room : Nat)
    (s : List Point) :
    Except Stop (List (Wide × Value) × Shorter s) :=
  match name s with
  | .error stop => .error stop
  | .ok (label, afterName) =>
    have hName := afterName.2
    match sign? ':' afterName.1 with
    | none =>
      .error (.fault .expectedColon (left afterName.1))
    | some colon =>
      have hColon := colon.2
      have hStart := (skip isBlank colon.1).2
      match value room (skip isBlank colon.1).1 with
      | .error stop => .error stop
      | .ok (first, afterFirst) =>
        have hFirst := afterFirst.2
        match sign? '\x7d' afterFirst.1 with
        | some after =>
          .ok ([(label, first)], ⟨after.1, by
            have := after.2
            omega⟩)
        | none =>
          match sign? ',' afterFirst.1 with
          | none =>
            .error (.fault .expectedComma (left afterFirst.1))
          | some comma =>
            have hComma := comma.2
            have hNext := (skip isBlank comma.1).2
            match pairs room (skip isBlank comma.1).1 with
            | .error stop => .error stop
            | .ok (others, after) =>
              .ok ((label, first) :: others, ⟨after.1, by
                have := after.2
                omega⟩)
termination_by (s.length, 1)

end

------------------------------------------------------------
-- Whole texts
------------------------------------------------------------

/- Reads a text that is a value with blanks around it. -/
def readAll
    (s : List Point) : Except Error Value :=
  let failed (stop : Stop) : Except Error Value :=
    .error (stop.error s)
  match value greatestDepth (skip isBlank s).1 with
  | .error stop => failed stop
  | .ok (found, rest) =>
    match (skip isBlank rest.1).1 with
    | [] => .ok found
    | extra => failed (.fault .extraData extra.length)

/-
  Reads a JSON text. A byte order mark is not part of a text
  that is given as such.
-/
def Value.read
    (s : Wide) : Except Error Value :=
  match s.points with
  | .scalar '\uFEFF' :: _ =>
    .error (.malformed .byteOrderMark 1 1 0)
  | points => readAll points

end LookingGlass.Json
