import LookingGlass.Text.Cut

/-
  This file defines attributes, names with or without a value,
  and the two forms in which they are written.

  In the plain form a semicolon stands between attributes, and a
  value is all that is written behind the equals sign. In the
  listed form a value can stand in quotation marks, and commas
  separate several lists of attributes.

  Key definitions include:
    * `Attribute`
    * `Attribute.plain`
    * `Attribute.listed`
-/

namespace LookingGlass.Cookie

/- A name, and the value behind it if there is one. -/
structure Attribute where
  name : List Char
  value : Option (List Char)
deriving DecidableEq, Repr

namespace Attribute

/- The kind of an attribute: its name in lower case. -/
def kind
    (a : Attribute) : String :=
  String.ofList (a.name.map Char.toLower)

/- Whether a character is blank. -/
def isBlank
    (c : Char) : Bool :=
  let v := c.toNat
  (0x09 ≤ v && v ≤ 0x0D) || (0x1C ≤ v && v ≤ 0x20)

/- A text without the blanks in front. -/
def skipBlanks
    (cs : List Char) : List Char :=
  cs.dropWhile isBlank

/- Skipping blanks makes no text longer. -/
theorem length_skipBlanks_le
    (cs : List Char) :
    (skipBlanks cs).length ≤ cs.length :=
  (List.dropWhile_suffix isBlank).length_le

------------------------------------------------------------
-- The plain form
------------------------------------------------------------

/- A text without the blanks around it. -/
def trimmed
    (cs : List Char) : List Char :=
  (skipBlanks (skipBlanks cs).reverse).reverse

/- The attribute in a piece of a text. -/
def ofPiece
    (cs : List Char) : Attribute :=
  let parts := Text.cut '=' cs
  { name := trimmed parts.1, value := parts.2.map trimmed }

/-
  The attributes in a text in the plain form. Without a first
  name there are none; other pieces without a name are left
  out.
-/
def plain
    (text : String) : List Attribute :=
  match (Text.pieces ';' text.toList).map ofPiece with
  | [] => []
  | first :: rest =>
    if first.name.isEmpty then []
    else first :: rest.filter fun a => !a.name.isEmpty

------------------------------------------------------------
-- The listed form
------------------------------------------------------------

/- Whether a character can stand in a value without marks. -/
def isValueChar
    (c : Char) : Bool :=
  !isBlank c && c != ';' && c != ','

/- Whether a character can stand in a name. -/
def isNameChar
    (c : Char) : Bool :=
  isValueChar c && c != '='

/-
  A value up to the closing quotation mark, and the rest. A
  backslash stands in front of a character that is meant as it
  is; this cannot be a line feed.
-/
def quoted? :
    List Char → Option (List Char × List Char)
  | [] => none
  | '"' :: rest => some ([], rest)
  | ['\\'] | '\\' :: '\n' :: _ => none
  | '\\' :: c :: rest =>
    (quoted? rest).map fun (value, left) => (c :: value, left)
  | c :: rest =>
    (quoted? rest).map fun (value, left) => (c :: value, left)

/- What is left behind a value in marks is shorter. -/
theorem length_of_quoted
    {cs value left : List Char}
    (h : quoted? cs = some (value, left)) :
    left.length ≤ cs.length := by
  fun_induction quoted? cs generalizing value left with
  | case1 => simp at h
  | case2 rest => simp_all
  | case3 => simp at h
  | case4 => simp at h
  | case5 c rest _ ih =>
    obtain ⟨⟨v, l⟩, hInner, hWhole⟩ := Option.map_eq_some_iff.1 h
    have hLeft := ih hInner
    obtain ⟨_, rfl⟩ := Prod.mk.inj hWhole
    simp only [List.length_cons]
    omega
  | case6 c rest _ _ _ _ ih =>
    obtain ⟨⟨v, l⟩, hInner, hWhole⟩ := Option.map_eq_some_iff.1 h
    have hLeft := ih hInner
    obtain ⟨_, rfl⟩ := Prod.mk.inj hWhole
    simp only [List.length_cons]
    omega

/- A value without marks, and the rest. -/
def bareValue
    (cs : List Char) : List Char × List Char :=
  (cs.takeWhile isValueChar, cs.dropWhile isValueChar)

/- What is left behind a value without marks is not longer. -/
theorem length_bareValue_le
    (cs : List Char) :
    (bareValue cs).2.length ≤ cs.length :=
  (List.dropWhile_suffix isValueChar).length_le

/- A value in marks or without, and the rest. -/
def valueAt
    (cs : List Char) : List Char × List Char :=
  match cs with
  | '"' :: inside => (quoted? inside).getD (bareValue cs)
  | _ => bareValue cs

/- What is left behind a value is not longer. -/
theorem length_valueAt_le
    (cs : List Char) :
    (valueAt cs).2.length ≤ cs.length := by
  unfold valueAt
  split
  next inside =>
    cases h : quoted? inside with
    | none => exact length_bareValue_le _
    | some found =>
      have := length_of_quoted h
      simp only [Option.getD_some, List.length_cons]
      omega
  next => exact length_bareValue_le cs

/- The value behind an equals sign, if there is one. -/
def valueBehind
    (cs : List Char) : Option (List Char) × List Char :=
  match skipBlanks cs with
  | '=' :: rest =>
    let value := valueAt (skipBlanks rest)
    (some value.1, value.2)
  | _ => (none, cs)

/- What is left behind a sign and a value is not longer. -/
theorem length_valueBehind_le
    (cs : List Char) :
    (valueBehind cs).2.length ≤ cs.length := by
  have hSkip := length_skipBlanks_le cs
  unfold valueBehind
  split
  next rest hRest =>
    have hInner := length_skipBlanks_le rest
    have hValue := length_valueAt_le (skipBlanks rest)
    rw [hRest, List.length_cons] at hSkip
    simp only
    omega
  next => simp

/- The same lists with one more attribute in the first one. -/
def consFirst
    (a : Attribute) :
    List (List Attribute) → List (List Attribute)
  | [] => [[a]]
  | first :: others => (a :: first) :: others

/- What stands behind a name. -/
def behindName
    (cs : List Char) : List Char :=
  cs.dropWhile isNameChar

/- What stands behind a name is not longer. -/
theorem length_behindName_le
    (cs : List Char) :
    (behindName cs).length ≤ cs.length :=
  (List.dropWhile_suffix isNameChar).length_le

/- The lists in a text; some may be empty. -/
def lists
    (cs : List Char) : List (List Attribute) :=
  match h : skipBlanks cs with
  | [] => []
  | c :: rest =>
    have hRest : rest.length < cs.length := by
      have hSkip := length_skipBlanks_le cs
      rw [h, List.length_cons] at hSkip
      omega
    if c = ',' then [] :: lists rest
    else if isNameChar c then
      let value := valueBehind (behindName rest)
      have hValue : value.2.length < cs.length :=
        Nat.lt_of_le_of_lt
          (Nat.le_trans (length_valueBehind_le _)
            (length_behindName_le rest)) hRest
      consFirst
        { name := c :: rest.takeWhile isNameChar, value := value.1 }
        (lists value.2)
    else lists rest
termination_by cs.length

/- The lists of attributes in texts in the listed form. -/
def listed
    (texts : List String) : List (List Attribute) :=
  (texts.flatMap fun text => lists text.toList).filter
    fun list => !list.isEmpty

end Attribute

end LookingGlass.Cookie
