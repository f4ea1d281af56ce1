import LookingGlass.Proofs.Text.Percent
import LookingGlass.Proofs.Text.WellFormed
import LookingGlass.Proofs.Text.Wide

/-
  Quoted texts are read back: what stands between the marks
  tells which code points it was written for, and where it ends.
  A message that quotes a text is therefore about no other one.

  Main declarations:
    * `Quoted.readHex_hexDigits`
    * `Quoted.readPoint` and `Quoted.readPoint_escapePoint`
    * `quotedPoints_append_inj`
    * `Wide.quoted_append_inj` and `Wide.quoted_inj`
-/

namespace LookingGlass.Text

namespace Quoted

------------------------------------------------------------
-- Digits
------------------------------------------------------------

/- The number of hexadecimal digits of lower or upper case. -/
def readHex
    (digits : List Char) : Nat :=
  digits.foldl
    (fun n c => 16 * n + (Percent.hexValue? c).getD 0) 0

theorem length_hexDigits
    (width n : Nat) :
    (hexDigits width n).length = width := by
  induction width generalizing n with
  | zero => rfl
  | succ width ih => simp [hexDigits, ih]

theorem hexValue?_toLower_hexDigit
    {n : Nat}
    (hn : n < 16) :
    Percent.hexValue? (Percent.hexDigit n).toLower = some n := by
  have hAll :
      ∀ d : Fin 16,
        Percent.hexValue? (Percent.hexDigit d).toLower =
          some d.val := by
    decide
  exact hAll ⟨n, hn⟩

/- As many digits as a number needs are read as this number. -/
theorem readHex_hexDigits
    {width n : Nat}
    (hn : n < Nat.pow 16 width) :
    readHex (hexDigits width n) = n := by
  induction width generalizing n with
  | zero =>
      have hZero : n = 0 := Nat.lt_one_iff.mp hn
      rw [hZero]
      rfl
  | succ width ih =>
      have hRest : n / 16 < Nat.pow 16 width := by
        rw [Nat.div_lt_iff_lt_mul (by decide)]
        exact hn
      have hDigit :=
        hexValue?_toLower_hexDigit (Nat.mod_lt n (by decide : 16 > 0))
      have hValue := ih hRest
      unfold readHex at hValue ⊢
      rw [hexDigits, List.foldl_append, hValue, List.foldl_cons,
        List.foldl_nil, hDigit]
      exact Nat.div_add_mod n 16

------------------------------------------------------------
-- Code Points
------------------------------------------------------------

/- Whether a character is one of the two quotation marks. -/
def IsMark
    (c : Char) : Prop :=
  c = '\'' ∨ c = '"'

theorem isMark_mark
    (cs : List Char) :
    IsMark (mark cs) := by
  unfold mark
  split
  case isTrue => exact .inr rfl
  case isFalse => exact .inl rfl

/-
  The code point that a text between marks starts with, and what
  stands behind it.
-/
def readPoint :
    List Char → Nat × List Char
  | '\\' :: 'n' :: rest => ('\n'.toNat, rest)
  | '\\' :: 'r' :: rest => ('\r'.toNat, rest)
  | '\\' :: 't' :: rest => ('\t'.toNat, rest)
  | '\\' :: 'x' :: rest => (readHex (rest.take 2), rest.drop 2)
  | '\\' :: 'u' :: rest => (readHex (rest.take 4), rest.drop 4)
  | '\\' :: 'U' :: rest => (readHex (rest.take 8), rest.drop 8)
  | '\\' :: c :: rest => (c.toNat, rest)
  | c :: rest => (c.toNat, rest)
  | [] => (0, [])

/- A character that starts no escape stands for itself. -/
theorem readPoint_cons
    {c : Char}
    (hc : c ≠ '\\')
    (rest : List Char) :
    readPoint (c :: rest) = (c.toNat, rest) := by
  unfold readPoint
  split
  case h_8 hText => rw [(List.cons.inj hText).1, (List.cons.inj hText).2]
  case h_9 hText => cases hText
  all_goals
    rename_i hText
    exact absurd (List.cons.inj hText).1 hc

theorem readHex_take
    {width point : Nat}
    (hPoint : point < Nat.pow 16 width)
    (rest : List Char) :
    readHex ((hexDigits width point ++ rest).take width) = point := by
  rw [List.take_left' (length_hexDigits width point),
    readHex_hexDigits hPoint]

theorem drop_hexDigits
    (width point : Nat)
    (rest : List Char) :
    (hexDigits width point ++ rest).drop width = rest :=
  List.drop_left' (length_hexDigits width point)

theorem readPoint_escaped
    {point : Nat}
    (hPoint : point < 0x110000)
    (rest : List Char) :
    readPoint (escaped point ++ rest) = (point, rest) := by
  unfold escaped
  split
  case isTrue hByte =>
    simp only [List.cons_append, readPoint, drop_hexDigits]
    rw [readHex_take hByte]
  case isFalse =>
    split
    case isTrue hPlane =>
      simp only [List.cons_append, readPoint, drop_hexDigits]
      rw [readHex_take hPlane]
    case isFalse =>
      simp only [List.cons_append, readPoint, drop_hexDigits]
      rw [readHex_take (Nat.lt_of_lt_of_le hPoint (by decide))]

theorem toNat_lt
    (c : Char) :
    c.toNat < 0x110000 := by
  have hValid := Utf8.toNat_valid c
  omega

theorem readPoint_escapeChar
    {quote : Char}
    (hQuote : IsMark quote)
    (c : Char)
    (rest : List Char) :
    readPoint (escapeChar quote c ++ rest) = (c.toNat, rest) := by
  unfold escapeChar
  split
  case isTrue hEscaped =>
    rcases hEscaped with rfl | rfl
    · rcases hQuote with rfl | rfl <;> rfl
    · rfl
  case isFalse hOther =>
    split
    case isTrue hLine => rw [hLine]; rfl
    case isFalse =>
      split
      case isTrue hReturn => rw [hReturn]; rfl
      case isFalse =>
        split
        case isTrue hTab => rw [hTab]; rfl
        case isFalse =>
          split
          case isTrue =>
            exact readPoint_cons (fun hSlash => hOther (.inr hSlash)) rest
          case isFalse =>
            exact readPoint_escaped (toNat_lt c) rest

/- A code point is read back from the text between marks. -/
theorem readPoint_escapePoint
    {quote : Char}
    (hQuote : IsMark quote)
    {point : Nat}
    (hPoint : point < 0x110000)
    (rest : List Char) :
    readPoint (escapePoint quote point ++ rest) = (point, rest) := by
  unfold escapePoint
  split
  case isTrue hValid =>
    rw [readPoint_escapeChar hQuote, Utf8.toNat_ofNat hValid]
  case isFalse => exact readPoint_escaped hPoint rest

------------------------------------------------------------
-- Marks
------------------------------------------------------------

/- No code point is written with the closing mark in front. -/
theorem exists_escapePoint_eq_cons
    {quote : Char}
    (hQuote : IsMark quote)
    (point : Nat) :
    ∃ c rest, escapePoint quote point = c :: rest ∧ c ≠ quote := by
  have hSlash : '\\' ≠ quote := by
    rcases hQuote with rfl | rfl <;> decide
  have hEscaped :
      ∃ rest, escaped point = '\\' :: rest := by
    unfold escaped
    split
    case isTrue => exact ⟨_, rfl⟩
    case isFalse => split <;> exact ⟨_, rfl⟩
  unfold escapePoint
  split
  case isFalse =>
    rcases hEscaped with ⟨rest, hRest⟩
    exact ⟨_, rest, hRest, hSlash⟩
  case isTrue hValid =>
    rw [escapeChar, Utf8.toNat_ofNat hValid]
    split
    case isTrue => exact ⟨_, _, rfl, hSlash⟩
    case isFalse hOther =>
      split
      case isTrue => exact ⟨_, _, rfl, hSlash⟩
      case isFalse =>
        split
        case isTrue => exact ⟨_, _, rfl, hSlash⟩
        case isFalse =>
          split
          case isTrue => exact ⟨_, _, rfl, hSlash⟩
          case isFalse =>
            split
            case isTrue =>
              exact ⟨_, _, rfl, fun hSame => hOther (.inl hSame)⟩
            case isFalse =>
              rcases hEscaped with ⟨rest, hRest⟩
              exact ⟨_, rest, hRest, hSlash⟩

/- What stands between the marks ends at the closing one. -/
theorem flatMap_escapePoint_append_inj
    {quote : Char}
    (hQuote : IsMark quote)
    {points others : List Nat}
    (hPoints : ∀ point ∈ points, point < 0x110000)
    (hOthers : ∀ point ∈ others, point < 0x110000)
    {rest behind : List Char}
    (hSame :
      points.flatMap (escapePoint quote) ++ quote :: rest =
        others.flatMap (escapePoint quote) ++ quote :: behind) :
    points = others ∧ rest = behind := by
  induction points generalizing others with
  | nil =>
      cases others with
      | nil => exact ⟨rfl, (List.cons.inj hSame).2⟩
      | cons other others =>
          rcases exists_escapePoint_eq_cons hQuote other with
            ⟨c, more, hMore, hc⟩
          rw [List.flatMap_cons, hMore] at hSame
          exact absurd (List.cons.inj hSame).1.symm hc
  | cons point points ih =>
      rw [List.forall_mem_cons] at hPoints
      cases others with
      | nil =>
          rcases exists_escapePoint_eq_cons hQuote point with
            ⟨c, more, hMore, hc⟩
          rw [List.flatMap_cons, hMore] at hSame
          exact absurd (List.cons.inj hSame).1 hc
      | cons other others =>
          rw [List.forall_mem_cons] at hOthers
          have hRead := congrArg readPoint hSame
          rw [List.flatMap_cons, List.flatMap_cons,
            List.append_assoc, List.append_assoc,
            readPoint_escapePoint hQuote hPoints.1,
            readPoint_escapePoint hQuote hOthers.1] at hRead
          rcases Prod.mk.inj hRead with ⟨rfl, hRest⟩
          rcases ih hPoints.2 hOthers.2 hRest with ⟨rfl, hBehind⟩
          exact ⟨rfl, hBehind⟩

end Quoted

/-
  A quoted text tells which code points it is of, whatever
  stands behind it.
-/
theorem quotedPoints_append_inj
    {points others : List Nat}
    (hPoints : ∀ point ∈ points, point < 0x110000)
    (hOthers : ∀ point ∈ others, point < 0x110000)
    {rest behind : List Char}
    (hSame :
      (quotedPoints points).toList ++ rest =
        (quotedPoints others).toList ++ behind) :
    points = others ∧ rest = behind := by
  simp only [quotedPoints, String.toList_ofList, List.cons_append,
    List.append_assoc, List.nil_append, List.cons.injEq] at hSame
  rcases hSame with ⟨hMark, hRest⟩
  rw [hMark] at hRest
  exact Quoted.flatMap_escapePoint_append_inj
    (Quoted.isMark_mark _) hPoints hOthers hRest

namespace Wide

theorem lt_of_mem_values
    {w : Wide}
    {value : Nat}
    (hValue : value ∈ w.values) :
    value < 0x110000 := by
  rcases List.mem_map.mp hValue with ⟨p, _, rfl⟩
  cases p with
  | scalar c => exact Quoted.toNat_lt c
  | half n =>
      simp only [Point.value]
      omega

/- The same of texts, and of two in a row. -/
theorem quoted_append_inj
    {v w : Wide}
    {rest behind : List Char}
    (hSame :
      v.quoted.toList ++ rest = w.quoted.toList ++ behind) :
    v = w ∧ rest = behind := by
  rcases quotedPoints_append_inj (fun _ => lt_of_mem_values)
    (fun _ => lt_of_mem_values) hSame with ⟨hValues, hRest⟩
  exact ⟨values_injective hValues, hRest⟩

theorem quoted_inj
    {v w : Wide} :
    v.quoted = w.quoted ↔ v = w := by
  constructor
  · intro hSame
    have hLists : v.quoted.toList ++ [] = w.quoted.toList ++ [] := by
      rw [hSame]
    exact (quoted_append_inj hLists).1
  · intro hSame
    rw [hSame]

end Wide

end LookingGlass.Text
