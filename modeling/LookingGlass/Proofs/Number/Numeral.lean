import LookingGlass.Number.Integer
import Mathlib.Data.Nat.Digits.Defs

/-
  Numerals: texts of decimal digits of any script, and the
  numbers that they are written for. Texts of digits are read
  exactly if they are numerals. The usual decimal notation of
  a number is one of its numerals, and the only one of ASCII
  that has no zero in front.

  Main declarations:
    * `IsNumeral` and `IsNumeral.unique`
    * `readDigits_eq_ok_iff`
    * `isNumeral_toDigits`
    * `toDigits_ofDigitChars`
-/

namespace LookingGlass.Number.Integer

------------------------------------------------------------
-- Numerals
------------------------------------------------------------

/-
  Whether a text is a numeral of a number: one decimal digit or
  more, of any scripts, as many as are allowed, that have this
  number as their value to the base ten.
-/
structure IsNumeral
    (cs : List Char)
    (n : Nat) : Prop where
  ne_nil : cs ≠ []
  length_le : cs.length ≤ digitLimit
  exists_digits :
    ∃ digits : List Nat,
      cs.map Text.decimalValue? = digits.map some ∧
        Nat.ofDigits 10 digits.reverse = n

theorem natural_eq_ofDigits
    (digits : List Nat) :
    natural digits = Nat.ofDigits 10 digits.reverse := by
  have hStep :
      (fun n d : Nat => 10 * n + d) = fun n d => d + 10 * n := by
    funext n d
    exact Nat.add_comm _ _
  rw [natural, Nat.ofDigits_eq_foldr, List.foldr_reverse, hStep]
  simp only [Nat.cast_id]

/- A numeral is written for one number only. -/
theorem IsNumeral.unique
    {cs : List Char}
    {m n : Nat}
    (hLeft : IsNumeral cs m)
    (hRight : IsNumeral cs n) :
    m = n := by
  rcases hLeft.exists_digits with ⟨digits, hDigits, rfl⟩
  rcases hRight.exists_digits with ⟨others, hOthers, rfl⟩
  have hSame : digits.map some = others.map some :=
    hDigits.symm.trans hOthers
  rw [List.map_inj_right fun _ _ hd => Option.some.inj hd] at hSame
  rw [hSame]

/- All that stands in a numeral is a digit. -/
theorem IsNumeral.isSome_of_mem
    {cs : List Char}
    {n : Nat}
    (hNumeral : IsNumeral cs n)
    {c : Char}
    (hc : c ∈ cs) :
    (Text.decimalValue? c).isSome = true := by
  rcases hNumeral.exists_digits with ⟨digits, hDigits, _⟩
  have hMem : Text.decimalValue? c ∈ digits.map some := by
    rw [← hDigits]
    exact List.mem_map_of_mem hc
  rcases List.mem_map.mp hMem with ⟨d, _, hd⟩
  rw [← hd]
  rfl

------------------------------------------------------------
-- Reading
------------------------------------------------------------

theorem leadingDigits_cons
    (c : Char)
    (cs : List Char) :
    leadingDigits (c :: cs) =
      match Text.decimalValue? c with
      | some d => d :: leadingDigits cs
      | none => [] := by
  unfold leadingDigits
  cases hDigit : Text.decimalValue? c with
  | none => simp [hDigit]
  | some d => simp [hDigit]

/- The digits that a text starts with are all digits of a numeral. -/
theorem leadingDigits_of_map
    {cs : List Char}
    {digits : List Nat}
    (hDigits : cs.map Text.decimalValue? = digits.map some) :
    leadingDigits cs = digits := by
  induction cs generalizing digits with
  | nil =>
      have hNone : digits = [] := by simpa using hDigits.symm
      rw [hNone]
      rfl
  | cons c cs ih =>
      cases digits with
      | nil => cases hDigits
      | cons d digits =>
          simp only [List.map_cons, List.cons.injEq] at hDigits
          rw [leadingDigits_cons, hDigits.1, ih hDigits.2]

theorem map_of_length_le
    {cs : List Char}
    (hLength : cs.length ≤ (leadingDigits cs).length) :
    cs.map Text.decimalValue? = (leadingDigits cs).map some := by
  induction cs with
  | nil => rfl
  | cons c cs ih =>
      rw [leadingDigits_cons] at hLength ⊢
      cases hDigit : Text.decimalValue? c with
      | none => simp [hDigit] at hLength
      | some d =>
          simp only [hDigit, List.length_cons,
            Nat.add_le_add_iff_right] at hLength
          simp only [List.map_cons, hDigit, ih hLength]

/- A text of digits is read as the number that it is written for. -/
theorem readDigits_eq_ok_iff
    {cs : List Char}
    {n : Nat} :
    readDigits cs = .ok n ↔ IsNumeral cs n := by
  simp only [readDigits]
  constructor
  · intro hRead
    split at hRead
    case isTrue => cases hRead
    case isFalse hLimit =>
      split at hRead
      case isTrue => cases hRead
      case isFalse hWhole =>
        simp only [not_or, Nat.not_lt] at hWhole
        rcases hWhole with ⟨hLength, hSome⟩
        refine ⟨hSome, by omega, leadingDigits cs,
          map_of_length_le hLength, ?_⟩
        rw [← natural_eq_ofDigits]
        exact Except.ok.inj hRead
  · rintro ⟨hSome, hLength, digits, hDigits, rfl⟩
    have hCount : digits.length = cs.length := by
      simpa using (congrArg List.length hDigits).symm
    have hLimit : ¬ digits.length > digitLimit := by omega
    have hWhole : ¬ (digits.length < cs.length ∨ cs = []) := by
      rintro (hLess | hNone)
      · omega
      · exact hSome hNone
    simp only [leadingDigits_of_map hDigits]
    rw [if_neg hLimit, if_neg hWhole, natural_eq_ofDigits]

------------------------------------------------------------
-- Usual Digits
------------------------------------------------------------

theorem toNat_of_isDigit
    {c : Char}
    (hc : c.isDigit = true) :
    0x30 ≤ c.toNat ∧ c.toNat < 0x3A := by
  simp only [Char.isDigit, Bool.and_eq_true, decide_eq_true_eq]
    at hc
  have hLow := UInt32.le_iff_toNat_le.mp hc.1
  have hHigh := UInt32.le_iff_toNat_le.mp hc.2
  constructor
  · exact hLow
  · exact Nat.lt_succ_of_le hHigh

theorem decimalValue?_of_isDigit
    {c : Char}
    (hc : c.isDigit = true) :
    Text.decimalValue? c = some (c.toNat - 0x30) := by
  have hRange := toNat_of_isDigit hc
  rw [Text.decimalValue?, Text.decimalZeros, List.findSome?_cons,
    if_pos hRange]

/- Digits of ASCII are a numeral, with zeros in front or not. -/
theorem isNumeral_of_isDigit
    {cs : List Char}
    (hSome : cs ≠ [])
    (hLength : cs.length ≤ digitLimit)
    (hDigits : ∀ c ∈ cs, c.isDigit = true) :
    IsNumeral cs (Nat.ofDigitChars 10 cs 0) := by
  refine ⟨hSome, hLength, cs.map fun c => c.toNat - 0x30, ?_, ?_⟩
  · rw [List.map_map]
    apply List.map_congr_left
    intro c hc
    exact decimalValue?_of_isDigit (hDigits c hc)
  · rw [← natural_eq_ofDigits, natural, List.foldl_map,
      Nat.ofDigitChars_eq_foldl]
    rfl

/- The usual notation of a number is a numeral of this number. -/
theorem isNumeral_toDigits
    {n : Nat}
    (hLength : (Nat.toDigits 10 n).length ≤ digitLimit) :
    IsNumeral (Nat.toDigits 10 n) n := by
  have hDigits :
      ∀ c ∈ Nat.toDigits 10 n, c.isDigit = true := by
    intro c hc
    exact Nat.isDigit_of_mem_toDigits (by decide) (by decide) hc
  have hNumeral :=
    isNumeral_of_isDigit Nat.toDigits_ne_nil hLength hDigits
  rwa [Nat.ofDigitChars_ten_toDigits] at hNumeral

theorem digitChar_of_isDigit
    {c : Char}
    (hc : c.isDigit = true) :
    Nat.digitChar (c.toNat - 0x30) = c := by
  have hRange := toNat_of_isDigit hc
  apply Char.toNat_inj.mp
  rw [Nat.toNat_digitChar_of_lt_ten (by omega)]
  omega

/-
  More digits behind the notation of a number give the notation
  of another one. The number so far is not zero, for a zero
  would not be written in front.
-/
theorem toDigits_append
    {cs : List Char}
    (hDigits : ∀ c ∈ cs, c.isDigit = true)
    {n : Nat}
    (hn : 0 < n) :
    Nat.toDigits 10 n ++ cs =
      Nat.toDigits 10 (Nat.ofDigitChars 10 cs n) := by
  induction cs generalizing n with
  | nil => simp
  | cons c cs ih =>
      simp only [List.forall_mem_cons] at hDigits
      have hRange := toNat_of_isDigit hDigits.1
      have hDigit : c.toNat - 0x30 < 10 := by omega
      have hNext :
          Nat.toDigits 10 n ++ [c] =
            Nat.toDigits 10 (10 * n + (c.toNat - 0x30)) := by
        rw [← Nat.toDigits_append_toDigits (by decide) hn hDigit,
          Nat.toDigits_of_lt_base hDigit,
          digitChar_of_isDigit hDigits.1]
      calc
        Nat.toDigits 10 n ++ c :: cs
          = (Nat.toDigits 10 n ++ [c]) ++ cs := by simp
        _ = Nat.toDigits 10 (10 * n + (c.toNat - 0x30)) ++ cs := by
            rw [hNext]
        _ = Nat.toDigits 10 (Nat.ofDigitChars 10 (c :: cs) n) := by
            rw [ih hDigits.2 (by omega), Nat.ofDigitChars_cons]
            rfl

/- Digits without a needless zero are the usual notation. -/
theorem toDigits_ofDigitChars
    {cs : List Char}
    (hSome : cs ≠ [])
    (hDigits : ∀ c ∈ cs, c.isDigit = true)
    (hZero : cs.head? = some '0' → cs.length = 1) :
    Nat.toDigits 10 (Nat.ofDigitChars 10 cs 0) = cs := by
  cases cs with
  | nil => exact absurd rfl hSome
  | cons c cs =>
      simp only [List.forall_mem_cons] at hDigits
      have hRange := toNat_of_isDigit hDigits.1
      have hFirst :
          Nat.ofDigitChars 10 (c :: cs) 0 =
            Nat.ofDigitChars 10 cs (c.toNat - 0x30) := by
        rw [Nat.ofDigitChars_cons]
        simp
      rw [hFirst]
      by_cases hc : c = '0'
      · have hOne := hZero (by rw [hc]; rfl)
        have hNone : cs = [] := by simpa using hOne
        rw [hc, hNone]
        rfl
      · have hPositive : 0 < c.toNat - 0x30 := by
          have hNe : c.toNat ≠ '0'.toNat :=
            fun hEq => hc (Char.toNat_inj.mp hEq)
          have hValue : '0'.toNat = 0x30 := rfl
          omega
        rw [← toDigits_append hDigits.2 hPositive,
          Nat.toDigits_of_lt_base (by omega),
          digitChar_of_isDigit hDigits.1]
        rfl

/- The notation of a number has no zero in front. -/
theorem head?_toDigits_ne
    {n : Nat}
    (hn : 0 < n) :
    (Nat.toDigits 10 n).head? ≠ some '0' := by
  induction n using Nat.strong_induction_on with
  | h n ih =>
      rw [Nat.toDigits_eq_if (by decide)]
      split
      case isTrue hSmall =>
        intro hHead
        have hChar := Option.some.inj hHead
        have hDigit := Nat.toNat_digitChar_of_lt_ten hSmall
        rw [hChar] at hDigit
        have hValue : '0'.toNat = 48 := rfl
        omega
      case isFalse hLarge =>
        have hFront := ih (n / 10) (by omega) (by omega)
        rcases List.exists_cons_of_ne_nil
            (Nat.toDigits_ne_nil (n := n / 10) (b := 10)) with
          ⟨c, cs, hDigits⟩
        rw [hDigits] at hFront ⊢
        exact hFront

end LookingGlass.Number.Integer
