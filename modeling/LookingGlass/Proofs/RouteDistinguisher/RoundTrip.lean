import LookingGlass.Proofs.RouteDistinguisher.Notation

/-
  What becomes of a route distinguisher that is written and read
  again: it stays the same, however it was written at first.
  Only a zero of two bytes with the value zero turns into the
  default, for which its text stands.

  Main declarations:
    * `RouteDistinguisher.denotes_text`
    * `RouteDistinguisher.read_text_of_read`
    * `RouteDistinguisher.zero_is_read_as_default`
-/

namespace LookingGlass.RouteDistinguisher

open Network (Ipv4)
open Number.Integer (IsNumeral)

------------------------------------------------------------
-- Texts of Numbers
------------------------------------------------------------

/- The usual notation of all numbers of four bytes is short. -/
theorem isNumeral_of_le
    {n : Nat}
    (hn : n ≤ 4294967295) :
    IsNumeral (Nat.toDigits 10 n) n := by
  apply Number.Integer.isNumeral_toDigits
  have hLength : (Nat.toDigits 10 n).length ≤ 10 := by
    apply (Nat.length_toDigits_le_iff (by decide) (by decide)).mpr
    omega
  have hLimit : 10 ≤ Number.Integer.digitLimit := by decide
  exact Nat.le_trans hLength hLimit

theorem eq_zero_of_toDigits
    {n : Nat}
    (hDigits : Nat.toDigits 10 n = ['0']) :
    n = 0 := by
  have hValue := congrArg (Nat.ofDigitChars 10 · 0) hDigits
  rw [Nat.ofDigitChars_ten_toDigits] at hValue
  rw [hValue]
  rfl

theorem toList_text
    (rd : RouteDistinguisher) :
    rd.text.toList =
      rd.administrator.toList ++ ':' :: Nat.toDigits 10 rd.value := by
  simp [text, Nat.toList_repr]

------------------------------------------------------------
-- Writing
------------------------------------------------------------

/- What a text denotes is denoted by its own text, but for zero. -/
theorem denotes_text
    {cs : List Char}
    {rd : RouteDistinguisher}
    (hDenotes : Denotes cs rd)
    (hZero : rd ≠ .type0 0 0) :
    Denotes rd.text.toList rd := by
  rw [toList_text]
  cases hDenotes with
  | default => exact .default
  | @type0 a v asn n hOther hAsn hValue hAsnLe hValueLe =>
      have hAsnText := isNumeral_of_le (n := asn) (by omega)
      have hNotDefault :
          Nat.toDigits 10 asn ++ ':' :: Nat.toDigits 10 n ≠
            "0:0".toList := by
        intro hText
        have hParts :=
          parts_of_default (not_mem_of_isNumeral hAsnText) hText
        have hAsnZero := eq_zero_of_toDigits hParts.1
        have hValueZero := eq_zero_of_toDigits hParts.2
        subst hAsnZero hValueZero
        exact hZero rfl
      have hText :=
        Denotes.type0 hNotDefault hAsnText
          (isNumeral_of_le hValueLe) hAsnLe hValueLe
      simpa [administrator, value, Nat.toList_repr] using hText
  | @type2 a v asn n hAsn hValue hAsnGt hAsnLe hValueLe =>
      have hText :=
        Denotes.type2 (isNumeral_of_le hAsnLe)
          (isNumeral_of_le (n := n) (by omega)) hAsnGt hAsnLe
          hValueLe
      simpa [administrator, value, Nat.toList_repr] using hText
  | @type1 v n address hValue hValueLe =>
      exact .type1 address (isNumeral_of_le (n := n) (by omega))
        hValueLe

/-
  What is read is read again from its own text, with the same
  text, administrator and value. It is of the same type unless
  it is a zero of two bytes with the value zero; that is read
  again as the default.
-/
theorem read_text_of_read
    {s : String}
    {rd : RouteDistinguisher}
    (hRead : read s = .ok rd) :
    ∃ again, read rd.text = .ok again ∧
      again.text = rd.text ∧
      again.administrator = rd.administrator ∧
      again.value = rd.value ∧
      (again = rd ↔ rd ≠ .type0 0 0) ∧
      (rd = .type0 0 0 → again = .default) := by
  by_cases hZero : rd = .type0 0 0
  · subst hZero
    exact ⟨.default, rfl, rfl, rfl, rfl, by decide, fun _ => rfl⟩
  · have hText := denotes_text (denotes_of_read hRead) hZero
    refine ⟨rd, read_of_denotes hText, rfl, rfl, rfl, ?_, ?_⟩
    · exact ⟨fun _ => hZero, fun _ => rfl⟩
    · exact fun hEq => absurd hEq hZero

/- An address, with zeros in front of its value. -/
theorem read_text_of_read_address :
    read "10.0.0.1:007" = .ok (.type1 ⟨10, 0, 0, 1⟩ 7) ∧
      read "10.0.0.1:7" = .ok (.type1 ⟨10, 0, 0, 1⟩ 7) := by
  have hRead :
      read "10.0.0.1:007" = .ok (.type1 ⟨10, 0, 0, 1⟩ 7) := by
    decide +kernel
  obtain ⟨again, hAgain, _, _, _, hSame, _⟩ :=
    read_text_of_read hRead
  have hEq : again = .type1 ⟨10, 0, 0, 1⟩ 7 :=
    hSame.mpr (by decide)
  have hText :
      (type1 ⟨10, 0, 0, 1⟩ 7).text = "10.0.0.1:7" := by
    decide +kernel
  rw [hEq, hText] at hAgain
  exact ⟨hRead, hAgain⟩

/- Zeros that are written in another way are no default at first. -/
theorem zero_is_read_as_default :
    read "00:0" = .ok (.type0 0 0) ∧
      read (type0 0 0).text = .ok .default ∧
      RouteDistinguisher.default ≠ .type0 0 0 := by
  refine ⟨?_, rfl, by decide⟩
  decide +kernel

end LookingGlass.RouteDistinguisher
