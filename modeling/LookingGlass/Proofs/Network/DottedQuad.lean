import LookingGlass.Network.Address
import LookingGlass.Proofs.Number.Numeral
import LookingGlass.Proofs.Text.Cut

/-
  Dotted quads: reading accepts exactly the texts that addresses
  are written as, so every address has one text only.

  Main declarations:
    * `Ipv4.readPart_eq_some_iff`
    * `Ipv4.toList_text`
    * `Ipv4.read_eq_some_iff`
-/

namespace LookingGlass.Network.Ipv4

open LookingGlass.Number.Integer
open LookingGlass.Text (pieces)

------------------------------------------------------------
-- Parts
------------------------------------------------------------

theorem not_mem_toDigits
    {c : Char}
    (hc : c.isDigit = false)
    (n : Nat) :
    c ∉ Nat.toDigits 10 n := by
  intro hMem
  have hDigit :=
    Nat.isDigit_of_mem_toDigits (by decide) (by decide) hMem
  rw [hc] at hDigit
  cases hDigit

theorem length_toDigits_le
    (n : Fin 256) :
    (Nat.toDigits 10 n.val).length ≤ 3 := by
  apply (Nat.length_toDigits_le_iff (by decide) (by decide)).mpr
  have hn := n.isLt
  omega

/- A number of several digits has no zero in front. -/
theorem length_toDigits_of_head?
    {n : Nat}
    (hZero : (Nat.toDigits 10 n).head? = some '0') :
    (Nat.toDigits 10 n).length = 1 := by
  rcases Nat.eq_zero_or_pos n with rfl | hn
  · rfl
  · exact absurd hZero (head?_toDigits_ne hn)

/- A part is read exactly if it is the notation of a byte. -/
theorem readPart_eq_some_iff
    {cs : List Char}
    {n : Fin 256} :
    readPart cs = some n ↔ cs = Nat.toDigits 10 n.val := by
  unfold readPart
  constructor
  · intro hRead
    split at hRead
    case isTrue => cases hRead
    case isFalse hShape =>
      simp only [Bool.or_eq_true, not_or, Bool.and_eq_true,
        List.isEmpty_iff, Bool.not_eq_true', Bool.not_eq_false,
        List.all_eq_true, decide_eq_true_eq, beq_iff_eq,
        not_and'] at hShape
      rcases hShape with ⟨⟨⟨hSome, hDigits⟩, _⟩, hZero⟩
      dsimp only at hRead
      split at hRead
      case isFalse => cases hRead
      case isTrue hByte =>
        rw [← Option.some.inj hRead]
        symm
        apply toDigits_ofDigitChars hSome hDigits
        intro hHead
        have hShort := hZero hHead
        have hLength := List.length_pos_iff.mpr hSome
        omega
  · rintro rfl
    split
    case isTrue hShape =>
      exfalso
      simp only [Bool.or_eq_true, Bool.and_eq_true,
        List.isEmpty_iff, Bool.not_eq_true', List.all_eq_false,
        decide_eq_true_eq, beq_iff_eq] at hShape
      rcases hShape with ((hNone | ⟨c, hc, hOther⟩) | hLong) |
        ⟨hSeveral, hZero⟩
      · exact Nat.toDigits_ne_nil hNone
      · exact hOther
          (Nat.isDigit_of_mem_toDigits (by decide) (by decide) hc)
      · exact absurd (length_toDigits_le n) (by omega)
      · exact absurd (length_toDigits_of_head? hZero) (by omega)
    case isFalse =>
      have hValue :
          (Nat.toDigits 10 n.val).foldl
              (fun m c => 10 * m + (c.toNat - 0x30)) 0 = n.val :=
        Nat.ofDigitChars_ten_toDigits
      simp only [hValue, n.isLt, dite_true]

------------------------------------------------------------
-- Addresses
------------------------------------------------------------

/- The four parts of an address, as they are written. -/
def parts
    (address : Ipv4) : List (List Char) :=
  [Nat.toDigits 10 address.a, Nat.toDigits 10 address.b,
    Nat.toDigits 10 address.c, Nat.toDigits 10 address.d]

theorem exists_of_mem_parts
    {address : Ipv4}
    {part : List Char}
    (hPart : part ∈ address.parts) :
    ∃ n : Fin 256, part = Nat.toDigits 10 n := by
  simp only [parts, List.mem_cons, List.not_mem_nil, or_false]
    at hPart
  rcases hPart with rfl | rfl | rfl | rfl
  · exact ⟨address.a, rfl⟩
  · exact ⟨address.b, rfl⟩
  · exact ⟨address.c, rfl⟩
  · exact ⟨address.d, rfl⟩

theorem toList_text
    (address : Ipv4) :
    address.text.toList = ['.'].intercalate address.parts := by
  have hDot : (toString ".").toList = ['.'] := rfl
  simp [text, parts, List.intercalate, Nat.toList_repr, hDot]

theorem pieces_text
    (address : Ipv4) :
    pieces '.' address.text.toList = address.parts := by
  rw [toList_text]
  apply Text.pieces_intercalate
  · simp [parts]
  · intro part hPart
    obtain ⟨n, rfl⟩ := exists_of_mem_parts hPart
    exact not_mem_toDigits (by decide) n

/- A text is read exactly if an address is written as it. -/
theorem read_eq_some_iff
    {cs : List Char}
    {address : Ipv4} :
    read cs = some address ↔ cs = address.text.toList := by
  constructor
  · intro hRead
    unfold read at hRead
    split at hRead
    case h_2 => cases hRead
    case h_1 p q r s hPieces =>
      split at hRead
      case h_2 => cases hRead
      case h_1 a b c d hp hq hr hs =>
        cases hRead
        rw [readPart_eq_some_iff] at hp hq hr hs
        rw [toList_text, parts, ← hp, ← hq, ← hr, ← hs, ← hPieces]
        exact (Text.intercalate_pieces '.' cs).symm
  · rintro rfl
    have hPart (n : Fin 256) :
        readPart (Nat.toDigits 10 n.val) = some n :=
      readPart_eq_some_iff.mpr rfl
    rw [read, pieces_text, parts]
    simp only [hPart]

end LookingGlass.Network.Ipv4
