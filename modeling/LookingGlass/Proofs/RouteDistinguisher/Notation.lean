import LookingGlass.Proofs.Network.DottedQuad
import LookingGlass.Proofs.Outcome
import LookingGlass.Proofs.RouteDistinguisher.Fault

/-
  The notation of route distinguishers as a relation between
  texts and what they denote. A text is read exactly if it
  denotes something, and then as what it denotes; the ranges of
  the numbers decide on the type.

  Main declarations:
    * `RouteDistinguisher.Denotes`
    * `RouteDistinguisher.fits`
    * `RouteDistinguisher.read_eq_ok_iff`
    * `RouteDistinguisher.reads_its_notation`
-/

namespace LookingGlass.RouteDistinguisher

open Network (Ipv4)
open Number.Integer (IsNumeral)

------------------------------------------------------------
-- Texts
------------------------------------------------------------

/-
  What a text denotes: the default instance under its one name,
  or else an administrator and a value with a colon in between.
  A number of two bytes leaves four to the value, a greater
  number and an address leave it two.
-/
inductive Denotes :
    List Char → RouteDistinguisher → Prop
  | default :
      Denotes "0:0".toList .default
  | type0
      {a v : List Char}
      {asn value : Nat}
      (hOther : a ++ ':' :: v ≠ "0:0".toList)
      (hAsn : IsNumeral a asn)
      (hValue : IsNumeral v value)
      (hAsnLe : asn ≤ 65535)
      (hValueLe : value ≤ 4294967295) :
      Denotes (a ++ ':' :: v)
        (.type0 ⟨asn, by omega⟩ ⟨value, by omega⟩)
  | type2
      {a v : List Char}
      {asn value : Nat}
      (hAsn : IsNumeral a asn)
      (hValue : IsNumeral v value)
      (hAsnGt : 65535 < asn)
      (hAsnLe : asn ≤ 4294967295)
      (hValueLe : value ≤ 65535) :
      Denotes (a ++ ':' :: v)
        (.type2 ⟨asn, by omega⟩ ⟨value, by omega⟩)
  | type1
      {v : List Char}
      {value : Nat}
      (address : Ipv4)
      (hValue : IsNumeral v value)
      (hValueLe : value ≤ 65535) :
      Denotes (address.text.toList ++ ':' :: v)
        (.type1 address ⟨value, by omega⟩)

------------------------------------------------------------
-- Fields
------------------------------------------------------------

/- The administrator as a number. -/
def administratorNumber :
    RouteDistinguisher → Nat
  | .default => 0
  | .type0 asn _ => asn.val
  | .type1 address _ => address.value
  | .type2 asn _ => asn.val

/- The sizes of administrator and value, in bytes. -/
def fieldSizes :
    RouteDistinguisher → Nat × Nat
  | .default => (2, 4)
  | .type0 _ _ => (2, 4)
  | .type1 _ _ => (4, 2)
  | .type2 _ _ => (4, 2)

theorem value_lt_of_address
    (address : Ipv4) :
    address.value < 256 ^ 4 := by
  have ha := address.a.isLt
  have hb := address.b.isLt
  have hc := address.c.isLt
  have hd := address.d.isLt
  unfold Ipv4.value
  omega

/- Both fields are large enough for what they hold. -/
theorem fits
    (rd : RouteDistinguisher) :
    rd.administratorNumber < 256 ^ rd.fieldSizes.1 ∧
      rd.value < 256 ^ rd.fieldSizes.2 := by
  cases rd with
  | default => decide
  | type0 asn value => exact ⟨asn.isLt, value.isLt⟩
  | type1 address value =>
      exact ⟨value_lt_of_address address, value.isLt⟩
  | type2 asn value => exact ⟨asn.isLt, value.isLt⟩

------------------------------------------------------------
-- Numbers
------------------------------------------------------------

theorem number_eq_ok_iff
    {cs : List Char}
    {n : Nat} :
    number cs = .ok n ↔ IsNumeral cs n := by
  rw [number, mapError_eq_ok_iff, Number.Integer.readDigits_eq_ok_iff]

theorem isDigits_of_isNumeral
    {cs : List Char}
    {n : Nat}
    (hNumeral : IsNumeral cs n) :
    isDigits cs = true := by
  simp only [isDigits, Bool.and_eq_true, Bool.not_eq_true',
    List.isEmpty_eq_false_iff, List.all_eq_true]
  refine ⟨hNumeral.ne_nil, ?_⟩
  intro c hc
  simp only [Text.isDigit, hNumeral.isSome_of_mem hc, Bool.true_or]

theorem not_mem_of_isNumeral
    {cs : List Char}
    {n : Nat}
    (hNumeral : IsNumeral cs n) :
    ':' ∉ cs := by
  intro hMem
  exact absurd (hNumeral.isSome_of_mem hMem) (by decide)

theorem ofNumber_eq_ok_iff
    {asn value : Nat}
    {rd : RouteDistinguisher} :
    ofNumber asn value = .ok rd ↔
      (∃ hAsn : asn < 65536, ∃ hValue : value < 4294967296,
        rd = .type0 ⟨asn, hAsn⟩ ⟨value, hValue⟩) ∨
      (65535 < asn ∧
        ∃ hAsn : asn < 4294967296, ∃ hValue : value < 65536,
          rd = .type2 ⟨asn, hAsn⟩ ⟨value, hValue⟩) := by
  unfold ofNumber
  split
  case isTrue hSmall =>
    have hNotLarge : ¬ 65535 < asn := by omega
    split
    case isTrue hValue =>
      simp [hSmall, hValue, hNotLarge, eq_comm]
    case isFalse hValue => simp [hValue, hNotLarge]
  case isFalse hLarge =>
    have hGreater : 65535 < asn := by omega
    split
    case isTrue hAsn =>
      split
      case isTrue hValue =>
        simp [hLarge, hGreater, hAsn, hValue, eq_comm]
      case isFalse hValue => simp [hLarge, hValue]
    case isFalse hAsn => simp [hLarge, hAsn]

------------------------------------------------------------
-- Addresses
------------------------------------------------------------

theorem not_mem_text
    {c : Char}
    (hDigit : c.isDigit = false)
    (hDot : c ≠ '.')
    (address : Ipv4) :
    c ∉ address.text.toList := by
  rw [Ipv4.toList_text]
  intro hMem
  rcases Text.mem_intercalate hMem with hc | ⟨part, hPart, hc⟩
  · exact hDot hc
  · obtain ⟨n, rfl⟩ := Ipv4.exists_of_mem_parts hPart
    exact Ipv4.not_mem_toDigits hDigit n hc

/- The points of an address are no digits. -/
theorem not_isDigits_text
    (address : Ipv4) :
    isDigits address.text.toList = false := by
  have hDot : '.' ∈ address.text.toList := by
    rw [Ipv4.toList_text]
    simp [Ipv4.parts, List.intercalate]
  rw [Bool.eq_false_iff]
  intro hDigits
  simp only [isDigits, Bool.and_eq_true, List.all_eq_true] at hDigits
  exact absurd (hDigits.2 '.' hDot) (by decide)

theorem not_hasLeadingZero_text
    (address : Ipv4) :
    hasLeadingZero address.text.toList = false := by
  rw [hasLeadingZero, Ipv4.pieces_text, List.any_eq_false]
  intro part hPart hZero
  simp only [Bool.and_eq_true, beq_iff_eq, decide_eq_true_eq]
    at hZero
  obtain ⟨n, rfl⟩ := Ipv4.exists_of_mem_parts hPart
  have hOne := Ipv4.length_toDigits_of_head? hZero.1
  omega

theorem passesForAddress_text
    (address : Ipv4) :
    passesForAddress address.text.toList = .ok true := by
  have hNul : ¬ address.text.toList.contains '\x00' = true := by
    rw [List.contains_iff_mem]
    exact not_mem_text (by decide) (by decide) address
  rw [passesForAddress, not_hasLeadingZero_text,
    if_neg Bool.false_ne_true, if_neg hNul,
    Ipv4.read_eq_some_iff.mpr rfl]
  rfl

theorem ofAddress_eq_ok_iff
    {cs : List Char}
    {value : Nat}
    {rd : RouteDistinguisher} :
    ofAddress cs value = .ok rd ↔
      ∃ address, ∃ hValue : value < 65536,
        cs = address.text.toList ∧
          rd = .type1 address ⟨value, hValue⟩ := by
  rw [ofAddress, bind_eq_ok_iff]
  constructor
  · rintro ⟨passes, hPasses, hRead⟩
    split at hRead
    case isFalse => cases hRead
    case isTrue hType =>
      rcases hType with ⟨rfl, hValue⟩
      rcases addressOf_of_passes hPasses with
        ⟨address, hAddress, hFound⟩
      rw [hFound] at hRead
      exact ⟨address, hValue, Ipv4.read_eq_some_iff.mp hAddress,
        (Except.ok.inj hRead).symm⟩
  · rintro ⟨address, hValue, rfl, rfl⟩
    refine ⟨true, passesForAddress_text address, ?_⟩
    have hFound : addressOf address.text.toList = .ok address := by
      rw [addressOf, Ipv4.read_eq_some_iff.mpr rfl]
    rw [dif_pos ⟨rfl, hValue⟩, hFound]
    rfl

------------------------------------------------------------
-- Reading
------------------------------------------------------------

/- Reading in parts, for all texts but that of the default. -/
theorem read_of_parts
    {s : String}
    {a v : List Char}
    (hOther : a ++ ':' :: v ≠ "0:0".toList)
    (ha : ':' ∉ a)
    (hs : s.toList = a ++ ':' :: v)
    {rd : RouteDistinguisher} :
    read s = .ok rd ↔
      ∃ value, IsNumeral v value ∧ value < 4294967296 ∧
        if isDigits a = true then
          ∃ asn, IsNumeral a asn ∧ ofNumber asn value = .ok rd
        else ofAddress a value = .ok rd := by
  have hNotDefault : s ≠ "0:0" := by
    rintro rfl
    exact hOther hs.symm
  rw [read, if_neg hNotDefault, hs, Text.cut_append ha]
  dsimp only
  cases hDigits : isDigits v with
  | false =>
      constructor
      · intro hRead
        cases hRead
      · rintro ⟨value, hValue, _⟩
        rw [isDigits_of_isNumeral hValue] at hDigits
        cases hDigits
  | true =>
      rw [Bool.not_true, if_neg Bool.false_ne_true, bind_eq_ok_iff]
      apply exists_congr
      intro value
      rw [number_eq_ok_iff]
      apply and_congr_right
      intro _
      by_cases hRange : value < 4294967296
      · rw [if_neg (by omega)]
        split
        · simp only [bind_eq_ok_iff, number_eq_ok_iff, hRange,
            true_and]
        · simp only [hRange, true_and]
      · rw [if_pos (by omega)]
        simp [hRange]

theorem denotes_of_read
    {s : String}
    {rd : RouteDistinguisher}
    (hRead : read s = .ok rd) :
    Denotes s.toList rd := by
  by_cases hDefault : s = "0:0"
  · subst hDefault
    cases hRead
    exact .default
  · rcases Text.cut_cases ':' s.toList with
      ⟨_, hCut⟩ | ⟨a, v, ha, hs, _⟩
    · rw [read, if_neg hDefault, hCut] at hRead
      cases hRead
    · have hOther : a ++ ':' :: v ≠ "0:0".toList := by
        intro hSame
        exact hDefault (String.toList_inj.mp (hs.trans hSame))
      rw [read_of_parts hOther ha hs] at hRead
      rcases hRead with ⟨value, hValue, _, hRest⟩
      rw [hs]
      split at hRest
      case isTrue =>
        rcases hRest with ⟨asn, hAsn, hNumber⟩
        rcases ofNumber_eq_ok_iff.mp hNumber with
          ⟨hAsnLt, hValueLt, rfl⟩ | ⟨hAsnGt, hAsnLt, hValueLt, rfl⟩
        · exact .type0 hOther hAsn hValue (by omega) (by omega)
        · exact .type2 hAsn hValue hAsnGt (by omega) (by omega)
      case isFalse =>
        rcases ofAddress_eq_ok_iff.mp hRest with
          ⟨address, hValueLt, rfl, rfl⟩
        exact .type1 address hValue (by omega)

/- The text of the default takes apart in one way. -/
theorem parts_of_default
    {a v : List Char}
    (ha : ':' ∉ a)
    (hText : a ++ ':' :: v = "0:0".toList) :
    a = ['0'] ∧ v = ['0'] := by
  have hCut := congrArg (Text.cut ':') hText
  rw [Text.cut_append ha] at hCut
  have hDefault :
      Text.cut ':' "0:0".toList = (['0'], some ['0']) := by
    decide
  rw [hDefault] at hCut
  simpa using hCut

theorem isNumeral_zero :
    IsNumeral ['0'] 0 :=
  Number.Integer.isNumeral_toDigits (n := 0) (by decide)

theorem not_default_of_address
    (address : Ipv4)
    (v : List Char) :
    address.text.toList ++ ':' :: v ≠ "0:0".toList := by
  intro hText
  have hColon := not_mem_text (c := ':') (by decide) (by decide) address
  have hDigits := not_isDigits_text address
  rw [(parts_of_default hColon hText).1] at hDigits
  exact absurd hDigits (by decide)

theorem not_default_of_large
    {a v : List Char}
    {asn : Nat}
    (hAsn : IsNumeral a asn)
    (hAsnGt : 65535 < asn) :
    a ++ ':' :: v ≠ "0:0".toList := by
  intro hText
  rw [(parts_of_default (not_mem_of_isNumeral hAsn) hText).1] at hAsn
  have hZero := hAsn.unique isNumeral_zero
  omega

theorem read_of_denotes
    {s : String}
    {rd : RouteDistinguisher}
    (hDenotes : Denotes s.toList rd) :
    read s = .ok rd := by
  generalize hText : s.toList = cs at hDenotes
  cases hDenotes with
  | default =>
      rw [String.toList_inj.mp hText]
      rfl
  | type0 hOther hAsn hValue hAsnLe hValueLe =>
      rw [read_of_parts hOther (not_mem_of_isNumeral hAsn) hText]
      refine ⟨_, hValue, by omega, ?_⟩
      rw [if_pos (isDigits_of_isNumeral hAsn)]
      refine ⟨_, hAsn, ofNumber_eq_ok_iff.mpr (Or.inl ?_)⟩
      exact ⟨by omega, by omega, rfl⟩
  | type2 hAsn hValue hAsnGt hAsnLe hValueLe =>
      rw [read_of_parts (not_default_of_large hAsn hAsnGt)
        (not_mem_of_isNumeral hAsn) hText]
      refine ⟨_, hValue, by omega, ?_⟩
      rw [if_pos (isDigits_of_isNumeral hAsn)]
      refine ⟨_, hAsn, ofNumber_eq_ok_iff.mpr (Or.inr ?_)⟩
      exact ⟨hAsnGt, by omega, by omega, rfl⟩
  | type1 address hValue hValueLe =>
      rw [read_of_parts (not_default_of_address address _)
        (not_mem_text (by decide) (by decide) address) hText]
      refine ⟨_, hValue, by omega, ?_⟩
      rw [if_neg (Bool.eq_false_iff.mp (not_isDigits_text address))]
      exact ofAddress_eq_ok_iff.mpr ⟨address, by omega, rfl, rfl⟩

/- A text is read exactly as what it denotes. -/
theorem read_eq_ok_iff
    {s : String}
    {rd : RouteDistinguisher} :
    read s = .ok rd ↔ Denotes s.toList rd :=
  ⟨denotes_of_read, read_of_denotes⟩

/- Nothing is denoted by a text besides what it is read as. -/
theorem Denotes.unique
    {cs : List Char}
    {rd other : RouteDistinguisher}
    (hDenotes : Denotes cs rd)
    (hOther : Denotes cs other) :
    rd = other := by
  have hLeft : read (String.ofList cs) = .ok rd := by
    rw [read_eq_ok_iff, String.toList_ofList]
    exact hDenotes
  have hRight : read (String.ofList cs) = .ok other := by
    rw [read_eq_ok_iff, String.toList_ofList]
    exact hOther
  exact Except.ok.inj (hLeft.symm.trans hRight)

/-
  Reading accepts exactly what denotes a distinguisher, and
  gives what is denoted. No text denotes two distinguishers, and
  every distinguisher fits into the fields of its type.
-/
theorem reads_its_notation
    (s : String) :
    (∀ rd, read s = .ok rd ↔ Denotes s.toList rd) ∧
      (∀ rd other, Denotes s.toList rd → Denotes s.toList other →
        rd = other) ∧
      ∀ rd : RouteDistinguisher,
        rd.administratorNumber < 256 ^ rd.fieldSizes.1 ∧
          rd.value < 256 ^ rd.fieldSizes.2 := by
  refine ⟨?_, ?_, fits⟩
  · intro rd
    exact ⟨denotes_of_read, read_of_denotes⟩
  · intro rd other hDenotes hOther
    exact hDenotes.unique hOther

/- The least number of four bytes, with the greatest value. -/
theorem reads_its_notation_boundary :
    Denotes "65536:65535".toList (.type2 65536 65535) ∧
      ∀ other, Denotes "65536:65535".toList other →
        .type2 65536 65535 = other := by
  have hRead : read "65536:65535" = .ok (.type2 65536 65535) := by
    decide +kernel
  obtain ⟨hDenotes, hUnique, _⟩ := reads_its_notation "65536:65535"
  have hBoundary := (hDenotes _).mp hRead
  exact ⟨hBoundary, fun other hOther =>
    hUnique _ other hBoundary hOther⟩

end LookingGlass.RouteDistinguisher
