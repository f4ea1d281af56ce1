import LookingGlass.Proofs.Text.Utf8
import LookingGlass.Text.Percent

/-
  Correctness of percent escapes: what is written is read
  back by both readers, and the bytes of a text can be taken
  part by part at characters that no escape holds.

  Main declarations:
    * `bytes_encode_append`
    * `decodeLossy_encode` and `decodeKeeping_encode`
    * `IsSeparator` and `bytes_append_separator`
    * `bytes_of_not_holdsEscape`
    * `IsText` and `isText_append_separator`
-/

namespace LookingGlass.Text.Percent

------------------------------------------------------------
-- Single Escapes
------------------------------------------------------------

theorem hexValue?_hexDigit
    {n : Nat}
    (hn : n < 16) :
    hexValue? (hexDigit n) = some n := by
  have hAll :
      ∀ d : Fin 16, hexValue? (hexDigit d) = some d.val := by
    decide
  exact hAll ⟨n, hn⟩

@[simp] theorem bytes_nil : bytes [] = [] := rfl

/- A character that starts no escape stands for itself. -/
theorem bytes_cons
    {c : Char}
    (hc : c ≠ '%')
    (cs : List Char) :
    bytes (c :: cs) = Utf8.encodeChar c ++ bytes cs := by
  rw [bytes]
  intro a b rest hMark
  exact absurd hMark hc

/- Whether a text starts with two hexadecimal digits. -/
def DigitsFollow :
    List Char → Prop
  | a :: b :: _ => (hexValue? a).isSome ∧ (hexValue? b).isSome
  | _ => False

/- A percent sign in front of no two digits is one itself. -/
theorem bytes_mark
    {cs : List Char}
    (hDigits : ¬ DigitsFollow cs) :
    bytes ('%' :: cs) = 0x25 :: bytes cs := by
  match cs, hDigits with
  | [], _ => rfl
  | [a], _ => rfl
  | a :: b :: rest, hDigits =>
      rw [bytes]
      split
      case h_1 hA hB => simp [DigitsFollow, hA, hB] at hDigits
      case h_2 => rfl

/- An escape stands for its byte. -/
theorem bytes_escape
    (b : UInt8)
    (cs : List Char) :
    bytes (escape b ++ cs) = b :: bytes cs := by
  have hByte : b.toNat < 0x100 := UInt8.toNat_lt b
  have hHigh := hexValue?_hexDigit (n := b.toNat / 16) (by omega)
  have hLow := hexValue?_hexDigit (n := b.toNat % 16) (by omega)
  have hValue : 16 * (b.toNat / 16) + b.toNat % 16 = b.toNat := by
    omega
  simp [escape, bytes, hHigh, hLow, hValue]

theorem bytes_escapes
    (bs : List UInt8)
    (cs : List Char) :
    bytes (bs.flatMap escape ++ cs) = bs ++ bytes cs := by
  induction bs with
  | nil => rfl
  | cons b bs ih =>
      rw [List.flatMap_cons, List.append_assoc, bytes_escape,
        ih, List.cons_append]

------------------------------------------------------------
-- Writing
------------------------------------------------------------

variable {keep : Char → Bool}

@[simp] theorem encode_nil : encode keep [] = [] := rfl

theorem encode_cons
    (c : Char)
    (cs : List Char) :
    encode keep (c :: cs) =
      (if keep c then [c]
        else (Utf8.encodeChar c).flatMap escape) ++
        encode keep cs :=
  List.flatMap_cons

@[simp] theorem encode_append
    (cs ds : List Char) :
    encode keep (cs ++ ds) = encode keep cs ++ encode keep ds :=
  List.flatMap_append

/- A text of kept characters is written as it is. -/
theorem encode_of_all_kept
    {cs : List Char}
    (hKept : ∀ c ∈ cs, keep c = true) :
    encode keep cs = cs := by
  induction cs with
  | nil => rfl
  | cons c cs ih =>
      rw [encode_cons, if_pos (hKept c (by simp)),
        ih fun d hd => hKept d (by simp [hd])]
      rfl

/- The characters of an escape. -/
theorem mem_escape
    {b : UInt8}
    {c : Char}
    (hc : c ∈ escape b) :
    c = '%' ∨ (hexValue? c).isSome := by
  have hByte : b.toNat < 0x100 := UInt8.toNat_lt b
  simp only [escape, List.mem_cons, List.not_mem_nil,
    or_false] at hc
  rcases hc with rfl | rfl | rfl
  · exact Or.inl rfl
  · rw [hexValue?_hexDigit (by omega)]
    exact Or.inr rfl
  · rw [hexValue?_hexDigit (by omega)]
    exact Or.inr rfl

/- What is written consists of kept characters and escapes. -/
theorem mem_encode
    {cs : List Char}
    {c : Char}
    (hc : c ∈ encode keep cs) :
    (keep c = true ∧ c ∈ cs) ∨ c = '%' ∨
      (hexValue? c).isSome := by
  rcases List.mem_flatMap.mp hc with ⟨d, hd, hPart⟩
  split at hPart
  case isTrue hKeep =>
    rcases List.mem_singleton.mp hPart with rfl
    exact Or.inl ⟨hKeep, hd⟩
  case isFalse =>
    rcases List.mem_flatMap.mp hPart with ⟨b, _, hEscape⟩
    exact Or.inr (mem_escape hEscape)

/- Whether a character of ASCII stands in no escape. -/
def IsSeparator
    (c : Char) : Prop :=
  c.toNat < 0x80 ∧ c ≠ '%' ∧ hexValue? c = none

instance
    (c : Char) :
    Decidable (IsSeparator c) :=
  inferInstanceAs (Decidable (_ ∧ _))

/- A separator that is not kept does not stand in a text. -/
theorem not_mem_encode
    {sep : Char}
    (hSep : IsSeparator sep)
    (hKeep : keep sep = false)
    (cs : List Char) :
    sep ∉ encode keep cs := by
  rcases hSep with ⟨_, hMark, hDigit⟩
  intro hMem
  rcases mem_encode hMem with ⟨hKept, _⟩ | hEscape | hHex
  · simp [hKeep] at hKept
  · exact hMark hEscape
  · simp [hDigit] at hHex

/- Digits of escapes never need an escape themselves. -/
theorem isUnreserved_of_hexValue?
    {c : Char}
    (hDigit : (hexValue? c).isSome) :
    isUnreserved c = true := by
  unfold hexValue? at hDigit
  simp only [isUnreserved, Bool.or_eq_true, Bool.and_eq_true,
    decide_eq_true_eq]
  grind

/- With more marks, no fewer characters are kept. -/
theorem keeping_mono
    {marks others : String}
    (hMarks : marks.toList.all others.toList.contains = true)
    {c : Char}
    (hc : keeping marks c = true) :
    keeping others c = true := by
  simp only [keeping, Bool.or_eq_true] at *
  refine hc.imp_right fun hMark => ?_
  exact List.all_eq_true.mp hMarks c (List.contains_iff_mem.mp hMark)

------------------------------------------------------------
-- Round Trip
------------------------------------------------------------

/- What is written stands for the bytes of the text. -/
theorem bytes_encode_append
    (hMark : keep '%' = false)
    (cs ds : List Char) :
    bytes (encode keep cs ++ ds) = Utf8.encode cs ++ bytes ds := by
  induction cs with
  | nil => rfl
  | cons c cs ih =>
      rw [encode_cons, List.append_assoc, Utf8.encode_cons,
        List.append_assoc]
      by_cases hKeep : keep c = true
      · have hNot : c ≠ '%' := by
          rintro rfl
          simp [hMark] at hKeep
        rw [if_pos hKeep, List.singleton_append,
          bytes_cons hNot, ih]
      · rw [if_neg hKeep, bytes_escapes, ih]

theorem bytes_encode
    (hMark : keep '%' = false)
    (cs : List Char) :
    bytes (encode keep cs) = Utf8.encode cs := by
  simpa using bytes_encode_append hMark cs []

/- Both readers agree on bytes that are those of a text. -/
theorem decodeLossy_of_bytes
    {cs ds : List Char}
    (hBytes : bytes cs = Utf8.encode ds) :
    decodeLossy cs = ds := by
  rw [decodeLossy, hBytes, Utf8.decodeLossy_encode]

theorem decodeKeeping_of_bytes
    {cs ds : List Char}
    (hBytes : bytes cs = Utf8.encode ds) :
    decodeKeeping cs = ds := by
  simp [decodeKeeping, hBytes, Utf8.chunks_encode,
    List.flatMap_map]

theorem decodeLossy_encode
    (hMark : keep '%' = false)
    (cs : List Char) :
    decodeLossy (encode keep cs) = cs :=
  decodeLossy_of_bytes (bytes_encode hMark cs)

theorem decodeKeeping_encode
    (hMark : keep '%' = false)
    (cs : List Char) :
    decodeKeeping (encode keep cs) = cs :=
  decodeKeeping_of_bytes (bytes_encode hMark cs)

------------------------------------------------------------
-- Taking Texts Apart
------------------------------------------------------------

/-
  No escape reaches over a character that is neither a percent
  sign nor a digit, so the bytes on both sides are separate.
-/
theorem bytes_append_separator
    {sep : Char}
    (hSep : IsSeparator sep)
    (cs ds : List Char) :
    bytes (cs ++ sep :: ds) =
      bytes cs ++ (Utf8.encodeChar sep ++ bytes ds) := by
  rcases hSep with ⟨_, hMark, hDigit⟩
  have hFirst : ¬ DigitsFollow (sep :: ds) := by
    cases ds <;> simp [DigitsFollow, hDigit]
  have hSecond (a : Char) : ¬ DigitsFollow (a :: sep :: ds) := by
    simp [DigitsFollow, hDigit]
  fun_induction bytes cs with
  | case1 => exact bytes_cons hMark ds
  | case2 a b rest x y hB hA ih =>
      simp [bytes, hA, hB, ih]
  | case3 a b rest hNo ih =>
      have hDigits :
          ¬ DigitsFollow (a :: b :: (rest ++ sep :: ds)) := by
        rw [DigitsFollow, Option.isSome_iff_exists,
          Option.isSome_iff_exists]
        rintro ⟨⟨x, hA⟩, ⟨y, hB⟩⟩
        exact hNo x y hA hB
      simp only [List.cons_append] at ih ⊢
      rw [bytes_mark hDigits, ih]
  | case4 c rest hNo ih =>
      by_cases hc : c = '%'
      · -- Fewer than two characters follow in `rest`.
        subst hc
        have hDigits : ¬ DigitsFollow (rest ++ sep :: ds) := by
          match rest, hNo with
          | [], _ => exact hFirst
          | [a], _ => exact hSecond a
          | a :: b :: more, hNo => exact (hNo a b more rfl rfl).elim
        rw [List.cons_append, bytes_mark hDigits, ih]
        rfl
      · rw [List.cons_append, bytes_cons hc, ih,
          List.append_assoc]

/- Whether there is an escape in a text. -/
def HoldsEscape
    (cs : List Char) : Prop :=
  ∃ before after, cs = before ++ '%' :: after ∧
    DigitsFollow after

theorem HoldsEscape.cons
    {c : Char}
    {cs : List Char}
    (hEscape : HoldsEscape cs) :
    HoldsEscape (c :: cs) := by
  rcases hEscape with ⟨before, after, rfl, hDigits⟩
  exact ⟨c :: before, after, rfl, hDigits⟩

theorem not_holdsEscape_of_not_mem
    {cs : List Char}
    (hMark : '%' ∉ cs) :
    ¬ HoldsEscape cs := by
  rintro ⟨before, after, rfl, _⟩
  simp at hMark

/- Without an escape, a text stands for its own bytes. -/
theorem bytes_of_not_holdsEscape
    {cs : List Char}
    (hEscape : ¬ HoldsEscape cs) :
    bytes cs = Utf8.encode cs := by
  induction cs with
  | nil => rfl
  | cons c cs ih =>
      have hRest := ih fun hLater => hEscape hLater.cons
      by_cases hc : c = '%'
      · subst hc
        have hDigits : ¬ DigitsFollow cs := fun hDigits =>
          hEscape ⟨[], cs, rfl, hDigits⟩
        rw [bytes_mark hDigits, hRest]
        rfl
      · rw [bytes_cons hc, hRest, Utf8.encode_cons]

/- What stands in front of a separator is read for itself. -/
theorem decodeLossy_append_separator
    {sep : Char}
    (hSep : IsSeparator sep)
    {cs : List Char}
    (hEscape : ¬ HoldsEscape cs)
    (ds : List Char) :
    decodeLossy (cs ++ sep :: ds) = cs ++ sep :: decodeLossy ds := by
  have hBytes :
      bytes (cs ++ sep :: ds) =
        Utf8.encode (cs ++ [sep]) ++ bytes ds := by
    rw [bytes_append_separator hSep,
      bytes_of_not_holdsEscape hEscape]
    simp
  rw [decodeLossy, hBytes, Utf8.decodeLossy_encode_append,
    decodeLossy]
  simp

theorem decodeLossy_of_not_holdsEscape
    {cs : List Char}
    (hEscape : ¬ HoldsEscape cs) :
    decodeLossy cs = cs :=
  decodeLossy_of_bytes (bytes_of_not_holdsEscape hEscape)

------------------------------------------------------------
-- Escapes of Texts
------------------------------------------------------------

/- Whether the escapes of a text decode to valid UTF-8. -/
def IsText
    (cs : List Char) : Prop :=
  ∃ ds, bytes cs = Utf8.encode ds

theorem IsText.decodeKeeping_eq
    {cs : List Char}
    (hText : IsText cs) :
    decodeKeeping cs = decodeLossy cs := by
  rcases hText with ⟨ds, hBytes⟩
  rw [decodeKeeping_of_bytes hBytes, decodeLossy_of_bytes hBytes]

theorem isText_of_not_holdsEscape
    {cs : List Char}
    (hEscape : ¬ HoldsEscape cs) :
    IsText cs :=
  ⟨cs, bytes_of_not_holdsEscape hEscape⟩

/- The parts of a text are texts, and nothing else is. -/
theorem isText_append_separator
    {sep : Char}
    (hSep : IsSeparator sep)
    {cs ds : List Char} :
    IsText (cs ++ sep :: ds) ↔ IsText cs ∧ IsText ds := by
  have hAscii := hSep.1
  have hByte : sep.toNat.toUInt8.toNat < 0x80 := by
    rw [Utf8.toNat_toUInt8 (by omega)]
    exact hAscii
  have hBytes := bytes_append_separator hSep cs ds
  constructor
  · rintro ⟨es, hWhole⟩
    rw [hBytes, Utf8.encodeChar_of_ascii hAscii] at hWhole
    rcases Utf8.exists_encode_of_split hByte es hWhole.symm with
      ⟨fs, gs, hBefore, hAfter⟩
    exact ⟨⟨fs, hBefore⟩, ⟨gs, hAfter⟩⟩
  · rintro ⟨⟨fs, hBefore⟩, ⟨gs, hAfter⟩⟩
    refine ⟨fs ++ sep :: gs, ?_⟩
    rw [hBytes, hBefore, hAfter, Utf8.encode_append,
      Utf8.encode_cons]

end LookingGlass.Text.Percent
