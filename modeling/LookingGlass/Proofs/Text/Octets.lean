import LookingGlass.Proofs.Text.Cut
import LookingGlass.Proofs.Text.Percent
import LookingGlass.Proofs.Text.WellFormed
import LookingGlass.Text.Octets

/-
  What is sent of a text of characters: its bytes are read back
  as the text, and taking them apart or reading the escapes in
  them is the same as with the characters.

  Main declarations:
    * `Utf8.mem_encode_iff` and `Utf8.cut_encode`
    * `Utf8.length_encode`
    * `Percent.unescape_encode`
    * `Octets.lossy_ofString` and `Octets.isText_ofString`
    * `Octets.isText_iff`
-/

namespace LookingGlass.Text

------------------------------------------------------------
-- Taking Bytes Apart
------------------------------------------------------------

namespace Utf8

/- The byte of an ASCII character stands for nothing else. -/
theorem mem_encode_iff
    {c : Char}
    (hc : c.toNat < 0x80)
    (cs : List Char) :
    c.toNat.toUInt8 ∈ encode cs ↔ c ∈ cs := by
  have hByte : c.toNat.toUInt8.toNat = c.toNat :=
    toNat_toUInt8 (by omega)
  constructor
  · intro hMem
    rcases List.mem_flatMap.mp hMem with ⟨d, hd, hPart⟩
    by_cases hAscii : d.toNat < 0x80
    · rw [encodeChar_of_ascii hAscii, List.mem_singleton] at hPart
      have hValue := congrArg UInt8.toNat hPart
      rw [hByte, toNat_toUInt8 (by omega)] at hValue
      rwa [Char.toNat_inj.mp hValue]
    · have hGreat := le_of_mem_encodeChar (by omega) hPart
      omega
  · intro hMem
    apply List.mem_flatMap.mpr
    refine ⟨c, hMem, ?_⟩
    rw [encodeChar_of_ascii hc]
    exact List.mem_singleton_self _

/- Bytes are cut where the characters are. -/
theorem cut_encode
    {sep : Char}
    (hSep : sep.toNat < 0x80)
    (cs : List Char) :
    cut sep.toNat.toUInt8 (encode cs) =
      (encode (cut sep cs).1, (cut sep cs).2.map encode) := by
  rcases cut_cases sep cs with
    ⟨hNone, hCut⟩ | ⟨before, after, hBefore, rfl, hCut⟩
  · have hByte := mt (mem_encode_iff hSep cs).mp hNone
    rw [hCut, cut_of_not_mem hByte]
    rfl
  · have hByte := mt (mem_encode_iff hSep before).mp hBefore
    rw [hCut, encode_append, encode_cons, encodeChar_of_ascii hSep,
      List.singleton_append, cut_append hByte]
    rfl

theorem length_encodeChar
    (c : Char) :
    (encodeChar c).length = c.utf8Size := by
  have hValue : c.val.toNat = c.toNat := rfl
  rw [← String.length_utf8EncodeChar]
  unfold encodeChar String.utf8EncodeChar
  simp only [hValue]
  generalize c.toNat = v
  have hOne : v ≤ 127 ↔ v < 0x80 := by omega
  have hTwo : v ≤ 2047 ↔ v < 0x800 := by omega
  have hThree : v ≤ 65535 ↔ v < 0x10000 := by omega
  simp only [hOne, hTwo, hThree, apply_ite List.length,
    List.length_cons, List.length_nil]

theorem length_encode
    (s : String) :
    (encode s.toList).length = s.utf8ByteSize := by
  have hLists (cs : List Char) :
      (encode cs).length = (String.ofList cs).utf8ByteSize := by
    induction cs with
    | nil => rfl
    | cons c cs ih =>
        have hParts :
            String.ofList (c :: cs) =
              String.singleton c ++ String.ofList cs := by
          rw [String.singleton_eq_ofList, ← String.ofList_append]
          rfl
        rw [encode_cons, List.length_append, length_encodeChar, ih,
          hParts, String.utf8ByteSize_append,
          String.utf8ByteSize_singleton]
  rw [hLists, String.ofList_toList]

end Utf8

------------------------------------------------------------
-- Reading Escapes in Bytes
------------------------------------------------------------

namespace Percent

theorem hexByte?_of_ascii
    {c : Char}
    (hc : c.toNat < 0x80) :
    hexByte? c.toNat.toUInt8 = hexValue? c := by
  rw [hexByte?, Utf8.toNat_toUInt8 (by omega), Char.ofNat_toNat]

theorem lt_of_hexValue?
    {c : Char}
    (hDigit : (hexValue? c).isSome) :
    c.toNat < 0x80 := by
  unfold hexValue? at hDigit
  grind

/- Whether bytes start with two hexadecimal digits. -/
def BytesFollow :
    List UInt8 → Prop
  | a :: b :: _ => (hexByte? a).isSome ∧ (hexByte? b).isSome
  | _ => False

theorem unescape_mark
    {bs : List UInt8}
    (hDigits : ¬ BytesFollow bs) :
    unescape (0x25 :: bs) = 0x25 :: unescape bs := by
  match bs, hDigits with
  | [], _ => rfl
  | [a], _ => rfl
  | a :: b :: rest, hDigits =>
      rw [unescape]
      split
      case h_1 hA hB => simp [BytesFollow, hA, hB] at hDigits
      case h_2 => rfl

theorem unescape_append
    {bs : List UInt8}
    (hMark : 0x25 ∉ bs)
    (rest : List UInt8) :
    unescape (bs ++ rest) = bs ++ unescape rest := by
  induction bs with
  | nil => rfl
  | cons b bs ih =>
      simp only [List.mem_cons, not_or] at hMark
      rw [List.cons_append, unescape, ih hMark.2, List.cons_append]
      intro a d rest' hEq
      exact absurd hEq.symm hMark.1

theorem hexByte?_of_le
    {b : UInt8}
    (hb : 0x80 ≤ b.toNat) :
    hexByte? b = none := by
  have hByte : b.toNat < 0x100 := UInt8.toNat_lt b
  have hAll :
      ∀ n : Fin 0x80, hexValue? (Char.ofNat (0x80 + n)) = none := by
    decide
  have hNone := hAll ⟨b.toNat - 0x80, by omega⟩
  rwa [Nat.add_sub_cancel' hb] at hNone

/- The first byte of a character is a digit if it is one itself. -/
theorem exists_encodeChar_eq_cons
    (c : Char) :
    ∃ b more, Utf8.encodeChar c = b :: more ∧
      hexByte? b = hexValue? c ∧
      ((hexValue? c).isSome → more = []) := by
  by_cases hAscii : c.toNat < 0x80
  · exact ⟨_, [], Utf8.encodeChar_of_ascii hAscii,
      hexByte?_of_ascii hAscii, fun _ => rfl⟩
  · have hNone : hexValue? c = none := by
      rw [← Option.not_isSome_iff_eq_none]
      exact fun hDigit => hAscii (lt_of_hexValue? hDigit)
    have hSome : Utf8.encodeChar c ≠ [] := by
      have hSize := Utf8.length_encodeChar c
      have hPos := Char.utf8Size_pos c
      intro hEmpty
      rw [hEmpty, List.length_nil] at hSize
      omega
    rcases List.exists_cons_of_ne_nil hSome with ⟨b, more, hBytes⟩
    have hb : 0x80 ≤ b.toNat :=
      Utf8.le_of_mem_encodeChar (Nat.le_of_not_lt hAscii)
        (by simp [hBytes])
    refine ⟨b, more, hBytes, ?_, ?_⟩
    · rw [hNone, hexByte?_of_le hb]
    · simp [hNone]

theorem isSome_of_bytesFollow
    {b : UInt8}
    {bs : List UInt8}
    (hDigits : BytesFollow (b :: bs)) :
    (hexByte? b).isSome := by
  cases bs with
  | nil => exact hDigits.elim
  | cons d bs => exact hDigits.1

/- Bytes start with two digits if the characters do. -/
theorem digitsFollow_of_bytesFollow
    {cs : List Char}
    (hDigits : BytesFollow (Utf8.encode cs)) :
    DigitsFollow cs := by
  cases cs with
  | nil => exact hDigits.elim
  | cons c cs =>
      rcases exists_encodeChar_eq_cons c with
        ⟨b, more, hBytes, hDigit, hAlone⟩
      rw [Utf8.encode_cons, hBytes, List.cons_append] at hDigits
      have hFirst := isSome_of_bytesFollow hDigits
      rw [hDigit] at hFirst
      rw [hAlone hFirst, List.nil_append] at hDigits
      cases cs with
      | nil => exact hDigits.elim
      | cons d cs =>
          rcases exists_encodeChar_eq_cons d with
            ⟨b', more', hBytes', hDigit', _⟩
          rw [Utf8.encode_cons, hBytes', List.cons_append] at hDigits
          exact ⟨hFirst, hDigit' ▸ hDigits.2⟩

/-
  Reading the escapes in the bytes of a text gives the bytes
  that the text stands for. The induction is on how the text is
  read: an escape is of ASCII, so its bytes are one too, and no
  other bytes look like one.
-/
theorem unescape_encode
    (cs : List Char) :
    unescape (Utf8.encode cs) = bytes cs := by
  fun_induction bytes cs with
  | case1 => rfl
  | case2 a b rest x y hy hx ih =>
      have ha : a.toNat < 0x80 := lt_of_hexValue? (by simp [hx])
      have hb : b.toNat < 0x80 := lt_of_hexValue? (by simp [hy])
      rw [← ih]
      simp only [Utf8.encode_cons, Utf8.encodeChar_of_ascii ha,
        Utf8.encodeChar_of_ascii hb]
      change unescape (0x25 :: a.toNat.toUInt8 ::
        b.toNat.toUInt8 :: Utf8.encode rest) = _
      rw [unescape, hexByte?_of_ascii ha, hexByte?_of_ascii hb, hx, hy]
  | case3 a b rest hNo ih =>
      rw [← ih]
      apply unescape_mark
      intro hDigits
      have hBoth := digitsFollow_of_bytesFollow hDigits
      rcases Option.isSome_iff_exists.mp hBoth.1 with ⟨x, hx⟩
      rcases Option.isSome_iff_exists.mp hBoth.2 with ⟨y, hy⟩
      exact hNo x y hx hy
  | case4 c rest hNo ih =>
      rw [Utf8.encode_cons, ← ih]
      by_cases hMark : c = '%'
      · subst hMark
        apply unescape_mark
        intro hDigits
        have hBoth := digitsFollow_of_bytesFollow hDigits
        rcases rest with _ | ⟨a, _ | ⟨b, rest'⟩⟩
        · exact hBoth
        · exact hBoth
        · exact hNo a b rest' rfl rfl
      · apply unescape_append
        have hByte := mt (Utf8.mem_encode_iff (c := '%') (by decide) [c]).mp
          (by simpa using Ne.symm hMark)
        simpa using hByte

end Percent

------------------------------------------------------------
-- Texts of Characters
------------------------------------------------------------

namespace Octets

theorem bytes_ofString
    (s : String) :
    (ofString s).bytes = Utf8.encode s.toList :=
  rfl

/- A text of characters is read as it was sent. -/
theorem lossy_ofString
    (s : String) :
    (ofString s).lossy = s.toList :=
  Utf8.decodeLossy_encode s.toList

theorem isText_ofString
    (s : String) :
    (ofString s).isText = true := by
  rw [isText, bytes_ofString, Utf8.chunks_encode]
  simp

/- Bytes are a text if they are those of characters. -/
theorem isText_iff
    {octets : Octets} :
    octets.isText = true ↔ ∃ s, octets = ofString s := by
  constructor
  · intro hText
    have hScalar :
        ∀ chunk ∈ Utf8.chunks octets.bytes, chunk.IsScalar := by
      intro chunk hChunk
      have hRead := List.all_eq_true.mp hText chunk hChunk
      cases chunk with
      | scalar c => exact ⟨c, rfl⟩
      | broken bs fault => cases hRead
    rcases Utf8.exists_encode_of_chunks hScalar with ⟨cs, hBytes⟩
    refine ⟨String.ofList cs, ?_⟩
    cases octets
    simpa [ofString] using hBytes
  · intro hText
    rcases hText with ⟨s, rfl⟩
    exact isText_ofString s

end Octets

end LookingGlass.Text
