import LookingGlass.Proofs.Text.Percent

/-
  The one way in which a text is written with escapes: kept
  characters stand for themselves, and all other bytes are
  escapes in capitals. Each text has one spelling, and that is
  what is written for it.

  Main declarations:
    * `Spells`
    * `Spells.unique`
    * `spells_encode_iff`
-/

namespace LookingGlass.Text.Percent

------------------------------------------------------------
-- Spellings
------------------------------------------------------------

/- The hexadecimal digits in capitals. -/
def capitalDigits : List Char :=
  "0123456789ABCDEF".toList

/-
  Whether a text spells bytes: with a kept character for its own
  byte, and an escape in capitals for a byte that is none of a
  kept character.
-/
inductive Spells
    (keep : Char → Bool) :
    List Char → List UInt8 → Prop
  | nil : Spells keep [] []
  | kept {c : Char} {cs : List Char} {bs : List UInt8}
      (hKeep : keep c = true)
      (hRest : Spells keep cs bs) :
      Spells keep (c :: cs) (c.toNat.toUInt8 :: bs)
  | escaped {x y : Nat} {a b : Char} {cs : List Char}
      {bs : List UInt8}
      (hHigh : capitalDigits[x]? = some a)
      (hLow : capitalDigits[y]? = some b)
      (hByte : ∀ c, keep c = true → c.toNat ≠ 16 * x + y)
      (hRest : Spells keep cs bs) :
      Spells keep ('%' :: a :: b :: cs)
        ((16 * x + y).toUInt8 :: bs)

/- The digits of an escape are capital digits. -/
theorem capitalDigits_eq_some_iff
    {x : Nat}
    {a : Char} :
    capitalDigits[x]? = some a ↔ x < 16 ∧ a = hexDigit x := by
  have hLength : capitalDigits.length = 16 := by decide
  have hAll :
      ∀ d : Fin 16, capitalDigits[d.val]? = some (hexDigit d) := by
    decide
  constructor
  · intro hDigit
    have hx : x < 16 := by
      rw [← hLength]
      exact (List.getElem?_eq_some_iff.mp hDigit).1
    have hOwn := hAll ⟨x, hx⟩
    rw [hDigit] at hOwn
    exact ⟨hx, Option.some.inj hOwn⟩
  · rintro ⟨hx, rfl⟩
    exact hAll ⟨x, hx⟩

variable {keep : Char → Bool}

/- An escape spells a byte that no kept character has. -/
theorem Spells.escape
    {b : UInt8}
    (hByte : ∀ c, keep c = true → c.toNat ≠ b.toNat)
    {cs : List Char}
    {bs : List UInt8}
    (hRest : Spells keep cs bs) :
    Spells keep (escape b ++ cs) (b :: bs) := by
  have hSmall : b.toNat < 0x100 := UInt8.toNat_lt b
  have hValue : 16 * (b.toNat / 16) + b.toNat % 16 = b.toNat := by
    omega
  have hHigh :
      capitalDigits[b.toNat / 16]? =
        some (hexDigit (b.toNat / 16)) :=
    capitalDigits_eq_some_iff.mpr ⟨by omega, rfl⟩
  have hLow :
      capitalDigits[b.toNat % 16]? =
        some (hexDigit (b.toNat % 16)) :=
    capitalDigits_eq_some_iff.mpr ⟨by omega, rfl⟩
  have hSpells :=
    Spells.escaped hHigh hLow (by rwa [hValue]) hRest
  rw [hValue] at hSpells
  simpa [Percent.escape] using hSpells

theorem Spells.escapes
    {bs : List UInt8}
    (hBytes : ∀ b ∈ bs, ∀ c, keep c = true → c.toNat ≠ b.toNat)
    {cs : List Char}
    {more : List UInt8}
    (hRest : Spells keep cs more) :
    Spells keep (bs.flatMap Percent.escape ++ cs) (bs ++ more) := by
  induction bs with
  | nil => exact hRest
  | cons b bs ih =>
      rw [List.flatMap_cons, List.append_assoc, List.cons_append]
      apply Spells.escape (hBytes b (by simp))
      exact ih fun d hd => hBytes d (by simp [hd])

------------------------------------------------------------
-- Uniqueness
------------------------------------------------------------

/- How a byte is spelled. -/
def spellByte
    (keep : Char → Bool)
    (b : UInt8) : List Char :=
  if keep (Char.ofNat b.toNat) then [Char.ofNat b.toNat]
  else escape b

theorem toNat_ofNat_of_byte
    {n : Nat}
    (hn : n < 0x100) :
    (Char.ofNat n).toNat = n := by
  have hValid : n.isValidChar := Or.inl (by omega)
  rw [Char.ofNat, dif_pos hValid]
  rfl

/- Bytes leave no choice in how they are spelled. -/
theorem Spells.eq_flatMap
    (hAscii : ∀ c, keep c = true → c.toNat < 0x80)
    {cs : List Char}
    {bs : List UInt8}
    (hSpells : Spells keep cs bs) :
    cs = bs.flatMap (spellByte keep) := by
  induction hSpells with
  | nil => rfl
  | @kept c cs bs hKeep hRest ih =>
      have hc := hAscii c hKeep
      have hOwn : spellByte keep c.toNat.toUInt8 = [c] := by
        rw [spellByte, Utf8.toNat_toUInt8 (by omega),
          Char.ofNat_toNat, if_pos hKeep]
      rw [List.flatMap_cons, hOwn, ← ih, List.singleton_append]
  | @escaped x y a b cs bs hHigh hLow hByte hRest ih =>
      rcases capitalDigits_eq_some_iff.mp hHigh with ⟨hx, rfl⟩
      rcases capitalDigits_eq_some_iff.mp hLow with ⟨hy, rfl⟩
      have hSmall : 16 * x + y < 0x100 := by omega
      have hNot : ¬ keep (Char.ofNat (16 * x + y)) = true := by
        intro hKeep
        exact hByte _ hKeep (toNat_ofNat_of_byte hSmall)
      have hFirst : (16 * x + y) / 16 = x := by omega
      have hSecond : (16 * x + y) % 16 = y := by omega
      rw [List.flatMap_cons, spellByte, Utf8.toNat_toUInt8 hSmall,
        if_neg hNot, Percent.escape, Utf8.toNat_toUInt8 hSmall,
        hFirst, hSecond, ← ih]
      rfl

theorem Spells.unique
    (hAscii : ∀ c, keep c = true → c.toNat < 0x80)
    {cs ds : List Char}
    {bs : List UInt8}
    (hFirst : Spells keep cs bs)
    (hSecond : Spells keep ds bs) :
    cs = ds := by
  rw [hFirst.eq_flatMap hAscii, hSecond.eq_flatMap hAscii]

------------------------------------------------------------
-- Writing
------------------------------------------------------------

theorem toNat_lt_of_isUnreserved
    {c : Char}
    (hc : isUnreserved c = true) :
    c.toNat < 0x80 := by
  simp only [isUnreserved, Bool.or_eq_true, Bool.and_eq_true,
    decide_eq_true_eq, beq_iff_eq] at hc
  rcases hc with (((((hRange | hRange) | hRange) | rfl) | rfl) |
    rfl) | rfl
  case inr | inl.inr | inl.inl.inr | inl.inl.inl.inr => decide
  all_goals omega

/- With marks of ASCII, only characters of ASCII are kept. -/
theorem toNat_lt_of_keeping
    {marks : String}
    (hMarks : marks.toList.all (fun c => c.toNat < 0x80) = true)
    {c : Char}
    (hc : keeping marks c = true) :
    c.toNat < 0x80 := by
  rw [keeping, Bool.or_eq_true] at hc
  rcases hc with hUnreserved | hMark
  · exact toNat_lt_of_isUnreserved hUnreserved
  · simpa using
      List.all_eq_true.mp hMarks c (List.contains_iff_mem.mp hMark)

/- The bytes of a character that is not kept need escapes. -/
theorem ne_of_mem_encodeChar
    (hAscii : ∀ c, keep c = true → c.toNat < 0x80)
    {d : Char}
    (hNot : ¬ keep d = true)
    {b : UInt8}
    (hb : b ∈ Utf8.encodeChar d)
    {c : Char}
    (hKeep : keep c = true) :
    c.toNat ≠ b.toNat := by
  by_cases hd : d.toNat < 0x80
  · rw [Utf8.encodeChar_of_ascii hd, List.mem_singleton] at hb
    rw [hb, Utf8.toNat_toUInt8 (by omega)]
    intro hEq
    have hSame : c = d := by
      rw [← Char.ofNat_toNat c, hEq, Char.ofNat_toNat]
    exact hNot (hSame ▸ hKeep)
  · have hByte := Utf8.le_of_mem_encodeChar (Nat.le_of_not_lt hd) hb
    have hc := hAscii c hKeep
    omega

/- What is written for a text spells its bytes. -/
theorem spells_encode
    (hAscii : ∀ c, keep c = true → c.toNat < 0x80)
    (ds : List Char) :
    Spells keep (encode keep ds) (Utf8.encode ds) := by
  induction ds with
  | nil => exact .nil
  | cons d ds ih =>
      rw [encode_cons, Utf8.encode_cons]
      by_cases hKeep : keep d = true
      · have hd := hAscii d hKeep
        rw [if_pos hKeep, Utf8.encodeChar_of_ascii hd]
        exact .kept hKeep ih
      · rw [if_neg hKeep]
        apply Spells.escapes _ ih
        intro b hb c hc
        exact ne_of_mem_encodeChar hAscii hKeep hb hc

/- Nothing else does so. -/
theorem spells_encode_iff
    (hAscii : ∀ c, keep c = true → c.toNat < 0x80)
    {cs ds : List Char} :
    Spells keep cs (Utf8.encode ds) ↔ cs = encode keep ds := by
  have hOwn := spells_encode hAscii ds
  constructor
  · intro hSpells
    exact hSpells.unique hAscii hOwn
  · rintro rfl
    exact hOwn

end LookingGlass.Text.Percent
