import LookingGlass.Text.Utf8

/-
  Correctness of UTF-8: what is written is read back, and a
  text of which a byte below 0x80 is a part can be taken apart
  at this byte.

  Main declarations:
    * `chunks_encode`
    * `decodeLossy_encode`
    * `exists_encode_of_split`
-/

namespace LookingGlass.Text.Utf8

------------------------------------------------------------
-- Bytes
------------------------------------------------------------

theorem toNat_toUInt8
    {n : Nat}
    (hn : n < 0x100) :
    n.toUInt8.toNat = n := by
  simp [Nat.toUInt8, Nat.mod_eq_of_lt hn]

/- The value of a character is none of a surrogate. -/
theorem toNat_valid
    (c : Char) :
    c.toNat < 0xD800 ∨
      (0xDFFF < c.toNat ∧ c.toNat < 0x110000) :=
  c.valid

------------------------------------------------------------
-- Single Steps
------------------------------------------------------------

theorem opening_of_ascii
    {v : Nat}
    (hv : v < 0x80) :
    opening v.toUInt8 = ([.scalar (Char.ofNat v)], none) := by
  have hByte : v < 0x100 := by omega
  simp only [opening, toNat_toUInt8 hByte, if_pos hv]

/- The first of two bytes. -/
theorem opening_of_two
    {v : Nat}
    (hLow : 0x80 ≤ v)
    (hHigh : v < 0x800) :
    opening (0xC0 + v / 0x40).toUInt8 =
      ([], some ⟨[(0xC0 + v / 0x40).toUInt8], v / 0x40, 0,
        0x80, 0xBF⟩) := by
  have hByte : 0xC0 + v / 0x40 < 0x100 := by omega
  simp only [opening, toNat_toUInt8 hByte]
  rw [if_neg (by omega), if_neg (by omega),
    if_pos (by omega), Nat.add_sub_cancel_left]

/- The first of three bytes. -/
theorem opening_of_three
    {v : Nat}
    (hHigh : v < 0x10000) :
    opening (0xE0 + v / 0x1000).toUInt8 =
      ([], some ⟨[(0xE0 + v / 0x1000).toUInt8], v / 0x1000, 1,
        if v / 0x1000 = 0 then 0xA0 else 0x80,
        if v / 0x1000 = 0xD then 0x9F else 0xBF⟩) := by
  have hByte : 0xE0 + v / 0x1000 < 0x100 := by omega
  have hFirst : 0xE0 + v / 0x1000 = 0xE0 ↔ v / 0x1000 = 0 := by
    omega
  have hSurrogate :
      0xE0 + v / 0x1000 = 0xED ↔ v / 0x1000 = 0xD := by
    omega
  simp only [opening, toNat_toUInt8 hByte, hFirst, hSurrogate]
  rw [if_neg (by omega), if_neg (by omega),
    if_neg (by omega), if_pos (by omega),
    Nat.add_sub_cancel_left]

/- The first of four bytes. -/
theorem opening_of_four
    {v : Nat}
    (hHigh : v < 0x110000) :
    opening (0xF0 + v / 0x40000).toUInt8 =
      ([], some ⟨[(0xF0 + v / 0x40000).toUInt8], v / 0x40000, 2,
        if v / 0x40000 = 0 then 0x90 else 0x80,
        if v / 0x40000 = 4 then 0x8F else 0xBF⟩) := by
  have hByte : 0xF0 + v / 0x40000 < 0x100 := by omega
  have hFirst : 0xF0 + v / 0x40000 = 0xF0 ↔ v / 0x40000 = 0 := by
    omega
  have hLast :
      0xF0 + v / 0x40000 = 0xF4 ↔ v / 0x40000 = 4 := by
    omega
  simp only [opening, toNat_toUInt8 hByte, hFirst, hLast]
  rw [if_neg (by omega), if_neg (by omega),
    if_neg (by omega), if_neg (by omega),
    if_pos (by omega), Nat.add_sub_cancel_left]

/- A byte that continues a pending character. -/
theorem step_of_continuation
    {p : Pending}
    {d : Nat}
    (hd : d < 0x40)
    (hLow : p.low ≤ 0x80 + d)
    (hHigh : 0x80 + d ≤ p.high) :
    step (some p) (0x80 + d).toUInt8 =
      match p.more with
      | 0 => ([.scalar (Char.ofNat (p.value * 0x40 + d))], none)
      | more + 1 =>
        ([], some ⟨p.bytes ++ [(0x80 + d).toUInt8],
          p.value * 0x40 + d, more, 0x80, 0xBF⟩) := by
  have hByte : 0x80 + d < 0x100 := by omega
  simp only [step, toNat_toUInt8 hByte]
  rw [if_pos ⟨hLow, hHigh⟩]
  cases p.more <;> simp only [Nat.add_sub_cancel_left]

------------------------------------------------------------
-- Round Trip
------------------------------------------------------------

/- The bytes of a character are read as this character. -/
theorem chunksFrom_encodeChar
    (c : Char)
    (rest : List UInt8) :
    chunksFrom none (encodeChar c ++ rest) =
      .scalar c :: chunksFrom none rest := by
  have hValid := toNat_valid c
  have hChar := Char.ofNat_toNat c
  unfold encodeChar
  generalize c.toNat = v at *
  dsimp only
  split
  case isTrue hOne =>
    simp [chunksFrom, step, opening_of_ascii hOne, hChar]
  case isFalse hOne =>
  split
  case isTrue hTwo =>
    have hValue : v / 0x40 * 0x40 + v % 0x40 = v := by omega
    simp only [List.cons_append, List.nil_append, chunksFrom,
      step.eq_1, opening_of_two (by omega) hTwo]
    rw [step_of_continuation (by omega) (by dsimp only; omega)
      (by dsimp only; omega)]
    simp [hValue, hChar]
  case isFalse hTwo =>
  split
  case isTrue hThree =>
    have hValue :
        (v / 0x1000 * 0x40 + v / 0x40 % 0x40) * 0x40 +
          v % 0x40 = v := by
      omega
    simp only [List.cons_append, List.nil_append, chunksFrom,
      step.eq_1, opening_of_three hThree]
    rw [step_of_continuation (by omega)
        (by dsimp only; split <;> omega)
        (by dsimp only; split <;> omega),
      step_of_continuation (by omega) (by dsimp only; omega)
        (by dsimp only; omega)]
    simp [hValue, hChar]
  case isFalse hThree =>
    have hValue :
        ((v / 0x40000 * 0x40 + v / 0x1000 % 0x40) * 0x40 +
          v / 0x40 % 0x40) * 0x40 + v % 0x40 = v := by
      omega
    simp only [List.cons_append, List.nil_append, chunksFrom,
      step.eq_1, opening_of_four (by omega : v < 0x110000)]
    rw [step_of_continuation (by omega)
        (by dsimp only; split <;> omega)
        (by dsimp only; split <;> omega),
      step_of_continuation (by omega) (by dsimp only; omega)
        (by dsimp only; omega),
      step_of_continuation (by omega) (by dsimp only; omega)
        (by dsimp only; omega)]
    simp [hValue, hChar]

/- The bytes of a text are read as its characters. -/
theorem chunks_encode_append
    (cs : List Char)
    (bytes : List UInt8) :
    chunks (encode cs ++ bytes) = cs.map .scalar ++ chunks bytes := by
  unfold chunks
  induction cs with
  | nil => rfl
  | cons c cs ih =>
      have hCons : encode (c :: cs) = encodeChar c ++ encode cs :=
        List.flatMap_cons
      rw [hCons, List.append_assoc, chunksFrom_encodeChar, ih,
        List.map_cons, List.cons_append]

theorem chunks_encode
    (cs : List Char) :
    chunks (encode cs) = cs.map .scalar := by
  have hAll := chunks_encode_append cs []
  rw [List.append_nil] at hAll
  rw [hAll]
  exact List.append_nil _

theorem decodeLossy_encode_append
    (cs : List Char)
    (bytes : List UInt8) :
    decodeLossy (encode cs ++ bytes) = cs ++ decodeLossy bytes := by
  simp [decodeLossy, chunks_encode_append, Function.comp_def]

@[simp] theorem decodeLossy_encode
    (cs : List Char) :
    decodeLossy (encode cs) = cs := by
  simp [decodeLossy, chunks_encode, Function.comp_def]

------------------------------------------------------------
-- Taking Texts Apart
------------------------------------------------------------

@[simp] theorem encode_nil : encode [] = [] := rfl

@[simp] theorem encode_cons
    (c : Char)
    (cs : List Char) :
    encode (c :: cs) = encodeChar c ++ encode cs :=
  List.flatMap_cons

@[simp] theorem encode_append
    (cs ds : List Char) :
    encode (cs ++ ds) = encode cs ++ encode ds :=
  List.flatMap_append

theorem encodeChar_of_ascii
    {c : Char}
    (hc : c.toNat < 0x80) :
    encodeChar c = [c.toNat.toUInt8] := by
  simp [encodeChar, hc]

/- A character past ASCII has no byte of ASCII. -/
theorem le_of_mem_encodeChar
    {c : Char}
    (hc : 0x80 ≤ c.toNat)
    {b : UInt8}
    (hb : b ∈ encodeChar c) :
    0x80 ≤ b.toNat := by
  have hValid := toNat_valid c
  unfold encodeChar at hb
  generalize c.toNat = v at *
  dsimp only at hb
  rw [if_neg (by omega)] at hb
  split at hb
  case isTrue hTwo =>
    simp only [List.mem_cons, List.not_mem_nil, or_false] at hb
    rcases hb with rfl | rfl <;>
      rw [toNat_toUInt8 (by omega)] <;> omega
  case isFalse hTwo =>
  split at hb
  case isTrue hThree =>
    simp only [List.mem_cons, List.not_mem_nil, or_false] at hb
    rcases hb with rfl | rfl | rfl <;>
      rw [toNat_toUInt8 (by omega)] <;> omega
  case isFalse hThree =>
    simp only [List.mem_cons, List.not_mem_nil, or_false] at hb
    rcases hb with rfl | rfl | rfl | rfl <;>
      rw [toNat_toUInt8 (by omega)] <;> omega

/-
  Where the bytes of a text hold those of an ASCII character,
  the bytes on both sides are those of texts as well.
-/
theorem exists_encode_of_split
    {b : UInt8}
    (hb : b.toNat < 0x80)
    (cs : List Char)
    {before after : List UInt8}
    (hSplit : encode cs = before ++ b :: after) :
    ∃ ds es, before = encode ds ∧ after = encode es := by
  induction cs generalizing before with
  | nil => simp at hSplit
  | cons c cs ih =>
      rw [encode_cons] at hSplit
      rcases List.append_eq_append_iff.mp hSplit with
        ⟨more, hBefore, hLater⟩ | ⟨more, hChar, hLater⟩
      · rcases ih hLater with ⟨ds, es, rfl, hAfter⟩
        exact ⟨c :: ds, es, by simpa using hBefore, hAfter⟩
      · cases more with
        | nil =>
            have hNext : encode cs = [] ++ b :: after := by
              simpa using hLater.symm
            rcases ih hNext with ⟨ds, es, _, hAfter⟩
            exact ⟨[c], es, by simpa using hChar.symm, hAfter⟩
        | cons first more =>
            -- The byte is one of `c`, which it can only be alone.
            rcases List.cons.inj hLater with ⟨rfl, hAfter⟩
            have hAscii : c.toNat < 0x80 := by
              apply Nat.lt_of_not_le
              intro hNot
              have hByte : 0x80 ≤ b.toNat :=
                le_of_mem_encodeChar hNot (by simp [hChar])
              omega
            have hLength := congrArg List.length hChar
            simp only [encodeChar_of_ascii hAscii,
              List.length_append, List.length_cons,
              List.length_nil] at hLength
            have hBefore : before = [] :=
              List.eq_nil_of_length_eq_zero (by omega)
            have hMore : more = [] :=
              List.eq_nil_of_length_eq_zero (by omega)
            subst hBefore hMore
            exact ⟨[], cs, rfl, hAfter⟩

end LookingGlass.Text.Utf8
