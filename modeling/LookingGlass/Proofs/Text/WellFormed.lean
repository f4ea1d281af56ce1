import LookingGlass.Proofs.Text.Utf8

/-
  Bytes that are well-formed: where nothing but characters is
  read, the bytes are those of these characters. Overlong forms,
  surrogates and values past the last code point are kept out
  by the range of the second byte.

  Main declarations:
    * `Pending.IsSound` and `Pending.IsSound.next`
    * `opening_cases`
    * `exists_encode_of_chunks`
-/

namespace LookingGlass.Text.Utf8

------------------------------------------------------------
-- Parts of Characters
------------------------------------------------------------

theorem toNat_ofNat
    {v : Nat}
    (hv : v < 0xD800 ∨ 0xDFFF < v ∧ v < 0x110000) :
    (Char.ofNat v).toNat = v := by
  have hValid : v.isValidChar := hv
  rw [Char.ofNat, dif_pos hValid]
  rfl

theorem toUInt8_eq
    {b : UInt8}
    {n : Nat}
    (hn : n = b.toNat) :
    n.toUInt8 = b := by
  rw [hn]
  exact UInt8.ofNat_toNat

/- The value of a character in parts, with one byte more. -/
def grown
    (value : Nat)
    (b : UInt8) : Nat :=
  value * 0x40 + (b.toNat - 0x80)

/-
  Whether a pending character is on its way to one: whichever
  bytes it goes on with are the last ones of a character.
-/
def Pending.IsSound
    (p : Pending) : Prop :=
  ∀ b bs, bs.length = p.more → p.low ≤ b.toNat → b.toNat ≤ p.high →
    (∀ d ∈ bs, 0x80 ≤ d.toNat ∧ d.toNat ≤ 0xBF) →
    encodeChar (Char.ofNat ((b :: bs).foldl grown p.value)) =
      p.bytes ++ b :: bs

theorem isSound_two
    {b : UInt8}
    (hLow : 0xC2 ≤ b.toNat)
    (hHigh : b.toNat < 0xE0) :
    Pending.IsSound ⟨[b], b.toNat - 0xC0, 0, 0x80, 0xBF⟩ := by
  intro d ds hLength hFirst hLast _
  dsimp only at *
  rw [List.length_eq_zero_iff] at hLength
  subst hLength
  have hv :
      [d].foldl grown (b.toNat - 0xC0) =
        (b.toNat - 0xC0) * 0x40 + (d.toNat - 0x80) :=
    rfl
  generalize [d].foldl grown (b.toNat - 0xC0) = v at *
  have hb : 0xC0 + v / 0x40 = b.toNat := by omega
  have hd : 0x80 + v % 0x40 = d.toNat := by omega
  simp only [encodeChar, toNat_ofNat (Or.inl (by omega : v < 0xD800))]
  rw [if_neg (by omega), if_pos (by omega), toUInt8_eq hb,
    toUInt8_eq hd]
  rfl

theorem isSound_three
    {b : UInt8}
    (hLow : 0xE0 ≤ b.toNat)
    (hHigh : b.toNat < 0xF0) :
    Pending.IsSound
      ⟨[b], b.toNat - 0xE0, 1,
        if b.toNat = 0xE0 then 0xA0 else 0x80,
        if b.toNat = 0xED then 0x9F else 0xBF⟩ := by
  intro d ds hLength hFirst hLast hMore
  dsimp only at *
  rcases List.length_eq_one_iff.mp hLength with ⟨e, rfl⟩
  have he := hMore e (List.mem_singleton_self e)
  have hOverlong : b.toNat = 0xE0 → 0xA0 ≤ d.toNat := by
    intro hb
    rwa [if_pos hb] at hFirst
  have hSurrogate : b.toNat = 0xED → d.toNat ≤ 0x9F := by
    intro hb
    rwa [if_pos hb] at hLast
  have hd : 0x80 ≤ d.toNat ∧ d.toNat ≤ 0xBF := by
    constructor
    · split at hFirst <;> omega
    · split at hLast <;> omega
  clear hFirst hLast hMore
  have hv :
      [d, e].foldl grown (b.toNat - 0xE0) =
        ((b.toNat - 0xE0) * 0x40 + (d.toNat - 0x80)) * 0x40 +
          (e.toNat - 0x80) :=
    rfl
  generalize [d, e].foldl grown (b.toNat - 0xE0) = v at *
  have hValid : v < 0xD800 ∨ 0xDFFF < v ∧ v < 0x110000 := by omega
  have hBytes :
      0xE0 + v / 0x1000 = b.toNat ∧
        0x80 + v / 0x40 % 0x40 = d.toNat ∧
        0x80 + v % 0x40 = e.toNat := by
    omega
  rcases hBytes with ⟨hb, hSecond, hThird⟩
  simp only [encodeChar, toNat_ofNat hValid]
  rw [if_neg (by omega), if_neg (by omega), if_pos (by omega),
    toUInt8_eq hb, toUInt8_eq hSecond, toUInt8_eq hThird]
  rfl

theorem isSound_four
    {b : UInt8}
    (hLow : 0xF0 ≤ b.toNat)
    (hHigh : b.toNat < 0xF5) :
    Pending.IsSound
      ⟨[b], b.toNat - 0xF0, 2,
        if b.toNat = 0xF0 then 0x90 else 0x80,
        if b.toNat = 0xF4 then 0x8F else 0xBF⟩ := by
  intro d ds hLength hFirst hLast hMore
  dsimp only at *
  match ds, hLength with
  | [e, f], _ =>
    have he := hMore e (by simp)
    have hf := hMore f (by simp)
    have hOverlong : b.toNat = 0xF0 → 0x90 ≤ d.toNat := by
      intro hb
      rwa [if_pos hb] at hFirst
    have hGreatest : b.toNat = 0xF4 → d.toNat ≤ 0x8F := by
      intro hb
      rwa [if_pos hb] at hLast
    have hd : 0x80 ≤ d.toNat ∧ d.toNat ≤ 0xBF := by
      constructor
      · split at hFirst <;> omega
      · split at hLast <;> omega
    clear hFirst hLast hMore
    have hv :
        [d, e, f].foldl grown (b.toNat - 0xF0) =
          (((b.toNat - 0xF0) * 0x40 + (d.toNat - 0x80)) * 0x40 +
            (e.toNat - 0x80)) * 0x40 + (f.toNat - 0x80) :=
      rfl
    generalize [d, e, f].foldl grown (b.toNat - 0xF0) = v at *
    have hValid : v < 0xD800 ∨ 0xDFFF < v ∧ v < 0x110000 := by omega
    have hBytes :
        0xF0 + v / 0x40000 = b.toNat ∧
          0x80 + v / 0x1000 % 0x40 = d.toNat ∧
          0x80 + v / 0x40 % 0x40 = e.toNat ∧
          0x80 + v % 0x40 = f.toNat := by
      omega
    rcases hBytes with ⟨hb, hSecond, hThird, hFourth⟩
    simp only [encodeChar, toNat_ofNat hValid]
    rw [if_neg (by omega), if_neg (by omega), if_neg (by omega),
      toUInt8_eq hb, toUInt8_eq hSecond, toUInt8_eq hThird,
      toUInt8_eq hFourth]
    rfl

/-
  What the first byte of a character opens: the character at
  once, a sound part of one, or nothing of any.
-/
theorem opening_cases
    (b : UInt8) :
    (∃ c, opening b = ([.scalar c], none) ∧ encodeChar c = [b]) ∨
      (∃ p, opening b = ([], some p) ∧ p.bytes = [b] ∧ p.IsSound) ∨
      ∃ bs fault, opening b = ([.broken bs fault], none) := by
  have hByte : b.toNat < 0x100 := UInt8.toNat_lt b
  unfold opening
  dsimp only
  split
  case isTrue hOne =>
    left
    refine ⟨_, rfl, ?_⟩
    rw [encodeChar_of_ascii, toNat_ofNat (Or.inl (by omega)),
      toUInt8_eq rfl]
    rwa [toNat_ofNat (Or.inl (by omega))]
  case isFalse =>
  split
  case isTrue => exact .inr (.inr ⟨_, _, rfl⟩)
  case isFalse hTwo =>
  split
  case isTrue hThree =>
    exact .inr (.inl ⟨_, rfl, rfl, isSound_two (by omega) hThree⟩)
  case isFalse hThree =>
  split
  case isTrue hFour =>
    exact .inr (.inl ⟨_, rfl, rfl, isSound_three (by omega) hFour⟩)
  case isFalse hFour =>
  split
  case isTrue hGreat =>
    exact .inr (.inl ⟨_, rfl, rfl, isSound_four (by omega) hGreat⟩)
  case isFalse => exact .inr (.inr ⟨_, _, rfl⟩)

/- With a byte that it may go on with, a part stays sound. -/
theorem Pending.IsSound.next
    {p : Pending}
    (hp : p.IsSound)
    {b : UInt8}
    (hRange : p.low ≤ b.toNat ∧ b.toNat ≤ p.high)
    {more : Nat}
    (hMore : p.more = more + 1) :
    Pending.IsSound
      ⟨p.bytes ++ [b], grown p.value b, more, 0x80, 0xBF⟩ := by
  intro d ds hLength hLow hHigh hRest
  have hAll := hp b (d :: ds) (by rw [List.length_cons, hLength, hMore])
    hRange.1 hRange.2 (List.forall_mem_cons.mpr ⟨⟨hLow, hHigh⟩, hRest⟩)
  rw [List.foldl_cons] at hAll
  rw [List.append_assoc]
  exact hAll

------------------------------------------------------------
-- Chunks
------------------------------------------------------------

/- Whether a chunk is a character. -/
def Chunk.IsScalar
    (chunk : Chunk) : Prop :=
  ∃ c, chunk = .scalar c

/- The bytes that are pending. -/
def pendingBytes
    (pending : Option Pending) : List UInt8 :=
  (pending.map Pending.bytes).getD []

/-
  Bytes of which only characters are read are those of a text.
  By induction on them: what is pending stays sound, and once it
  is complete, it is a character that has just these bytes.
-/
theorem exists_encode_of_chunksFrom
    {pending : Option Pending}
    {bs : List UInt8}
    (hSound : ∀ p, pending = some p → p.IsSound)
    (hScalar : ∀ chunk ∈ chunksFrom pending bs, chunk.IsScalar) :
    ∃ cs, pendingBytes pending ++ bs = encode cs := by
  induction bs generalizing pending with
  | nil =>
      cases pending with
      | none => exact ⟨[], rfl⟩
      | some p =>
          rcases hScalar (.broken p.bytes .ended)
            (List.mem_singleton_self _) with ⟨c, hBroken⟩
          cases hBroken
  | cons b bs ih =>
      rw [chunksFrom] at hScalar
      have hRest :
          ∀ chunk ∈ chunksFrom (step pending b).2 bs,
            chunk.IsScalar := by
        intro chunk hChunk
        exact hScalar chunk (List.mem_append_right _ hChunk)
      have hFirst :
          ∀ chunk ∈ (step pending b).1, chunk.IsScalar := by
        intro chunk hChunk
        exact hScalar chunk (List.mem_append_left _ hChunk)
      cases pending with
      | none =>
          simp only [step] at hFirst hRest
          rcases opening_cases b with
            ⟨c, hOpen, hChar⟩ | ⟨p, hOpen, hBytes, hp⟩ |
              ⟨broken, fault, hOpen⟩
          · rw [hOpen] at hRest
            rcases ih (by simp) hRest with ⟨cs, hcs⟩
            refine ⟨c :: cs, ?_⟩
            rw [encode_cons, hChar, ← hcs]
            rfl
          · rw [hOpen] at hRest
            rcases ih (by simpa using hp) hRest with ⟨cs, hcs⟩
            refine ⟨cs, ?_⟩
            rw [← hcs]
            simp [pendingBytes, hBytes]
          · rw [hOpen] at hFirst
            rcases hFirst _ (List.mem_singleton_self _) with ⟨c, hc⟩
            cases hc
      | some p =>
          have hp := hSound p rfl
          simp only [step] at hFirst hRest
          split at hFirst
          case isFalse =>
            rcases hFirst _ List.mem_cons_self with ⟨c, hc⟩
            cases hc
          case isTrue hRange =>
            rw [if_pos hRange] at hRest
            cases hMore : p.more with
            | zero =>
                simp only [hMore] at hRest
                rcases ih (by simp) hRest with ⟨cs, hcs⟩
                have hChar := hp b [] hMore.symm hRange.1 hRange.2
                  (by simp)
                refine
                  ⟨Char.ofNat ([b].foldl grown p.value) :: cs, ?_⟩
                rw [encode_cons, hChar, ← hcs]
                simp [pendingBytes]
            | succ more =>
                simp only [hMore] at hRest
                have hNext := hp.next hRange hMore
                have hValue :
                    grown p.value b =
                      p.value * 0x40 + (b.toNat - 0x80) :=
                  rfl
                rw [hValue] at hNext
                rcases ih (fun q hq => Option.some.inj hq ▸ hNext)
                  hRest with ⟨cs, hcs⟩
                refine ⟨cs, ?_⟩
                rw [← hcs]
                simp [pendingBytes]

/- So bytes that are read as characters are those of a text. -/
theorem exists_encode_of_chunks
    {bs : List UInt8}
    (hScalar : ∀ chunk ∈ chunks bs, chunk.IsScalar) :
    ∃ cs, bs = encode cs :=
  exists_encode_of_chunksFrom (by simp) hScalar

end LookingGlass.Text.Utf8
