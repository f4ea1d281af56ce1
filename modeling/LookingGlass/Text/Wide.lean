import LookingGlass.Text.Quoted

/-
  This file defines wide texts. Their code points need not be
  characters: half of a surrogate pair may stand alone.

  A document can name such a half, so a name that comes from
  one is wide. No encoding writes it, so what is printed or
  sent consists of characters.

  Key definitions include:
    * `Point`
    * `Point.value`
    * `Point.ofNat`
    * `Wide`
    * `Wide.ofString`
    * `Wide.string?`
    * `Wide.quoted`
    * `Wide.Fault`
    * `Wide.spell`
    * `Wording`
-/

namespace LookingGlass.Text

------------------------------------------------------------
-- Code points
------------------------------------------------------------

/- A code point: a character, or half of a surrogate pair. -/
inductive Point
  | scalar (c : Char)
  | half (n : Fin 2048)
deriving DecidableEq, Repr

namespace Point

/- The number of a code point. -/
def value :
    Point → Nat
  | .scalar c => c.toNat
  | .half n => 0xD800 + n.val

/- The code point of a number that is not too great for one. -/
def ofNat
    (v : Nat) : Point :=
  if h : 0xD800 ≤ v ∧ v < 0xE000 then .half ⟨v - 0xD800, by omega⟩
  else .scalar (Char.ofNat v)

/- The character of a code point that is one. -/
def char? :
    Point → Option Char
  | .scalar c => some c
  | .half _ => none

theorem value_injective
    {p q : Point}
    (h : p.value = q.value) : p = q := by
  cases p with
  | scalar c =>
    cases q with
    | scalar d => rw [Char.toNat_inj.mp h]
    | half n =>
      have hc := c.valid
      simp only [value, Char.toNat] at h
      simp only [UInt32.isValidChar, Nat.isValidChar] at hc
      omega
  | half m =>
    cases q with
    | scalar d =>
      have hd := d.valid
      simp only [value, Char.toNat] at h
      simp only [UInt32.isValidChar, Nat.isValidChar] at hd
      omega
    | half n =>
      simp only [value] at h
      rw [Fin.ext (Nat.add_left_cancel h)]

end Point

------------------------------------------------------------
-- Wide texts
------------------------------------------------------------

/- A text of code points. -/
structure Wide where
  points : List Point
deriving DecidableEq, Repr, Inhabited

namespace Wide

/- A text of characters as a wide one. -/
def ofString
    (s : String) : Wide :=
  ⟨s.toList.map .scalar⟩

instance : Coe String Wide := ⟨ofString⟩

/- The text of characters that a wide text is, if it is one. -/
def string?
    (w : Wide) : Option String :=
  (w.points.mapM Point.char?).map String.ofList

/- Whether a text is empty. -/
def isEmpty
    (w : Wide) : Bool :=
  w.points.isEmpty

/- The texts of the single code points of a text. -/
def letters
    (w : Wide) : List Wide :=
  w.points.map fun p => ⟨[p]⟩

/- The numbers of the code points of a text. -/
def values
    (w : Wide) : List Nat :=
  w.points.map Point.value

/- The quoted form of a text. -/
def quoted
    (w : Wide) : String :=
  quotedPoints w.values

instance : Append Wide := ⟨fun a b => ⟨a.points ++ b.points⟩⟩

/- Texts in a row with a mark between two of them. -/
def joined
    (mark : Char)
    (texts : List Wide) : Wide :=
  ⟨[Point.scalar mark].intercalate (texts.map Wide.points)⟩

/- Texts are in the order of their code points. -/
instance : LT Wide := ⟨fun a b => a.values < b.values⟩

instance : DecidableLT Wide :=
  fun a b => inferInstanceAs (Decidable (a.values < b.values))

instance : LE Wide := ⟨fun a b => ¬ b < a⟩

instance : DecidableLE Wide :=
  fun a b => inferInstanceAs (Decidable (¬ b < a))

theorem ofString_injective
    {s t : String}
    (h : ofString s = ofString t) : s = t := by
  have hPoints := congrArg Wide.points h
  have hLists := List.map_inj_right
    (fun _ _ hScalar => Point.scalar.inj hScalar) |>.mp hPoints
  exact String.toList_inj.mp hLists

theorem string?_ofString
    (s : String) : (ofString s).string? = some s := by
  have hPoints : ∀ cs : List Char,
      (cs.map Point.scalar).mapM Point.char? = some cs := by
    intro cs
    induction cs with
    | nil => rfl
    | cons c cs ih => simp [ih, Point.char?]
  simp [string?, ofString, hPoints]

------------------------------------------------------------
-- Spelling
------------------------------------------------------------

/-
  Why a text cannot be written in UTF-8: the first halves of
  pairs in it that stand alone, and where they stand.
-/
structure Fault where
  position : Nat
  halves : List Point
deriving DecidableEq, Repr

/- The wording of a fault. -/
def Fault.message
    (fault : Fault) : String :=
  let what :=
    match fault.halves with
    | [half] =>
      "character '" ++ String.ofList (Quoted.escaped half.value) ++
        s!"' in position {fault.position}"
    | halves =>
      s!"characters in position {fault.position}-" ++
        toString (fault.position + halves.length - 1)
  s!"'utf-8' codec can't encode {what}: surrogates not allowed"

/- The first halves of pairs that stand alone in a text. -/
def fault
    (w : Wide) : Fault :=
  let before := w.points.takeWhile fun p => p.char?.isSome
  let halves := w.points.drop before.length
  { position := before.length
    halves := halves.takeWhile fun p => p.char?.isNone }

/- The text of characters that a wide text is, or a fault. -/
def spell
    (w : Wide) : Except Fault String :=
  match w.string? with
  | some s => .ok s
  | none => .error w.fault

end Wide

------------------------------------------------------------
-- Kinds of texts
------------------------------------------------------------

/-
  A kind of texts in which names are kept: texts of characters,
  or wide ones. Names are told apart and ordered as wide texts.
-/
class Wording (T : Type) where
  wide : T → Wide
  ofString : String → T
  append : T → T → T
  decEq : DecidableEq T
  wide_injective : ∀ {a b : T}, wide a = wide b → a = b
  wide_ofString : ∀ s, wide (ofString s) = Wide.ofString s
  wide_append : ∀ a b, wide (append a b) = wide a ++ wide b

namespace Wording

instance (priority := low) {T : Type} [Wording T] : DecidableEq T :=
  decEq

instance : Wording String where
  wide := Wide.ofString
  ofString := fun s => s
  append := fun s t => s ++ t
  decEq := inferInstance
  wide_injective := Wide.ofString_injective
  wide_ofString := fun _ => rfl
  wide_append := fun s t =>
    congrArg Wide.mk (by simp [Wide.ofString])

instance : Wording Wide where
  wide := fun w => w
  ofString := Wide.ofString
  append := fun v w => v ++ w
  decEq := inferInstance
  wide_injective := fun h => h
  wide_ofString := fun _ => rfl
  wide_append := fun _ _ => rfl

/- The text of characters that a text is, if it is one. -/
def string?
    {T : Type}
    [Wording T]
    (t : T) : Option String :=
  (wide t).string?

/- The quoted form of a text. -/
def quoted
    {T : Type}
    [Wording T]
    (t : T) : String :=
  (wide t).quoted

@[simp] theorem string?_ofString
    {T : Type}
    [Wording T]
    (s : String) : string? (ofString s : T) = some s := by
  unfold string?
  rw [wide_ofString]
  exact Wide.string?_ofString s

@[simp] theorem wide_string
    (s : String) : wide s = Wide.ofString s :=
  rfl

@[simp] theorem ofString_string
    (s : String) : (ofString s : String) = s :=
  rfl

@[simp] theorem append_string
    (s t : String) : append s t = s ++ t :=
  rfl

@[simp] theorem string?_string
    (s : String) : string? s = some s :=
  Wide.string?_ofString s

end Wording

end LookingGlass.Text
