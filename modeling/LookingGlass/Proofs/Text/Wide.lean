import LookingGlass.Text.Wide
import Mathlib.Order.Defs.LinearOrder

/-
  Wide texts: their order is a linear one, and among them the
  texts of characters are those in which no half of a pair
  stands alone.

  Main declarations:
    * `Wide.values_injective` and the order of `Wide`
    * `Wide.HoldsHalf` and `Wide.firstHalf`
    * `Wide.string?_eq_some_iff` and `Wide.string?_eq_none_iff`
    * `Wide.spell_ofString` and `Wide.spell_of_holdsHalf`
    * `Wide.holdsHalf_append`
    * `Wording.wide_eq_iff`
-/

namespace LookingGlass.Text

------------------------------------------------------------
-- Order
------------------------------------------------------------

namespace Wide

theorem values_injective
    {v w : Wide}
    (h : v.values = w.values) : v = w := by
  have hPoints := (List.map_inj_right fun _ _ hValue =>
    Point.value_injective hValue).mp h
  cases v
  cases w
  simp_all

/- Texts are compared by code points, the first ones first. -/
instance : LinearOrder Wide where
  le_refl := fun v => List.lt_irrefl v.values
  le_trans := fun _ _ _ hFirst hSecond hLess =>
    List.le_trans (List.not_lt.mp hFirst) (List.not_lt.mp hSecond)
      hLess
  le_antisymm := fun _ _ hFirst hSecond =>
    values_injective (List.le_antisymm (List.not_lt.mp hFirst)
      (List.not_lt.mp hSecond))
  le_total := fun v w => by
    rcases List.le_total v.values w.values with hLess | hGreater
    · exact .inl (List.not_lt.mpr hLess)
    · exact .inr (List.not_lt.mpr hGreater)
  lt_iff_le_not_ge := fun v w => by
    constructor
    · intro hLess
      exact ⟨fun hBack => List.lt_asymm hLess hBack,
        fun hGreater => hGreater hLess⟩
    · intro hBoth
      exact Decidable.not_not.mp hBoth.2
  toDecidableLE := inferInstance
  toDecidableEq := inferInstance
  toDecidableLT := inferInstance

------------------------------------------------------------
-- Lone Halves
------------------------------------------------------------

/- The text of one half, the first one of all. -/
def firstHalf : Wide :=
  ⟨[.half ⟨0, Nat.zero_lt_succ 2047⟩]⟩

/- Whether half of a pair stands alone in a text. -/
def HoldsHalf
    (w : Wide) : Prop :=
  ∃ n, Point.half n ∈ w.points

theorem holdsHalf_firstHalf :
    firstHalf.HoldsHalf :=
  ⟨_, List.mem_singleton_self _⟩

theorem points_ofString
    (s : String) :
    (ofString s).points = s.toList.map .scalar :=
  rfl

theorem mapM_char?_eq_some_iff
    {ps : List Point}
    {cs : List Char} :
    ps.mapM Point.char? = some cs ↔ ps = cs.map .scalar := by
  induction ps generalizing cs with
  | nil => simp [eq_comm]
  | cons p ps ih =>
      cases p with
      | half n =>
          cases cs <;> simp [Point.char?]
      | scalar c =>
          cases cs with
          | nil => simp [Point.char?, Option.bind_eq_some_iff]
          | cons d cs =>
              simp only [List.mapM_cons, Point.char?, ih,
                Option.bind_eq_bind, Option.bind_some,
                Option.bind_eq_some_iff, Option.pure_def,
                Option.some.injEq, List.cons.injEq, List.map_cons,
                Point.scalar.injEq]
              constructor
              · rintro ⟨_, hRest, rfl, rfl⟩
                exact ⟨rfl, hRest⟩
              · rintro ⟨rfl, hRest⟩
                exact ⟨cs, hRest, rfl, rfl⟩

theorem string?_eq_some_iff
    {w : Wide}
    {s : String} :
    w.string? = some s ↔ w = ofString s := by
  rw [string?, Option.map_eq_some_iff]
  constructor
  · intro hRead
    rcases hRead with ⟨cs, hCs, rfl⟩
    cases w
    simpa [ofString] using mapM_char?_eq_some_iff.mp hCs
  · intro hSame
    subst hSame
    refine ⟨s.toList, ?_, String.ofList_toList⟩
    rw [mapM_char?_eq_some_iff, points_ofString]

theorem not_holdsHalf_ofString
    (s : String) :
    ¬ (ofString s).HoldsHalf := by
  rintro ⟨n, hMem⟩
  rw [points_ofString] at hMem
  simp at hMem

/- A text in which no half stands alone is one of characters. -/
theorem exists_eq_ofString
    {w : Wide}
    (hWhole : ¬ w.HoldsHalf) :
    ∃ s, w = ofString s := by
  have hScalars : ∀ ps : List Point, (∀ n, Point.half n ∉ ps) →
      ∃ cs : List Char, ps = cs.map .scalar := by
    intro ps hNone
    induction ps with
    | nil => exact ⟨[], rfl⟩
    | cons p ps ih =>
        cases p with
        | half n => exact absurd List.mem_cons_self (hNone n)
        | scalar c =>
            have hRest (n : Fin 2048) : Point.half n ∉ ps := by
              intro hMem
              exact hNone n (List.mem_cons_of_mem _ hMem)
            rcases ih hRest with ⟨cs, rfl⟩
            exact ⟨c :: cs, rfl⟩
  rcases hScalars w.points (fun n hMem => hWhole ⟨n, hMem⟩) with
    ⟨cs, hCs⟩
  refine ⟨String.ofList cs, ?_⟩
  cases w
  simpa [ofString] using hCs

theorem string?_eq_none_iff
    {w : Wide} :
    w.string? = none ↔ w.HoldsHalf := by
  constructor
  · intro hNone
    by_contra hWhole
    rcases exists_eq_ofString hWhole with ⟨s, hText⟩
    rw [hText, string?_ofString] at hNone
    cases hNone
  · intro hHalf
    rw [Option.eq_none_iff_forall_ne_some]
    intro s hSome
    rw [string?_eq_some_iff.mp hSome] at hHalf
    exact not_holdsHalf_ofString s hHalf

instance
    (w : Wide) : Decidable w.HoldsHalf :=
  decidable_of_iff _ string?_eq_none_iff

@[simp] theorem spell_ofString
    (s : String) :
    (ofString s).spell = .ok s := by
  rw [spell, string?_ofString]

theorem spell_of_holdsHalf
    {w : Wide}
    (hHalf : w.HoldsHalf) :
    w.spell = .error w.fault := by
  rw [spell, string?_eq_none_iff.mpr hHalf]

theorem holdsHalf_append
    {v w : Wide} :
    (v ++ w).HoldsHalf ↔ v.HoldsHalf ∨ w.HoldsHalf := by
  have hPoints : (v ++ w).points = v.points ++ w.points := rfl
  simp only [HoldsHalf, hPoints, List.mem_append, exists_or]

end Wide

------------------------------------------------------------
-- Kinds of texts
------------------------------------------------------------

namespace Wording

variable {T : Type} [Wording T]

theorem wide_eq_iff
    {a b : T} :
    wide a = wide b ↔ a = b := by
  constructor
  · intro hWide
    exact wide_injective hWide
  · intro hSame
    rw [hSame]

end Wording

end LookingGlass.Text
