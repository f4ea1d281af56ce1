import Mathlib.Data.List.Forall2

/-
  Steps that may fail: when several of them in a row succeed,
  and what remains of an outcome whose error is worded anew.

  Main declarations:
    * `bind_eq_ok_iff`
    * `mapError_eq_ok_iff`
    * `map_eq_ok_iff` and `map_eq_error_iff`
    * `mapM_eq_ok_iff` and `mapM_eq_error_iff`
    * `mapM_eq_ok_iff_map_eq`
    * `eq_mapM_of_cons`
-/

namespace LookingGlass

/- Steps in a row succeed if each of them does. -/
theorem bind_eq_ok_iff
    {ε α β : Type}
    {x : Except ε α}
    {f : α → Except ε β}
    {b : β} :
    x >>= f = .ok b ↔ ∃ a, x = .ok a ∧ f a = .ok b := by
  cases x <;> simp [bind, Except.bind]

section Errors

variable {ε ε' α : Type}
variable {f : ε → ε'}

/- A step fails if there is nothing that it gives. -/
theorem exists_error_iff_not_exists_ok
    {x : Except ε α} :
    (∃ e, x = .error e) ↔ ¬ ∃ a, x = .ok a := by
  cases x <;> simp

@[simp] theorem mapError_ok
    {a : α} :
    (Except.ok a).mapError f = .ok a :=
  rfl

@[simp] theorem mapError_error
    {e : ε} :
    (Except.error e : Except ε α).mapError f = .error (f e) :=
  rfl

theorem mapError_eq_ok_iff
    {x : Except ε α}
    {a : α} :
    x.mapError f = .ok a ↔ x = .ok a := by
  cases x <;> simp

theorem map_eq_ok_iff
    {β : Type}
    {g : α → β}
    {x : Except ε α}
    {b : β} :
    x.map g = .ok b ↔ ∃ a, x = .ok a ∧ g a = b := by
  cases x <;> simp [Except.map]

theorem map_eq_error_iff
    {β : Type}
    {g : α → β}
    {x : Except ε α}
    {e : ε} :
    x.map g = .error e ↔ x = .error e := by
  cases x <;> simp [Except.map]

end Errors

section Lists

variable {ε α β : Type}
variable {f : α → Except ε β}

theorem mapM_cons_of_ok
    {x : α}
    {y : β}
    (hRead : f x = .ok y)
    (rest : List α) :
    (x :: rest).mapM f = (rest.mapM f).map (y :: ·) := by
  rw [List.mapM_cons, hRead]
  cases rest.mapM f <;> rfl

theorem mapM_cons_of_error
    {x : α}
    {e : ε}
    (hRead : f x = .error e)
    (rest : List α) :
    (x :: rest).mapM f = .error e := by
  rw [List.mapM_cons, hRead]
  rfl

/- Entries are read one by one if each of them is. -/
theorem mapM_eq_ok_iff
    {xs : List α}
    {ys : List β} :
    xs.mapM f = .ok ys ↔
      List.Forall₂ (fun x y => f x = .ok y) xs ys := by
  induction xs generalizing ys with
  | nil => simp [pure, Except.pure, eq_comm]
  | cons x rest ih =>
      rw [List.forall₂_cons_left_iff]
      cases hRead : f x with
      | error e => simp [mapM_cons_of_error hRead]
      | ok y =>
          simp only [mapM_cons_of_ok hRead, map_eq_ok_iff, ih,
            Except.ok.injEq]
          constructor
          · rintro ⟨more, hMore, rfl⟩
            exact ⟨y, more, rfl, hMore, rfl⟩
          · rintro ⟨_, more, rfl, hMore, rfl⟩
            exact ⟨more, hMore, rfl⟩

/- The first entry that is not read decides on the error. -/
theorem mapM_eq_error_iff
    {xs : List α}
    {e : ε} :
    xs.mapM f = .error e ↔
      ∃ before x after, xs = before ++ x :: after ∧
        (∀ earlier ∈ before, ∃ y, f earlier = .ok y) ∧
        f x = .error e := by
  induction xs with
  | nil => simp [pure, Except.pure]
  | cons x rest ih =>
      constructor
      · intro hError
        cases hRead : f x with
        | error fault =>
            rw [mapM_cons_of_error hRead] at hError
            cases hError
            exact ⟨[], x, rest, rfl, by simp, hRead⟩
        | ok y =>
            rw [mapM_cons_of_ok hRead, map_eq_error_iff] at hError
            rcases ih.mp hError with
              ⟨before, other, after, rfl, hBefore, hOther⟩
            exact ⟨x :: before, other, after, rfl,
              List.forall_mem_cons.mpr ⟨⟨y, hRead⟩, hBefore⟩, hOther⟩
      · rintro ⟨before, other, after, hSplit, hBefore, hOther⟩
        cases before with
        | nil =>
            cases hSplit
            exact mapM_cons_of_error hOther rest
        | cons first more =>
            cases hSplit
            rcases List.forall_mem_cons.mp hBefore with
              ⟨⟨y, hRead⟩, hMore⟩
            rw [mapM_cons_of_ok hRead, map_eq_error_iff, ih]
            exact ⟨more, other, after, rfl, hMore, hOther⟩

theorem exists_mapM_eq_ok_iff
    {xs : List α} :
    (∃ ys, xs.mapM f = .ok ys) ↔
      ∀ x ∈ xs, ∃ y, f x = .ok y := by
  induction xs with
  | nil => simp [pure, Except.pure]
  | cons x rest ih =>
      rw [List.forall_mem_cons, ← ih]
      cases hRead : f x with
      | error e => simp [mapM_cons_of_error hRead]
      | ok y => simp [mapM_cons_of_ok hRead, map_eq_ok_iff]

/-
  Entries that each are the written form of what is read of them
  are together the written form of what is read.
-/
theorem mapM_eq_ok_iff_map_eq
    {write : β → α}
    (hRead : ∀ x y, f x = .ok y ↔ write y = x)
    {xs : List α}
    {ys : List β} :
    xs.mapM f = .ok ys ↔ ys.map write = xs := by
  simp only [mapM_eq_ok_iff, hRead]
  rw [eq_comm, ← List.forall₂_eq_eq_eq, List.forall₂_map_right_iff]
  simp only [eq_comm]

/- A recursion that reads a list from its front on is a `mapM`. -/
theorem eq_mapM_of_cons
    {g : List α → Except ε (List β)}
    (hNil : g [] = .ok [])
    (hCons : ∀ x rest,
      g (x :: rest) = f x >>= fun y => (g rest).map (y :: ·))
    (xs : List α) :
    g xs = xs.mapM f := by
  induction xs with
  | nil => exact hNil
  | cons x rest ih =>
      rw [hCons, ih]
      cases hRead : f x with
      | error e => exact (mapM_cons_of_error hRead rest).symm
      | ok y => exact (mapM_cons_of_ok hRead rest).symm

end Lists

end LookingGlass
