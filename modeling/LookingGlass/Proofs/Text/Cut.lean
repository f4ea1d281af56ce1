import LookingGlass.Text.Cut

/-
  Correctness of taking a text apart at a separator, and the
  induction over the parts of a text that goes with it.

  Main declarations:
    * `separated_induction`
    * `cut_append`, `cut_of_not_mem` and `cut_lead`
    * `pieces_append` and `pieces_intercalate`
    * `cut_map`, `pieces_map` and `dropLead_map`
-/

namespace LookingGlass.Text

variable {α : Type} [DecidableEq α]
variable {sep : α}
variable {before lead cs : List α}

/-
  What holds of texts without a separator, and is kept when a
  part without one is put in front, holds of every text.
-/
theorem separated_induction
    {P : List α → Prop}
    (sep : α)
    (whole : ∀ cs, sep ∉ cs → P cs)
    (apart : ∀ before after, sep ∉ before → P after →
      P (before ++ sep :: after))
    (cs : List α) :
    P cs := by
  by_cases hSep : sep ∈ cs
  · rcases List.eq_append_cons_of_mem hSep with
      ⟨before, after, hText, hBefore⟩
    have hShorter : after.length < cs.length := by
      simp only [hText, List.length_append, List.length_cons]
      omega
    rw [hText]
    exact apart before after hBefore
      (separated_induction sep whole apart after)
  · exact whole cs hSep
termination_by cs.length

------------------------------------------------------------
-- Cutting Once
------------------------------------------------------------

theorem cut_append
    (hBefore : sep ∉ before)
    (after : List α) :
    cut sep (before ++ sep :: after) = (before, some after) := by
  induction before with
  | nil => simp [cut]
  | cons c before ih =>
      simp only [List.mem_cons, not_or] at hBefore
      simp [cut, Ne.symm hBefore.1, ih hBefore.2]

theorem cut_of_not_mem
    (hSep : sep ∉ cs) :
    cut sep cs = (cs, none) := by
  induction cs with
  | nil => rfl
  | cons c cs ih =>
      simp only [List.mem_cons, not_or] at hSep
      simp [cut, Ne.symm hSep.1, ih hSep.2]

/- A lead without a separator stays with the first part. -/
theorem cut_lead
    (hLead : sep ∉ lead)
    (cs : List α) :
    cut sep (lead ++ cs) =
      (lead ++ (cut sep cs).1, (cut sep cs).2) := by
  induction lead with
  | nil => rfl
  | cons c lead ih =>
      simp only [List.mem_cons, not_or] at hLead
      simp [cut, Ne.symm hLead.1, ih hLead.2]

/-
  What is cut off is the text in front of the first separator,
  and what remains is the text behind it, if there is one.
-/
theorem cut_cases
    (sep : α)
    (cs : List α) :
    (sep ∉ cs ∧ cut sep cs = (cs, none)) ∨
      ∃ before after, sep ∉ before ∧
        cs = before ++ sep :: after ∧
        cut sep cs = (before, some after) := by
  by_cases hSep : sep ∈ cs
  · rcases List.eq_append_cons_of_mem hSep with
      ⟨before, after, rfl, hBefore⟩
    exact Or.inr
      ⟨before, after, hBefore, rfl, cut_append hBefore after⟩
  · exact Or.inl ⟨hSep, cut_of_not_mem hSep⟩

------------------------------------------------------------
-- Cutting Everywhere
------------------------------------------------------------

theorem pieces_of_not_mem
    (hSep : sep ∉ cs) :
    pieces sep cs = [cs] := by
  induction cs with
  | nil => rfl
  | cons c cs ih =>
      simp only [List.mem_cons, not_or] at hSep
      simp [pieces, Ne.symm hSep.1, ih hSep.2]

theorem pieces_append
    (hBefore : sep ∉ before)
    (after : List α) :
    pieces sep (before ++ sep :: after) =
      before :: pieces sep after := by
  induction before with
  | nil => simp [pieces]
  | cons c before ih =>
      simp only [List.mem_cons, not_or] at hBefore
      simp [pieces, Ne.symm hBefore.1, ih hBefore.2]

/- Parts that are joined by separators are found again. -/
theorem pieces_intercalate
    {parts : List (List α)}
    (hSome : parts ≠ [])
    (hParts : ∀ part ∈ parts, sep ∉ part) :
    pieces sep ([sep].intercalate parts) = parts := by
  induction parts with
  | nil => exact absurd rfl hSome
  | cons part parts ih =>
      have hPart := hParts part (by simp)
      cases parts with
      | nil => simpa using pieces_of_not_mem hPart
      | cons next parts =>
          have hJoined :
              [sep].intercalate (part :: next :: parts) =
                part ++ sep ::
                  [sep].intercalate (next :: parts) := by
            simp
          rw [hJoined, pieces_append hPart, ih (by simp)]
          intro other hOther
          exact hParts other (List.mem_cons_of_mem _ hOther)

theorem pieces_ne_nil
    (sep : α)
    (cs : List α) :
    pieces sep cs ≠ [] := by
  cases cs with
  | nil => simp [pieces]
  | cons c cs =>
      unfold pieces
      split
      · simp
      · split <;> simp

/- Nothing is lost at the separators. -/
theorem intercalate_pieces
    (sep : α)
    (cs : List α) :
    [sep].intercalate (pieces sep cs) = cs := by
  induction cs using separated_induction sep with
  | whole cs hSep =>
      rw [pieces_of_not_mem hSep]
      simp
  | apart before after hBefore ih =>
      rcases List.exists_cons_of_ne_nil (pieces_ne_nil sep after) with
        ⟨piece, others, hPieces⟩
      rw [hPieces] at ih
      rw [pieces_append hBefore, hPieces,
        List.intercalate_cons_cons, ih]
      simp

omit [DecidableEq α] in
/- What is joined holds nothing but the parts and separators. -/
theorem mem_intercalate
    {c : α}
    {parts : List (List α)}
    (hc : c ∈ [sep].intercalate parts) :
    c = sep ∨ ∃ part ∈ parts, c ∈ part := by
  induction parts with
  | nil => simp at hc
  | cons part parts ih =>
      cases parts with
      | nil => exact Or.inr ⟨part, by simp, by simpa using hc⟩
      | cons next parts =>
          simp only [List.intercalate_cons_cons, List.mem_append,
            List.mem_singleton, List.append_assoc] at hc
          rcases hc with hPart | hSep | hLater
          · exact Or.inr ⟨part, by simp, hPart⟩
          · exact Or.inl hSep
          · rcases ih hLater with hSep | ⟨other, hOther, hMem⟩
            · exact Or.inl hSep
            · exact Or.inr
                ⟨other, List.mem_cons_of_mem _ hOther, hMem⟩

/- What is cut off reaches up to the first separator. -/
theorem cut_eq_takeWhile
    (sep : α)
    (cs : List α) :
    (cut sep cs).1 = cs.takeWhile (· ≠ sep) := by
  induction cs with
  | nil => rfl
  | cons c cs ih =>
      by_cases hc : c = sep <;> simp_all [cut]

/- Only of an empty text nothing is cut off and nothing remains. -/
theorem cut_eq_empty_iff
    (sep : α)
    (cs : List α) :
    (cut sep cs).1.isEmpty ∧ (cut sep cs).2.isNone ↔ cs = [] := by
  cases cs with
  | nil => simp [cut]
  | cons c cs => by_cases hc : c = sep <;> simp [cut, hc]

------------------------------------------------------------
-- Leading Letters
------------------------------------------------------------

@[simp] theorem dropLead_cons_self
    (c : α)
    (cs : List α) :
    dropLead c (c :: cs) = cs := by
  simp [dropLead]

theorem dropAll_cons_self
    {c : α}
    (hHead : cs.head? ≠ some c) :
    dropAll c (c :: cs) = cs := by
  cases cs with
  | nil => simp [dropAll]
  | cons d cs =>
      have hNe : d ≠ c := by simpa using hHead
      simp [dropAll, hNe]

------------------------------------------------------------
-- Other Letters
------------------------------------------------------------

section Maps

variable {β : Type} [DecidableEq β]
variable {f : α → β}

/- Texts are cut in the same place in letters of another kind. -/
theorem cut_map
    (hf : ∀ c d, f c = f d → c = d)
    (sep : α)
    (cs : List α) :
    cut (f sep) (cs.map f) =
      ((cut sep cs).1.map f, (cut sep cs).2.map (List.map f)) := by
  induction cs with
  | nil => rfl
  | cons c cs ih =>
      by_cases hc : c = sep
      · simp [cut, hc]
      · have hOther : f c ≠ f sep := fun hSame => hc (hf c sep hSame)
        simp [cut, hc, hOther, ih]

theorem pieces_map
    (hf : ∀ c d, f c = f d → c = d)
    (sep : α)
    (cs : List α) :
    pieces (f sep) (cs.map f) = (pieces sep cs).map (List.map f) := by
  induction cs with
  | nil => rfl
  | cons c cs ih =>
      by_cases hc : c = sep
      · simp [pieces, hc, ih]
      · have hOther : f c ≠ f sep := fun hSame => hc (hf c sep hSame)
        rcases List.exists_cons_of_ne_nil (pieces_ne_nil sep cs) with
          ⟨piece, others, hPieces⟩
        simp [pieces, hc, hOther, ih, hPieces]

theorem dropLead_map
    (hf : ∀ c d, f c = f d → c = d)
    (lead : α)
    (cs : List α) :
    dropLead (f lead) (cs.map f) = (dropLead lead cs).map f := by
  cases cs with
  | nil => rfl
  | cons c cs =>
      by_cases hc : c = lead
      · simp [dropLead, hc]
      · have hOther : f c ≠ f lead :=
          fun hSame => hc (hf c lead hSame)
        simp [dropLead, hc, hOther]

end Maps

end LookingGlass.Text
