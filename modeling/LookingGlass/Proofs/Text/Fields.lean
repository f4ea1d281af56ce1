import LookingGlass.Proofs.Text.Cut
import LookingGlass.Proofs.Text.Percent
import LookingGlass.Text.Fields

/-
  Correctness of form fields: fields that are written are read
  back, and it does not matter how bytes that are no UTF-8 are
  treated where there are none.

  Main declarations:
    * `write` and `read_write`
    * `form` and `read_form`
    * `read_decodeKeeping`
    * `first?_eq_none_iff`
-/

namespace LookingGlass.Text.Fields

------------------------------------------------------------
-- Writing
------------------------------------------------------------

/- Fields in writing, given how a name or value is written. -/
def write
    (part : List Char → List Char)
    (fields : Fields) : List Char :=
  ['&'].intercalate (fields.map fun field =>
    part field.1.toList ++ '=' :: part field.2.toList)

/- Fields in writing hold nothing but separators and parts. -/
theorem mem_write
    {part : List Char → List Char}
    {fields : Fields}
    {c : Char}
    (hc : c ∈ write part fields) :
    c = '&' ∨ c = '=' ∨ ∃ cs, c ∈ part cs := by
  rcases mem_intercalate hc with hAnd | ⟨whole, hWhole, hMem⟩
  · exact Or.inl hAnd
  · rcases List.mem_map.mp hWhole with ⟨field, _, rfl⟩
    rcases List.mem_append.mp hMem with hName | hRest
    · exact Or.inr (Or.inr ⟨_, hName⟩)
    · rcases List.mem_cons.mp hRest with hEquals | hValue
      · exact Or.inr (Or.inl hEquals)
      · exact Or.inr (Or.inr ⟨_, hValue⟩)

/-
  Fields are read back if their parts are, and if no part
  holds one of the two separators.
-/
theorem read_write
    {decode part : List Char → List Char}
    (hAnd : ∀ cs, '&' ∉ part cs)
    (hEquals : ∀ cs, '=' ∉ part cs)
    (hDecode : ∀ cs, decode (spaced (part cs)) = cs)
    (fields : Fields) :
    read decode (write part fields) = fields := by
  let written := fun field : String × String =>
    part field.1.toList ++ '=' :: part field.2.toList
  have hPieces (hSome : fields ≠ []) :
      pieces '&' (write part fields) = fields.map written := by
    apply pieces_intercalate (by simpa using hSome)
    intro piece hPiece
    rcases List.mem_map.mp hPiece with ⟨field, _, rfl⟩
    simp [hAnd]
  have hFull :
      (fields.map written).filter (fun piece => !piece.isEmpty) =
        fields.map written := by
    apply List.filter_eq_self.mpr
    intro piece hPiece
    rcases List.mem_map.mp hPiece with ⟨field, _, rfl⟩
    simp [written]
  have hCut (field : String × String) :
      cut '=' (written field) =
        (part field.1.toList, some (part field.2.toList)) :=
    cut_append (hEquals _) _
  by_cases hSome : fields = []
  · subst hSome
    rfl
  · rw [read, hPieces hSome, hFull, List.map_map]
    simp [Function.comp_def, hCut, hDecode]

------------------------------------------------------------
-- Spaces
------------------------------------------------------------

@[simp] theorem spaced_append_plus
    (before after : List Char) :
    spaced (before ++ '+' :: after) =
      spaced before ++ ' ' :: spaced after := by
  simp [spaced]

theorem spaced_of_not_mem
    {cs : List Char}
    (hPlus : '+' ∉ cs) :
    spaced cs = cs := by
  rw [spaced]
  conv => rhs; rw [← List.map_id cs]
  apply List.map_congr_left
  intro c hc
  have hNe : c ≠ '+' := fun hEq => hPlus (hEq ▸ hc)
  simp [hNe]

------------------------------------------------------------
-- Forms
------------------------------------------------------------

/- What a browser writes as it is in a form; spaces come last. -/
def isFormPlain
    (c : Char) : Bool :=
  Percent.keeping "* " c && c != '~'

/- A name or value as a browser writes it in a form. -/
def formPart
    (cs : List Char) : List Char :=
  (Percent.encode isFormPlain cs).map fun c =>
    if c = ' ' then '+' else c

/- Fields as a browser sends them. -/
def form
    (fields : Fields) : String :=
  String.ofList (write formPart fields)

theorem spaced_formPart
    (cs : List Char) :
    spaced (formPart cs) = Percent.encode isFormPlain cs := by
  have hPlus : '+' ∉ Percent.encode isFormPlain cs :=
    Percent.not_mem_encode (by decide) (by decide) cs
  rw [spaced, formPart, List.map_map]
  conv => rhs; rw [← spaced_of_not_mem hPlus, spaced]
  apply List.map_congr_left
  intro c _
  by_cases hSpace : c = ' ' <;> simp [hSpace]

theorem not_mem_formPart
    {sep : Char}
    (hSep : Percent.IsSeparator sep)
    (hKeep : isFormPlain sep = false)
    (hPlus : sep ≠ '+')
    (cs : List Char) :
    sep ∉ formPart cs := by
  intro hMem
  rcases List.mem_map.mp hMem with ⟨c, hc, hEq⟩
  split at hEq
  · exact hPlus hEq.symm
  · subst hEq
    exact Percent.not_mem_encode hSep hKeep cs hc

/- What a browser sends is what arrives. -/
theorem read_form
    (fields : Fields) :
    read Percent.decodeKeeping (form fields).toList = fields := by
  rw [form, String.toList_ofList]
  apply read_write
  · exact not_mem_formPart (by decide) (by decide) (by decide)
  · exact not_mem_formPart (by decide) (by decide) (by decide)
  · intro cs
    rw [spaced_formPart]
    exact Percent.decodeKeeping_encode (by decide) cs

------------------------------------------------------------
-- Broken Bytes
------------------------------------------------------------

/- A plus sign is as good as a space to escapes. -/
theorem isText_spaced
    (cs : List Char) :
    Percent.IsText cs → Percent.IsText (spaced cs) := by
  induction cs using separated_induction '+' with
  | whole cs hPlus =>
      rw [spaced_of_not_mem hPlus]
      exact id
  | apart before after hBefore ih =>
      rw [spaced_append_plus, spaced_of_not_mem hBefore,
        Percent.isText_append_separator (by decide),
        Percent.isText_append_separator (by decide)]
      exact And.imp id ih

/- Each piece of a text of fields is a text. -/
theorem isText_of_mem_pieces
    (cs : List Char) :
    Percent.IsText cs → ∀ piece ∈ pieces '&' cs,
      Percent.IsText piece := by
  induction cs using separated_induction '&' with
  | whole cs hAnd =>
      simp [pieces_of_not_mem hAnd]
  | apart before after hBefore ih =>
      rw [pieces_append hBefore,
        Percent.isText_append_separator (by decide)]
      rintro ⟨hText, hRest⟩ piece hPiece
      rcases List.mem_cons.mp hPiece with rfl | hLater
      · exact hText
      · exact ih hRest piece hLater

/-
  Where all escapes decode to UTF-8, it does not matter how
  broken bytes are read.
-/
theorem read_decodeKeeping
    {cs : List Char}
    (hText : Percent.IsText cs) :
    read Percent.decodeKeeping cs =
      read Percent.decodeLossy cs := by
  apply List.map_congr_left
  intro piece hPiece
  have hPart :=
    isText_of_mem_pieces cs hText piece
      (List.mem_filter.mp hPiece).1
  have hEmpty : Percent.IsText [] := ⟨[], rfl⟩
  rcases cut_cases '=' piece with
    ⟨_, hCut⟩ | ⟨before, after, _, rfl, hCut⟩
  · have hName := isText_spaced _ hPart
    simp [hCut, hName.decodeKeeping_eq,
      (isText_spaced _ hEmpty).decodeKeeping_eq]
  · rw [Percent.isText_append_separator (by decide)] at hPart
    have hName := isText_spaced _ hPart.1
    have hValue := isText_spaced _ hPart.2
    simp [hCut, hName.decodeKeeping_eq, hValue.decodeKeeping_eq]

------------------------------------------------------------
-- Repeated Fields
------------------------------------------------------------

/- There is a first field of a name where there is a last one. -/
theorem first?_eq_none_iff
    (fields : Fields)
    (name : String) :
    fields.first? name = none ↔ fields.last? name = none := by
  simp [first?, last?, List.lookup_eq_none_iff]

end LookingGlass.Text.Fields
