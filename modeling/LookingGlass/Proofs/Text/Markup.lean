import LookingGlass.Text.Markup

/-
  Correctness of texts inside of markup: an escaped text holds
  none of the characters that end texts and attributes, and it
  is read back as the text that it was.

  Main declarations:
    * `unescape`
    * `not_mem_escape`
    * `unescape_escape`
-/

namespace LookingGlass.Text.Markup

/- Reads a text with its character references. -/
def unescape :
    List Char → List Char
  | '&' :: 'a' :: 'm' :: 'p' :: ';' :: rest => '&' :: unescape rest
  | '&' :: 'l' :: 't' :: ';' :: rest => '<' :: unescape rest
  | '&' :: 'g' :: 't' :: ';' :: rest => '>' :: unescape rest
  | '&' :: '#' :: '3' :: '4' :: ';' :: rest =>
    '"' :: unescape rest
  | '&' :: '#' :: '3' :: '9' :: ';' :: rest =>
    '\'' :: unescape rest
  | [] => []
  | c :: rest => c :: unescape rest

theorem unescape_cons
    {c : Char}
    (hc : c ≠ '&')
    (cs : List Char) :
    unescape (c :: cs) = c :: unescape cs := by
  rw [unescape] <;> simp [hc]

/- Whether a character is written as a reference. -/
def IsSpecial
    (c : Char) : Prop :=
  c = '&' ∨ c = '<' ∨ c = '>' ∨ c = '"' ∨ c = '\''

theorem escapeChar_of_not_isSpecial
    {c : Char}
    (hPlain : ¬ IsSpecial c) :
    escapeChar c = [c] := by
  simp only [IsSpecial, not_or] at hPlain
  simp [escapeChar, hPlain]

/- One character is read back, whatever stands behind it. -/
theorem unescape_escapeChar_append
    (c : Char)
    (cs : List Char) :
    unescape (escapeChar c ++ cs) = c :: unescape cs := by
  by_cases hSpecial : IsSpecial c
  · rcases hSpecial with rfl | rfl | rfl | rfl | rfl <;> rfl
  · rw [escapeChar_of_not_isSpecial hSpecial,
      List.singleton_append]
    exact unescape_cons (fun hc => hSpecial (Or.inl hc)) cs

/- An escaped text is read back. -/
theorem unescape_escape
    (cs : List Char) :
    unescape (cs.flatMap escapeChar) = cs := by
  induction cs with
  | nil => rfl
  | cons c cs ih =>
      rw [List.flatMap_cons, unescape_escapeChar_append, ih]

/- Of the special characters, an escaped one holds ampersands. -/
theorem eq_of_mem_escapeChar
    {c d : Char}
    (hd : d ∈ escapeChar c)
    (hSpecial : IsSpecial d) :
    d = '&' := by
  by_cases hc : IsSpecial c
  · rcases hc with rfl | rfl | rfl | rfl | rfl <;>
      revert d <;> simp [escapeChar, IsSpecial]
  · rw [escapeChar_of_not_isSpecial hc,
      List.mem_singleton] at hd
    exact absurd (hd ▸ hSpecial) hc

theorem not_mem_escape
    {d : Char}
    (hSpecial : IsSpecial d)
    (hd : d ≠ '&')
    (cs : List Char) :
    d ∉ cs.flatMap escapeChar := by
  intro hMem
  rcases List.mem_flatMap.mp hMem with ⟨c, _, hChar⟩
  exact hd (eq_of_mem_escapeChar hChar hSpecial)

end LookingGlass.Text.Markup
