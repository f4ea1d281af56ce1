import LookingGlass.Json.Table

/-
  The names of a table: setting values never loses one of them
  or changes their order, and whatever is new comes last.

  Main declarations:
    * `Table.keys`
    * `Table.keys_put` and `Table.keys_putAll`
    * `Table.isSome_get?_iff`
-/

namespace LookingGlass.Json.Table

/- The names of a table, in order. -/
def keys
    (table : Table) : List Key :=
  table.map Prod.fst

/- A value is set under a name that is there, or behind all. -/
theorem keys_put
    (key : Key)
    (value : Value)
    (table : Table) :
    keys table <+: keys (put key value table) := by
  induction table with
  | nil => exact List.nil_prefix
  | cons entry rest ih =>
      unfold put
      split
      case isTrue => exact List.prefix_rfl
      case isFalse => exact List.cons_prefix_cons.mpr ⟨rfl, ih⟩

theorem keys_putAll
    (table : Table)
    (pairs : List (Key × Value)) :
    keys table <+: keys (putAll table pairs) := by
  induction pairs generalizing table with
  | nil => exact List.prefix_rfl
  | cons pair rest ih =>
      have hFirst := keys_put pair.1 pair.2 table
      exact hFirst.trans (ih (put pair.1 pair.2 table))

/- There is a value under the texts that are names. -/
theorem isSome_get?_iff
    {table : Table}
    {name : String} :
    (get? table name).isSome = true ↔ .text name ∈ keys table := by
  induction table with
  | nil => simp [get?, keys]
  | cons entry rest ih =>
      rcases entry with ⟨key, value⟩
      unfold get? keys at *
      rw [List.lookup_cons, List.map_cons, List.mem_cons]
      by_cases hKey : Key.text name = key
      · simp [hKey]
      · have hOther : (Key.text name == key) = false := by
          simpa using hKey
        rw [hOther]
        simp only [hKey, false_or]
        exact ih

end LookingGlass.Json.Table
