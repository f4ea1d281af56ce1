import LookingGlass.Directory.Options

/-
  The distinct routing instances of a directory: each instance
  that occurs in a group is there once, and nothing else.

  Main declarations:
    * `Directory.mem_distinctInstances`
    * `Directory.nodup_distinctInstances`
    * `Directory.one_lt_length_distinctInstances_iff`
-/

namespace LookingGlass

------------------------------------------------------------
-- Lists without Duplicates
------------------------------------------------------------

theorem nodup_eraseDups
    {α : Type}
    [BEq α] [LawfulBEq α]
    (xs : List α) :
    xs.eraseDups.Nodup := by
  match xs with
  | [] => simp
  | x :: rest =>
    rw [List.eraseDups_cons, List.nodup_cons]
    constructor
    · simp
    · exact nodup_eraseDups (rest.filter fun y => !y == x)
termination_by xs.length
decreasing_by exact Nat.lt_succ_of_le (List.length_filter_le ..)

theorem eraseDups_sublist
    {α : Type}
    [BEq α] [LawfulBEq α]
    (xs : List α) :
    xs.eraseDups.Sublist xs := by
  match xs with
  | [] => simp
  | x :: rest =>
    rw [List.eraseDups_cons]
    have hKept := eraseDups_sublist (rest.filter fun y => !y == x)
    exact (hKept.trans List.filter_sublist).cons_cons x
termination_by xs.length
decreasing_by exact Nat.lt_succ_of_le (List.length_filter_le ..)

/- A list without duplicates tells how many members there are. -/
theorem one_lt_length_iff_of_nodup
    {α : Type}
    {xs : List α}
    (hNodup : xs.Nodup) :
    1 < xs.length ↔ ∃ a ∈ xs, ∃ b ∈ xs, a ≠ b := by
  match xs, hNodup with
  | [], _ => simp
  | [a], _ => simp
  | a :: b :: rest, hNodup =>
    have hFirst : a ≠ b := by
      rintro rfl
      simp at hNodup
    constructor
    · intro _
      exact ⟨a, by simp, b, by simp, hFirst⟩
    · intro _
      simp

------------------------------------------------------------
-- Directories
------------------------------------------------------------

namespace Directory

variable {T : Type} [Text.Wording T]

theorem mem_distinctInstances
    {d : Directory T}
    {entry : RoutingInstance T} :
    entry ∈ d.distinctInstances ↔ entry ∈ d.instances := by
  rw [distinctInstances, List.mem_mergeSort, List.mem_eraseDups]

theorem length_distinctInstances
    (d : Directory T) :
    d.distinctInstances.length = d.instances.eraseDups.length :=
  List.length_mergeSort _

theorem nodup_distinctInstances
    (d : Directory T) :
    d.distinctInstances.Nodup :=
  (List.mergeSort_perm _ _).nodup_iff.mpr
    (nodup_eraseDups d.instances)

/- There is something to choose if two instances differ. -/
theorem one_lt_length_distinctInstances_iff
    (d : Directory T) :
    1 < d.distinctInstances.length ↔
      ∃ r ∈ d.instances, ∃ s ∈ d.instances, r ≠ s := by
  simp only [one_lt_length_iff_of_nodup d.nodup_distinctInstances,
    mem_distinctInstances]

end Directory

end LookingGlass
