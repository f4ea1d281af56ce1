import LookingGlass.Proofs.Form.Choice
import LookingGlass.Proofs.Text.Wide
import Mathlib.Order.Basic

/-
  The order of routing instances, and the list of a directory in
  this order: it is the one strictly increasing list of the
  instances that occur in the groups. What a form offers of them
  therefore depends on the set of the instances only, and not on
  how they are grouped, ordered or repeated. Names may be texts
  of any kind.

  Main declarations:
    * `RoutingInstance.Before` and `RoutingInstance.before_iff`
    * `Directory.Lists`
    * `Directory.pairwise_distinctInstances`
    * `Directory.distinctInstances_eq_of_lists`
    * `Directory.instances_are_canonical`
-/

namespace LookingGlass

open LookingGlass.Text (Wording)

variable {T : Type} [Wording T]

------------------------------------------------------------
-- Order
------------------------------------------------------------

namespace RoutingInstance

/-
  Whether a name comes before another one: names are compared by
  code points, and no name comes after all of them. The empty
  name is a name.
-/
def NameBefore :
    Option T → Option T → Prop
  | some m, some n => Wording.wide m < Wording.wide n
  | some _, none => True
  | none, _ => False

/- Whether an instance comes before another one. -/
def Before
    (r s : RoutingInstance T) : Prop :=
  Wording.wide r.rd < Wording.wide s.rd ∨
    r.rd = s.rd ∧ NameBefore r.name s.name

theorem NameBefore.irrefl
    (name : Option T) :
    ¬ NameBefore name name := by
  cases name with
  | none => exact id
  | some m => exact lt_irrefl (Wording.wide m)

theorem NameBefore.trans
    {a b c : Option T}
    (hFirst : NameBefore a b)
    (hSecond : NameBefore b c) :
    NameBefore a c := by
  cases a with
  | none => exact hFirst.elim
  | some m =>
      cases c with
      | none => trivial
      | some k =>
          cases b with
          | none => exact hSecond.elim
          | some n => exact lt_trans hFirst hSecond

theorem NameBefore.trichotomy
    (a b : Option T) :
    NameBefore a b ∨ a = b ∨ NameBefore b a := by
  cases a with
  | none =>
      cases b with
      | none => exact Or.inr (Or.inl rfl)
      | some n => exact Or.inr (Or.inr trivial)
  | some m =>
      cases b with
      | none => exact Or.inl trivial
      | some n =>
          rcases lt_trichotomy (Wording.wide m) (Wording.wide n) with
            hLess | hSame | hGreater
          · exact Or.inl hLess
          · rw [Wording.wide_injective hSame]
            exact Or.inr (Or.inl rfl)
          · exact Or.inr (Or.inr hGreater)

theorem Before.irrefl
    (r : RoutingInstance T) :
    ¬ Before r r := by
  rintro (hLess | ⟨_, hName⟩)
  · exact lt_irrefl _ hLess
  · exact NameBefore.irrefl _ hName

theorem Before.trans
    {r s t : RoutingInstance T}
    (hFirst : Before r s)
    (hSecond : Before s t) :
    Before r t := by
  rcases hFirst with hFirst | ⟨hFirst, hName⟩
  · rcases hSecond with hSecond | ⟨hSecond, _⟩
    · exact Or.inl (lt_trans hFirst hSecond)
    · exact Or.inl (hSecond ▸ hFirst)
  · rcases hSecond with hSecond | ⟨hSecond, hNext⟩
    · exact Or.inl (hFirst ▸ hSecond)
    · exact Or.inr ⟨hFirst.trans hSecond, hName.trans hNext⟩

/- Two instances are the same, or one comes before the other. -/
theorem Before.trichotomy
    (r s : RoutingInstance T) :
    Before r s ∨ r = s ∨ Before s r := by
  rcases lt_trichotomy (Wording.wide r.rd) (Wording.wide s.rd) with
    hLess | hSame | hGreater
  · exact Or.inl (Or.inl hLess)
  · have hRd : r.rd = s.rd := Wording.wide_injective hSame
    rcases NameBefore.trichotomy r.name s.name with
      hName | hName | hName
    · exact Or.inl (Or.inr ⟨hRd, hName⟩)
    · right; left
      cases r
      cases s
      simp_all
    · exact Or.inr (Or.inr (Or.inr ⟨hRd.symm, hName⟩))
  · exact Or.inr (Or.inr (Or.inl hGreater))

/- The order that instances are sorted by is this one. -/
theorem before_iff
    {r s : RoutingInstance T} :
    r.before s = true ↔ Before r s ∨ r = s := by
  rcases r with ⟨rd, name⟩
  rcases s with ⟨other, last⟩
  unfold before Before
  rcases lt_trichotomy (Wording.wide rd) (Wording.wide other) with
    hLess | hSame | hGreater
  · simp [hLess]
  · rw [Wording.wide_injective hSame]
    cases name <;> cases last <;>
      simp [NameBefore, le_iff_lt_or_eq, Wording.wide_eq_iff]
  · have hNe : rd ≠ other := by
      rintro rfl
      exact lt_irrefl _ hGreater
    simp [hGreater, not_lt_of_gt hGreater, hNe]

theorem before_trans
    {r s t : RoutingInstance T}
    (hFirst : r.before s = true)
    (hSecond : s.before t = true) :
    r.before t = true := by
  rw [before_iff] at *
  rcases hFirst with hFirst | rfl
  · rcases hSecond with hSecond | rfl
    · exact Or.inl (hFirst.trans hSecond)
    · exact Or.inl hFirst
  · exact hSecond

theorem before_total
    (r s : RoutingInstance T) :
    (r.before s || s.before r) = true := by
  rw [Bool.or_eq_true, before_iff, before_iff]
  rcases Before.trichotomy r s with hBefore | hSame | hBehind
  · exact Or.inl (Or.inl hBefore)
  · exact Or.inl (Or.inr hSame)
  · exact Or.inr (Or.inl hBehind)

end RoutingInstance

------------------------------------------------------------
-- Lists in Order
------------------------------------------------------------

/- Lists in strict order are the same if their members are. -/
theorem eq_of_pairwise_before
    {xs ys : List (RoutingInstance T)}
    (hLeft : xs.Pairwise RoutingInstance.Before)
    (hRight : ys.Pairwise RoutingInstance.Before)
    (hMem : ∀ entry, entry ∈ xs ↔ entry ∈ ys) :
    xs = ys := by
  have hNodup {zs : List (RoutingInstance T)}
      (hOrder : zs.Pairwise RoutingInstance.Before) :
      zs.Nodup := by
    apply hOrder.imp
    rintro r s hBefore rfl
    exact RoutingInstance.Before.irrefl r hBefore
  have hPerm : xs.Perm ys :=
    (List.perm_ext_iff_of_nodup (hNodup hLeft) (hNodup hRight)).mpr
      hMem
  apply hPerm.eq_of_pairwise _ hLeft hRight
  intro r s _ _ hFirst hSecond
  exact absurd (hFirst.trans hSecond)
    (RoutingInstance.Before.irrefl r)

------------------------------------------------------------
-- Directories
------------------------------------------------------------

namespace Directory

/- Whether an instance occurs in a group of a directory. -/
def Lists
    (d : Directory T)
    (entry : RoutingInstance T) : Prop :=
  ∃ group ∈ d.groups, entry ∈ group.2

instance
    (d : Directory T)
    (entry : RoutingInstance T) :
    Decidable (d.Lists entry) :=
  inferInstanceAs (Decidable (∃ group ∈ d.groups, entry ∈ group.2))

omit [Wording T] in
theorem mem_instances_iff
    {d : Directory T}
    {entry : RoutingInstance T} :
    entry ∈ d.instances ↔ d.Lists entry :=
  List.mem_flatMap

theorem mem_distinctInstances_iff
    {d : Directory T}
    {entry : RoutingInstance T} :
    entry ∈ d.distinctInstances ↔ d.Lists entry := by
  rw [mem_distinctInstances, mem_instances_iff]

/- An instance that occurs is there once, and no other one is. -/
theorem count_distinctInstances
    (d : Directory T)
    (entry : RoutingInstance T) :
    d.distinctInstances.count entry =
      if d.Lists entry then 1 else 0 := by
  rw [d.nodup_distinctInstances.count]
  simp only [mem_distinctInstances_iff]

/-
  Sorting leaves no instance behind a later one. As none is
  there twice, each of them comes strictly before the next.
-/
theorem pairwise_distinctInstances
    (d : Directory T) :
    d.distinctInstances.Pairwise RoutingInstance.Before := by
  have hSorted : d.distinctInstances.Pairwise
      fun r s => r.before s = true := by
    unfold distinctInstances
    apply List.pairwise_mergeSort
    · intro r s t hFirst hSecond
      exact RoutingInstance.before_trans hFirst hSecond
    · exact RoutingInstance.before_total
  apply (hSorted.and d.nodup_distinctInstances).imp
  rintro r s ⟨hBefore, hNe⟩
  exact (RoutingInstance.before_iff.mp hBefore).resolve_right hNe

/- The instances that occur decide on the list of them. -/
theorem distinctInstances_eq_of_lists
    {d other : Directory T}
    (hLists : ∀ entry, d.Lists entry ↔ other.Lists entry) :
    d.distinctInstances = other.distinctInstances := by
  apply eq_of_pairwise_before d.pairwise_distinctInstances
    other.pairwise_distinctInstances
  intro entry
  rw [mem_distinctInstances_iff, mem_distinctInstances_iff]
  exact hLists entry

/- What a form offers only depends on the list of instances. -/
theorem instances_eq_of_distinctInstances
    {form other : Form T}
    (hDistinct :
      form.directory.distinctInstances =
        other.directory.distinctInstances) :
    form.instances = other.instances := by
  rw [Form.instances, Form.instances, hDistinct]

/-
  The distinct instances of a directory are the instances that
  occur in its groups, each of them once and in strict order.
  Directories in which the same instances occur have the same
  list, so their choices and the instances on offer in their
  forms are the same. Instances are on offer exactly if at least
  two of them occur.
-/
theorem instances_are_canonical
    (d : Directory T) :
    (∀ entry, d.distinctInstances.count entry =
      if d.Lists entry then 1 else 0) ∧
    d.distinctInstances.Pairwise RoutingInstance.Before ∧
    (∀ other : Directory T,
      (∀ entry, d.Lists entry ↔ other.Lists entry) →
      d.distinctInstances = other.distinctInstances ∧
      instanceChoices d.distinctInstances =
        instanceChoices other.distinctInstances ∧
      ∀ form again : Form T,
        form.directory = d → again.directory = other →
        form.instances = again.instances ∧
          form.offersInstances = again.offersInstances) ∧
    ∀ form : Form T, form.directory = d →
      (form.offersInstances = true ↔
        ∃ r s, d.Lists r ∧ d.Lists s ∧ r ≠ s) := by
  refine ⟨d.count_distinctInstances, d.pairwise_distinctInstances,
    ?_, ?_⟩
  · intro other hLists
    have hDistinct := distinctInstances_eq_of_lists hLists
    refine ⟨hDistinct, by rw [hDistinct], ?_⟩
    rintro form again rfl rfl
    have hInstances := instances_eq_of_distinctInstances hDistinct
    exact ⟨hInstances, by
      rw [Form.offersInstances, Form.offersInstances, hInstances]⟩
  · rintro form rfl
    simp only [Form.offersInstances_iff_differ, mem_instances_iff]
    constructor
    · rintro ⟨r, hr, s, hs, hNe⟩
      exact ⟨r, s, hr, hs, hNe⟩
    · rintro ⟨r, s, hr, hs, hNe⟩
      exact ⟨r, hr, s, hs, hNe⟩

/- Two instances that share a route distinguisher, one unnamed. -/
def twoGroups : Directory where
  groups :=
    [("core", [⟨"1:1", none⟩, ⟨"1:1", some ""⟩]),
      ("edge", [⟨"1:1", none⟩])]

/- The same two in other groups and in another order. -/
def threeGroups : Directory where
  groups :=
    [("edge", [⟨"1:1", some ""⟩]), ("lab", []),
      ("core", [⟨"1:1", some ""⟩, ⟨"1:1", none⟩])]

theorem instances_are_canonical_regrouped :
    (∀ entry, twoGroups.Lists entry ↔ threeGroups.Lists entry) ∧
      twoGroups.distinctInstances = threeGroups.distinctInstances ∧
      ({ directory := twoGroups } : Form).instances =
        ({ directory := threeGroups } : Form).instances ∧
      ({ directory := threeGroups } : Form).offersInstances = true := by
  have hLists :
      ∀ entry, twoGroups.Lists entry ↔ threeGroups.Lists entry := by
    intro entry
    simp only [Lists, twoGroups, threeGroups, List.mem_cons,
      List.not_mem_nil, or_false, exists_eq_or_imp, exists_eq_left,
      false_or]
    exact ⟨fun hEntry => Or.inr (hEntry.elim Or.symm Or.inr),
      fun hEntry => Or.inl (hEntry.elim Or.inr Or.symm)⟩
  have hDiffer :
      ∃ r s, threeGroups.Lists r ∧ threeGroups.Lists s ∧ r ≠ s :=
    ⟨⟨"1:1", none⟩, ⟨"1:1", some ""⟩, by decide, by decide, by decide⟩
  obtain ⟨_, _, hCanonical, _⟩ := instances_are_canonical twoGroups
  obtain ⟨hDistinct, _, hForms⟩ := hCanonical threeGroups hLists
  obtain ⟨_, _, _, hOffers⟩ := instances_are_canonical threeGroups
  refine ⟨hLists, hDistinct, (hForms _ _ rfl rfl).1, ?_⟩
  exact (hOffers _ rfl).mpr hDiffer

end Directory

end LookingGlass
