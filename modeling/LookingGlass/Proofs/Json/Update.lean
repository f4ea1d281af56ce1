import LookingGlass.Proofs.Json.Table
import LookingGlass.Proofs.Outcome
import Mathlib.Data.List.Forall2

/-
  What a table holds after an update. Names that are there keep
  their places, new names follow in the order in which they
  first come, and every name has the value that is set last.
  Names that are equal as numbers are one name.

  A table is updated from an object, or from a list of pairs. If
  an entry is no pair, the entries in front of it are set in a
  table that is updated in place; as a whole, such an update is
  none.

  Main declarations:
    * `Table.value?`, `Table.value?_put` and `Table.value?_putAll`
    * `Table.newKeys` and `Table.keys_putAll_eq`
    * `Table.IsUpdate` and `Table.isUpdate_putAll`
    * `Table.IsMapping` and `Table.pairs_eq_ok_iff`
    * `Table.updateInPlace` and `Table.setEntries_of_error`
-/

namespace LookingGlass.Json

open LookingGlass.Text (Point Wide)

------------------------------------------------------------
-- Equal Names
------------------------------------------------------------

namespace Key

theorem sameAs_iff
    {k l : Key} :
    k.sameAs l = true ↔ k.canonical = l.canonical :=
  beq_iff_eq

/- Equal names are equal to the same names. -/
theorem sameAs_congr
    {k l : Key}
    (hSame : k.sameAs l = true)
    (m : Key) :
    k.sameAs m = l.sameAs m := by
  rw [Bool.eq_iff_iff, sameAs_iff, sameAs_iff, sameAs_iff.mp hSame]

/- A text is the same name as itself only. -/
theorem sameAs_text_iff
    {k : Key}
    {s : String} :
    k.sameAs (.text s) = true ↔ k = .text s := by
  rw [sameAs_iff]
  constructor
  · intro hSame
    cases k with
    | text t => exact hSame
    | float x =>
        simp only [canonical] at hSame
        split at hSame <;> cases hSame
    | _ => cases hSame
  · rintro rfl
    rfl

end Key

namespace Table

------------------------------------------------------------
-- Values
------------------------------------------------------------

/- The value under a name, whichever equal one it was set under. -/
def value?
    (table : Table)
    (key : Key) : Option Value :=
  (table.find? fun entry => entry.1.sameAs key).map Prod.snd

@[simp] theorem value?_nil
    (key : Key) :
    value? [] key = none :=
  rfl

theorem value?_cons
    (entry : Key × Value)
    (rest : Table)
    (key : Key) :
    value? (entry :: rest) key =
      if entry.1.sameAs key then some entry.2
      else value? rest key := by
  unfold value?
  rw [List.find?_cons]
  cases entry.1.sameAs key <;> rfl

theorem value?_append
    (before after : Table)
    (key : Key) :
    value? (before ++ after) key =
      (value? before key).or (value? after key) := by
  unfold value?
  rw [List.find?_append]
  cases before.find? fun entry => entry.1.sameAs key <;> rfl

/- Settings are looked up by their texts. -/
theorem get?_eq_value?
    (table : Table)
    (name : String) :
    get? table name = value? table (.text name) := by
  induction table with
  | nil => rfl
  | cons entry rest ih =>
      have hSame :
          (Key.text name == entry.1) =
            entry.1.sameAs (.text name) := by
        rw [Bool.eq_iff_iff, Key.sameAs_text_iff, beq_iff_eq]
        exact eq_comm
      unfold get? at *
      rw [List.lookup_cons, value?_cons, ih, hSame]
      cases entry.1.sameAs (.text name) <;> rfl

/- Setting a value changes what is under its name only. -/
theorem value?_put
    (key other : Key)
    (value : Value)
    (table : Table) :
    value? (put key value table) other =
      if key.sameAs other then some value
      else value? table other := by
  induction table with
  | nil => rw [put, value?_cons]
  | cons entry rest ih =>
      unfold put
      split
      case isTrue hSame =>
        rw [value?_cons, value?_cons, Key.sameAs_congr hSame other]
        split <;> rfl
      case isFalse hOther =>
        rw [value?_cons, value?_cons, ih]
        by_cases hSet : key.sameAs other = true
        · have hApart : ¬ entry.1.sameAs other = true := by
            intro hEntry
            rw [Key.sameAs_iff] at *
            exact hOther (hEntry.trans hSet.symm)
          rw [if_neg hApart, if_pos hSet, if_pos hSet]
        · rw [if_neg hSet, if_neg hSet]

/- Of values that are set under a name the last one remains. -/
theorem value?_putAll
    (table : Table)
    (pairs : List (Key × Value))
    (key : Key) :
    value? (putAll table pairs) key =
      (value? pairs.reverse key).or (value? table key) := by
  induction pairs generalizing table with
  | nil => rfl
  | cons pair rest ih =>
      have hRest := ih (put pair.1 pair.2 table)
      rw [List.reverse_cons, value?_append, value?_cons, value?_nil,
        Option.or_assoc]
      rw [value?_put] at hRest
      refine hRest.trans ?_
      congr 1
      split <;> rfl

------------------------------------------------------------
-- Names in Order
------------------------------------------------------------

/- Whether a name is among others. -/
def isAmong
    (known : List Key)
    (key : Key) : Bool :=
  known.any fun other => other.sameAs key

/- Names that are not known yet, each where it first comes. -/
def newKeys
    (known names : List Key) : List Key :=
  (names.filter fun key => !isAmong known key).eraseDupsBy
    fun key earlier => earlier.sameAs key

theorem keys_put_eq
    (key : Key)
    (value : Value)
    (table : Table) :
    keys (put key value table) =
      if isAmong (keys table) key then keys table
      else keys table ++ [key] := by
  induction table with
  | nil => rfl
  | cons entry rest ih =>
      unfold put
      split
      case isTrue hSame => simp [keys, isAmong, hSame]
      case isFalse hOther =>
        unfold keys isAmong at *
        simp only [List.map_cons, List.any_cons, ih, hOther,
          Bool.false_or]
        split <;> rfl

theorem newKeys_cons_of_known
    {known : List Key}
    {key : Key}
    (hKnown : isAmong known key = true)
    (names : List Key) :
    newKeys known (key :: names) = newKeys known names := by
  simp [newKeys, hKnown]

/- A name that is new is known to the names behind it. -/
theorem newKeys_cons_of_new
    {known : List Key}
    {key : Key}
    (hNew : ¬ isAmong known key = true)
    (names : List Key) :
    newKeys known (key :: names) =
      key :: newKeys (known ++ [key]) names := by
  unfold newKeys
  rw [List.filter_cons_of_pos (by simpa using hNew),
    List.eraseDupsBy_cons, List.filter_filter]
  congr 2
  apply List.filter_congr
  intro name _
  unfold isAmong
  cases hSame : key.sameAs name <;> simp [hSame]

/-
  New names follow those that are there. By induction on the
  pairs: a name that is new is known for the rest of them.
-/
theorem keys_putAll_eq
    (table : Table)
    (pairs : List (Key × Value)) :
    keys (putAll table pairs) =
      keys table ++ newKeys (keys table) (pairs.map Prod.fst) := by
  induction pairs generalizing table with
  | nil => exact (List.append_nil _).symm
  | cons pair rest ih =>
      have hRest := ih (put pair.1 pair.2 table)
      rw [keys_put_eq] at hRest
      refine hRest.trans ?_
      rw [List.map_cons]
      by_cases hKnown : isAmong (keys table) pair.1 = true
      · rw [if_pos hKnown, newKeys_cons_of_known hKnown]
      · rw [if_neg hKnown, newKeys_cons_of_new hKnown,
          List.append_assoc]
        rfl

------------------------------------------------------------
-- Updates
------------------------------------------------------------

/-
  Whether a table is another one updated with pairs: its names
  are those that were there and the new ones behind them, and
  the values of the pairs are set, the later over the earlier.
-/
structure IsUpdate
    (table : Table)
    (pairs : List (Key × Value))
    (updated : Table) : Prop where
  keys :
    Table.keys updated =
      Table.keys table ++
        newKeys (Table.keys table) (pairs.map Prod.fst)
  value (key : Key) :
    value? updated key =
      (value? pairs.reverse key).or (value? table key)

theorem isUpdate_putAll
    (table : Table)
    (pairs : List (Key × Value)) :
    IsUpdate table pairs (putAll table pairs) :=
  ⟨keys_putAll_eq table pairs, value?_putAll table pairs⟩

------------------------------------------------------------
-- Pairs
------------------------------------------------------------

/-
  Whether an entry of a list is a pair: a list of a name and a
  value, a text of two letters, or an object of two members, of
  which the names are taken.
-/
inductive IsPair :
    Value → Key × Value → Prop
  | list
      {name value : Value}
      {key : Key}
      (hKey : Key.ofValue? name = some key) :
      IsPair (.list [name, value]) (key, value)
  | letters
      (first second : Point) :
      IsPair (.text ⟨[first, second]⟩)
        (.text ⟨[first]⟩, .text ⟨[second]⟩)
  | members
      (first second : Wide × Value) :
      IsPair (.object [first, second])
        (.text first.1, .text second.1)

/-
  Whether a table can be updated with a value, and with which
  pairs: those of an object or of a list of pairs. A text is a
  list of letters, and none of these is a pair.
-/
inductive IsMapping :
    Value → List (Key × Value) → Prop
  | object
      (members : Members) :
      IsMapping (.object members) (ofMembers members)
  | list
      {entries : List Value}
      {pairs : List (Key × Value)}
      (hPairs : List.Forall₂ IsPair entries pairs) :
      IsMapping (.list entries) pairs
  | blank :
      IsMapping (.text "") []

/- The parts of an entry that is read as a pair. -/
theorem pairOf_eq_ok_iff_parts
    {index : Nat}
    {entry : Value}
    {pair : Key × Value} :
    pairOf index entry = .ok pair ↔
      ∃ name, parts? entry = some [name, pair.2] ∧
        Key.ofValue? name = some pair.1 := by
  rcases pair with ⟨key, value⟩
  unfold pairOf
  split
  case h_1 hParts => simp [hParts]
  case h_2 name found hParts =>
    split
    case h_1 hKey =>
      simp only [hParts, Option.some.injEq, List.cons.injEq]
      constructor
      · intro hOk
        cases hOk
      · rintro ⟨_, ⟨rfl, _⟩, hSome⟩
        rw [hKey] at hSome
        cases hSome
    case h_2 other hKey =>
      simp only [hParts, Option.some.injEq, List.cons.injEq]
      constructor
      · intro hOk
        cases hOk
        exact ⟨name, ⟨rfl, rfl, trivial⟩, hKey⟩
      · rintro ⟨_, ⟨rfl, rfl, _⟩, hSome⟩
        rw [hKey] at hSome
        rw [Option.some.inj hSome]
  case h_3 parts hLength hParts =>
    constructor
    · intro hOk
      cases hOk
    · rintro ⟨name, hTwo, _⟩
      rw [hParts] at hTwo
      exact absurd (Option.some.inj hTwo) (hLength name value)

/- An entry is a pair if its parts are a name and a value. -/
theorem pairOf_eq_ok_iff
    {index : Nat}
    {entry : Value}
    {pair : Key × Value} :
    pairOf index entry = .ok pair ↔ IsPair entry pair := by
  rw [pairOf_eq_ok_iff_parts]
  constructor
  · rcases pair with ⟨key, value⟩
    rintro ⟨name, hParts, hKey⟩
    cases entry with
    | list items =>
        rw [Option.some.inj hParts]
        exact .list hKey
    | text s =>
        rcases s with ⟨points⟩
        have hLetters := Option.some.inj hParts
        rw [Wide.letters, List.map_map] at hLetters
        rcases List.map_eq_cons_iff.mp hLetters with
          ⟨first, rest, rfl, rfl, hRest⟩
        rcases List.map_eq_cons_iff.mp hRest with
          ⟨second, none, rfl, rfl, hNone⟩
        rw [List.map_eq_nil_iff.mp hNone]
        cases hKey
        exact .letters first second
    | object members =>
        rcases List.map_eq_cons_iff.mp (Option.some.inj hParts) with
          ⟨first, rest, rfl, rfl, hRest⟩
        rcases List.map_eq_cons_iff.mp hRest with
          ⟨second, none, rfl, rfl, hNone⟩
        rw [List.map_eq_nil_iff.mp hNone]
        cases hKey
        exact .members first second
    | _ => cases hParts
  · rintro (hKey | ⟨first, second⟩ | ⟨first, second⟩)
    · exact ⟨_, rfl, hKey⟩
    · exact ⟨_, rfl, rfl⟩
    · exact ⟨_, rfl, rfl⟩

theorem pairsOf_eq_ok_iff
    {index : Nat}
    {entries : List Value}
    {pairs : List (Key × Value)} :
    pairsOf index entries = .ok pairs ↔
      List.Forall₂ IsPair entries pairs := by
  induction entries generalizing index pairs with
  | nil => simp [pairsOf, eq_comm]
  | cons entry rest ih =>
      rw [List.forall₂_cons_left_iff, pairsOf]
      cases hEntry : pairOf index entry with
      | error e =>
          constructor
          · intro hOk
            cases hOk
          · rintro ⟨pair, _, hPair, _⟩
            rw [pairOf_eq_ok_iff.mpr hPair] at hEntry
            cases hEntry
      | ok pair =>
          simp only [map_eq_ok_iff, ih]
          constructor
          · rintro ⟨more, hMore, rfl⟩
            exact ⟨pair, more, pairOf_eq_ok_iff.mp hEntry, hMore, rfl⟩
          · rintro ⟨other, more, hOther, hMore, rfl⟩
            rw [pairOf_eq_ok_iff.mpr hOther] at hEntry
            rw [← Except.ok.inj hEntry]
            exact ⟨more, hMore, rfl⟩

/- One letter is too short for a pair. -/
theorem not_isPair_letter
    (p : Point)
    (pair : Key × Value) :
    ¬ IsPair (.text ⟨[p]⟩) pair := by
  intro hPair
  cases hPair

/- A table can be updated with these values, and no others. -/
theorem pairs_eq_ok_iff
    {value : Value}
    {found : List (Key × Value)} :
    pairs value = .ok found ↔ IsMapping value found := by
  constructor
  · intro hFound
    unfold pairs at hFound
    split at hFound
    case h_1 members =>
      cases hFound
      exact .object members
    case h_2 entries => exact .list (pairsOf_eq_ok_iff.mp hFound)
    case h_3 s =>
      rcases s with ⟨points⟩
      have hLetters := pairsOf_eq_ok_iff.mp hFound
      rw [Wide.letters, List.map_map, List.forall₂_map_left_iff]
        at hLetters
      cases points with
      | nil =>
          cases hLetters
          exact .blank
      | cons first rest =>
          rcases List.forall₂_cons_left_iff.mp hLetters with
            ⟨_, _, hPair, _⟩
          exact absurd hPair (not_isPair_letter first _)
    case h_4 => cases hFound
  · rintro (members | hPairs | _)
    · rfl
    · exact pairsOf_eq_ok_iff.mpr hPairs
    · rfl

------------------------------------------------------------
-- Updates in Place
------------------------------------------------------------

/-
  A table in which entries are set one after another, up to the
  first that is no pair, and what is wrong with that one.
-/
def setEntries
    (index : Nat)
    (table : Table) :
    List Value → Table × Option Error
  | [] => (table, none)
  | entry :: rest =>
    match pairOf index entry with
    | .error e => (table, some e)
    | .ok pair =>
      setEntries (index + 1) (put pair.1 pair.2 table) rest

/- A table that is updated in place, as far as it goes. -/
def updateInPlace
    (table : Table) :
    Value → Table × Option Error
  | .object members => (putAll table (ofMembers members), none)
  | .list entries => setEntries 0 table entries
  | .text s => setEntries 0 table (s.letters.map .text)
  | _ => (table, some .noMapping)

theorem setEntries_of_ok
    {index : Nat}
    {entries : List Value}
    {pairs : List (Key × Value)}
    (hPairs : pairsOf index entries = .ok pairs)
    (table : Table) :
    setEntries index table entries = (putAll table pairs, none) := by
  induction entries generalizing index pairs table with
  | nil =>
      cases hPairs
      rfl
  | cons entry rest ih =>
      rw [pairsOf] at hPairs
      cases hEntry : pairOf index entry with
      | error e =>
          rw [hEntry] at hPairs
          cases hPairs
      | ok pair =>
          rw [hEntry] at hPairs
          rcases map_eq_ok_iff.mp hPairs with ⟨more, hMore, rfl⟩
          simp only [setEntries, hEntry]
          exact ih hMore (put pair.1 pair.2 table)

/- What comes before a fault is set, and nothing behind it. -/
theorem setEntries_of_error
    {index : Nat}
    {entries : List Value}
    {e : Error}
    (hError : pairsOf index entries = .error e)
    (table : Table) :
    ∃ before entry after taken,
      entries = before ++ entry :: after ∧
        List.Forall₂ IsPair before taken ∧
        (∀ pair, ¬ IsPair entry pair) ∧
        setEntries index table entries =
          (putAll table taken, some e) := by
  induction entries generalizing index table with
  | nil => cases hError
  | cons entry rest ih =>
      rw [pairsOf] at hError
      cases hEntry : pairOf index entry with
      | error fault =>
          rw [hEntry] at hError
          cases hError
          refine ⟨[], entry, rest, [], rfl, .nil, ?_, ?_⟩
          · intro pair hPair
            rw [pairOf_eq_ok_iff.mpr hPair] at hEntry
            cases hEntry
          · simp only [setEntries, hEntry]
            rfl
      | ok pair =>
          rw [hEntry] at hError
          have hRest :=
            ih (map_eq_error_iff.mp hError)
              (put pair.1 pair.2 table)
          rcases hRest with
            ⟨before, other, after, taken, rfl, hTaken, hNone, hSet⟩
          refine ⟨entry :: before, other, after, pair :: taken, rfl,
            .cons (pairOf_eq_ok_iff.mp hEntry) hTaken, hNone, ?_⟩
          simp only [setEntries, hEntry]
          exact hSet

/- An update in place ends where the update as a whole does. -/
theorem updateInPlace_of_ok
    {table updated : Table}
    {value : Value}
    (hUpdated : update table value = .ok updated) :
    updateInPlace table value = (updated, none) := by
  rcases map_eq_ok_iff.mp hUpdated with ⟨found, hFound, rfl⟩
  cases value with
  | object members =>
      cases hFound
      rfl
  | list entries => exact setEntries_of_ok hFound table
  | text s => exact setEntries_of_ok hFound table
  | _ => cases hFound

theorem updateInPlace_of_error
    {table : Table}
    {value : Value}
    {e : Error}
    (hError : update table value = .error e) :
    (updateInPlace table value).2 = some e := by
  have hPairs := map_eq_error_iff.mp hError
  have hEntries {entries : List Value}
      (hFault : pairsOf 0 entries = .error e) :
      (setEntries 0 table entries).2 = some e := by
    rcases setEntries_of_error hFault table with
      ⟨_, _, _, _, _, _, _, hSet⟩
    rw [hSet]
  cases value with
  | object members => cases hPairs
  | list entries => exact hEntries hPairs
  | text s => exact hEntries hPairs
  | _ =>
      cases hPairs
      rfl

end Table

end LookingGlass.Json
