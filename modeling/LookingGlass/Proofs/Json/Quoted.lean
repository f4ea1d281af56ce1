import LookingGlass.Json.Value
import LookingGlass.Proofs.Text.Quoted
import Mathlib.Data.List.Forall2

/-
  The form in which a message shows a value says which value it
  is, up to numbers that are written in the same way, and where
  it ends: texts and rows have closing marks, and a number goes
  on as long as its characters do.

  Main declarations:
    * `Number.IsNumerical` and `Number.Ends`
    * `Number.Binary64.isNumerical_text`
    * `Json.Value.Form` and `Json.Value.form_eq_of_append`
    * `Json.Tells` and `Json.row_inj`
    * `Json.Value.Alike`, `Json.Value.tells` and
      `Json.Value.quoted_eq_iff`
-/

namespace LookingGlass

------------------------------------------------------------
-- Numbers
------------------------------------------------------------

namespace Number

/- Whether a character occurs in how numbers are written. -/
def isNumeric
    (c : Char) : Bool :=
  c.isDigit || ".e+-infa".toList.contains c

/- Whether a text is one of such characters, and not empty. -/
structure IsNumerical
    (cs : List Char) : Prop where
  ne_nil : cs ≠ []
  numeric : ∀ c ∈ cs, isNumeric c = true

theorem isNumerical_toDigits
    (n : Nat) :
    IsNumerical (Nat.toDigits 10 n) where
  ne_nil := Nat.toDigits_ne_nil
  numeric := by
    intro c hc
    have hDigit :=
      Nat.isDigit_of_mem_toDigits (by decide) (by decide) hc
    rw [isNumeric, hDigit, Bool.true_or]

theorem IsNumerical.append
    {cs : List Char}
    (hText : IsNumerical cs)
    {sign : List Char}
    (hSign : ∀ c ∈ sign, isNumeric c = true) :
    IsNumerical (sign ++ cs) where
  ne_nil := List.append_ne_nil_of_right_ne_nil _ hText.ne_nil
  numeric := List.forall_mem_append.mpr ⟨hSign, hText.numeric⟩

/- Texts that are written out are looked at one by one. -/
theorem isNumeric_of_all
    {cs : List Char}
    (hAll : cs.all isNumeric = true) :
    ∀ c ∈ cs, isNumeric c = true :=
  List.all_eq_true.mp hAll

theorem isNumeric_of_mem_replicate
    {n : Nat}
    {c : Char}
    (hc : c ∈ List.replicate n '0') :
    isNumeric c = true := by
  rw [(List.mem_replicate.mp hc).2]
  decide

theorem isNumerical_write
    (layout : Layout)
    {digits : List Char}
    (hDigits : ∀ c ∈ digits, isNumeric c = true)
    (lead : Int) :
    IsNumerical (layout.write digits lead).toList := by
  have hTake (n : Nat) : ∀ c ∈ digits.take n, isNumeric c = true :=
    fun c hc => hDigits c (List.mem_of_mem_take hc)
  have hDrop (n : Nat) : ∀ c ∈ digits.drop n, isNumeric c = true :=
    fun c hc => hDigits c (List.mem_of_mem_drop hc)
  have hZeros (n : Nat) :
      ∀ c ∈ List.replicate n '0', isNumeric c = true :=
    fun _ hc => isNumeric_of_mem_replicate hc
  unfold Layout.write
  split
  case isTrue =>
    split
    case isTrue =>
      constructor
      · simp
      · simp only [String.toList_ofList, List.forall_mem_append]
        exact ⟨⟨isNumeric_of_all rfl, hZeros _⟩, hDigits⟩
    case isFalse =>
      constructor
      · simp
      · simp only [String.toList_ofList, List.forall_mem_append]
        refine
          ⟨⟨⟨hTake _, hZeros _⟩, isNumeric_of_all rfl⟩, ?_⟩
        split
        · exact isNumeric_of_all rfl
        · exact hDrop _
  case isFalse =>
    have hMantissa :
        ∀ c ∈ digits.take 1 ++
            (if (digits.drop 1).isEmpty then []
              else '.' :: digits.drop 1),
          isNumeric c = true := by
      rw [List.forall_mem_append]
      refine ⟨hTake _, ?_⟩
      split
      · simp
      · rw [List.forall_mem_cons]
        exact ⟨by decide, hDrop _⟩
    have hSign :
        ∀ c ∈ (if lead < 0 then "e-" else "e+").toList,
          isNumeric c = true := by
      split <;> exact isNumeric_of_all rfl
    have hPower := (isNumerical_toDigits lead.natAbs).append
      (hZeros (layout.exponentDigits - (toString lead.natAbs).length))
    have hPadded :
        IsNumerical (padded layout.exponentDigits
          (toString lead.natAbs)).toList := by
      simpa [padded] using hPower
    have hWhole := (hPadded.append hSign).append hMantissa
    simpa only [String.toList_append, String.toList_ofList,
      List.append_assoc] using hWhole

namespace Binary64

theorem isNumeric_of_mem_significant
    {n : Nat}
    {c : Char}
    (hc : c ∈ significant n) :
    isNumeric c = true := by
  rw [significant, List.mem_reverse] at hc
  have hMem := (List.dropWhile_sublist _).subset hc
  rw [List.mem_reverse] at hMem
  exact (isNumerical_toDigits n).numeric c hMem

theorem isNumerical_text
    (x : Binary64) :
    IsNumerical x.text.toList := by
  cases x with
  | nan => exact ⟨by decide, isNumeric_of_all rfl⟩
  | infinite negative =>
      cases negative <;> exact ⟨by decide, isNumeric_of_all rfl⟩
  | finite negative digits power =>
      have hSign :
          ∀ c ∈ (if negative then "-" else "").toList,
            isNumeric c = true := by
        cases negative <;> exact isNumeric_of_all rfl
      simp only [text]
      split
      case isTrue =>
        rw [String.toList_append]
        exact IsNumerical.append
          ⟨by decide, isNumeric_of_all rfl⟩ hSign
      case isFalse =>
        rw [String.toList_append]
        exact (isNumerical_write plainLayout
          (fun _ hc => isNumeric_of_mem_significant hc) _).append hSign

end Binary64

theorem isNumerical_toString
    (n : Int) :
    IsNumerical (toString n).toList := by
  cases n with
  | ofNat m =>
      have hText : (toString (Int.ofNat m)).toList = Nat.toDigits 10 m := by
        rw [Int.toString_eq_repr]
        exact Nat.toList_repr
      rw [hText]
      exact isNumerical_toDigits m
  | negSucc m =>
      have hText : (toString (Int.negSucc m)).toList =
          ['-'] ++ Nat.toDigits 10 (m + 1) := by
        rw [Int.toString_eq_repr, Int.repr]
        simp
      rw [hText]
      exact (isNumerical_toDigits _).append (isNumeric_of_all rfl)

/-
  A text of numeric characters ends where another character
  follows, or none.
-/
def Ends
    (rest : List Char) : Prop :=
  ∀ c ∈ rest.head?, isNumeric c = false

theorem IsNumerical.append_inj
    {cs ds rest behind : List Char}
    (hFirst : IsNumerical cs)
    (hSecond : IsNumerical ds)
    (hRest : Ends rest)
    (hBehind : Ends behind)
    (hSame : cs ++ rest = ds ++ behind) :
    cs = ds ∧ rest = behind := by
  have hTake {text rest : List Char}
      (hText : IsNumerical text)
      (hEnds : Ends rest) :
      (text ++ rest).takeWhile isNumeric = text := by
    rw [List.takeWhile_append_of_pos hText.numeric]
    cases rest with
    | nil => simp
    | cons c rest =>
        rw [List.takeWhile_cons_of_neg (by simp [hEnds c rfl]),
          List.append_nil]
  have hText := congrArg (List.takeWhile isNumeric) hSame
  rw [hTake hFirst hRest, hTake hSecond hBehind] at hText
  subst hText
  exact ⟨rfl, List.append_cancel_left hSame⟩

end Number

namespace Json

open Number (Ends isNumeric)
open Text (Wide)

------------------------------------------------------------
-- Rows
------------------------------------------------------------

section Rows

variable {α : Type} {shown : α → List Char}

/- What is shown of the parts of a row behind the first one. -/
def rowBehind
    (shown : α → List Char)
    (parts : List α) : List Char :=
  parts.flatMap fun part => ',' :: ' ' :: shown part

theorem intercalate_cons
    (part : α)
    (parts : List α) :
    [',', ' '].intercalate ((part :: parts).map shown) =
      shown part ++ rowBehind shown parts := by
  induction parts generalizing part with
  | nil => simp [rowBehind, List.intercalate]
  | cons next parts ih =>
      have hNext := ih next
      simp only [List.intercalate, List.map_cons,
        List.intersperse_cons_cons, List.flatten_cons] at hNext ⊢
      rw [hNext]
      simp [rowBehind]

theorem ends_rowBehind
    {close : Char}
    (hClose : isNumeric close = false)
    (parts : List α)
    (rest : List Char) :
    Ends (rowBehind shown parts ++ close :: rest) := by
  intro c hc
  cases parts with
  | nil =>
      simp only [rowBehind, List.flatMap_nil, List.nil_append,
        List.head?_cons, Option.mem_some_iff] at hc
      rw [← hc, hClose]
  | cons part parts =>
      simp only [rowBehind, List.flatMap_cons, List.cons_append,
        List.head?_cons, Option.mem_some_iff] at hc
      rw [← hc]
      decide

/- Whether what is shown of a part tells which one it is. -/
def Tells
    (shown : α → List Char)
    (R : α → α → Prop)
    (part : α) : Prop :=
  ∀ other rest behind, Ends rest → Ends behind →
    shown part ++ rest = shown other ++ behind →
      R part other ∧ rest = behind

/- Rows tell their parts, one by one, if these tell themselves. -/
theorem rowBehind_inj
    {R : α → α → Prop}
    {close : Char}
    (hClose : isNumeric close = false)
    (hComma : close ≠ ',')
    {parts others : List α}
    (hParts : ∀ part ∈ parts, Tells shown R part)
    {rest behind : List Char}
    (hSame :
      rowBehind shown parts ++ close :: rest =
        rowBehind shown others ++ close :: behind) :
    List.Forall₂ R parts others ∧ rest = behind := by
  induction parts generalizing others with
  | nil =>
      cases others with
      | nil => exact ⟨.nil, (List.cons.inj hSame).2⟩
      | cons other others => exact absurd (List.cons.inj hSame).1 hComma
  | cons part parts ih =>
      rw [List.forall_mem_cons] at hParts
      cases others with
      | nil => exact absurd (List.cons.inj hSame).1.symm hComma
      | cons other others =>
          simp only [rowBehind, List.flatMap_cons, List.cons_append,
            List.append_assoc, List.cons.injEq, true_and] at hSame
          rcases hParts.1 other _ _ (ends_rowBehind hClose parts rest)
              (ends_rowBehind hClose others behind) hSame with
            ⟨hPart, hBehind⟩
          rcases ih hParts.2 hBehind with ⟨hRest, hEnd⟩
          exact ⟨.cons hPart hRest, hEnd⟩

theorem row_inj
    {R : α → α → Prop}
    {close : Char}
    (hClose : isNumeric close = false)
    (hComma : close ≠ ',')
    (hFirst : ∀ part, ∃ c more, shown part = c :: more ∧ c ≠ close)
    {parts others : List α}
    (hParts : ∀ part ∈ parts, Tells shown R part)
    {rest behind : List Char}
    (hSame :
      [',', ' '].intercalate (parts.map shown) ++ close :: rest =
        [',', ' '].intercalate (others.map shown) ++
          close :: behind) :
    List.Forall₂ R parts others ∧ rest = behind := by
  cases parts with
  | nil =>
      cases others with
      | nil => exact ⟨.nil, (List.cons.inj hSame).2⟩
      | cons other others =>
          rcases hFirst other with ⟨c, more, hMore, hc⟩
          rw [intercalate_cons, hMore] at hSame
          exact absurd (List.cons.inj hSame).1.symm hc
  | cons part parts =>
      rw [List.forall_mem_cons] at hParts
      rw [intercalate_cons] at hSame
      cases others with
      | nil =>
          rcases hFirst part with ⟨c, more, hMore, hc⟩
          rw [hMore] at hSame
          exact absurd (List.cons.inj hSame).1 hc
      | cons other others =>
          rw [intercalate_cons, List.append_assoc,
            List.append_assoc] at hSame
          rcases hParts.1 other _ _ (ends_rowBehind hClose parts rest)
              (ends_rowBehind hClose others behind) hSame with
            ⟨hPart, hBehind⟩
          rcases rowBehind_inj hClose hComma hParts.2 hBehind with
            ⟨hRest, hEnd⟩
          exact ⟨.cons hPart hRest, hEnd⟩

end Rows

namespace Value

------------------------------------------------------------
-- Lists and Objects
------------------------------------------------------------

/- The characters in which a value is shown. -/
def shown
    (value : Value) : List Char :=
  value.quoted.toList

/- The characters in which a member of an object is shown. -/
def shownMember
    (member : Wide × Value) : List Char :=
  member.1.quoted.toList ++ ':' :: ' ' :: member.2.shown

theorem map_toList_quotedItems
    (items : List Value) :
    (quotedItems items).map String.toList = items.map shown := by
  induction items with
  | nil => rfl
  | cons item items ih =>
      rw [quotedItems, List.map_cons, ih]
      rfl

theorem map_toList_quotedMembers
    (members : Members) :
    (quotedMembers members).map String.toList =
      members.map shownMember := by
  induction members with
  | nil => rfl
  | cons member members ih =>
      rcases member with ⟨name, value⟩
      rw [quotedMembers, List.map_cons, ih]
      simp [shownMember, shown]

theorem shown_list
    (items : List Value) :
    (list items).shown =
      '[' :: ([',', ' '].intercalate (items.map shown) ++ [']']) := by
  rw [shown, quoted, String.toList_append, String.toList_append,
    String.toList_intercalate, map_toList_quotedItems]
  rfl

theorem shown_object
    (members : Members) :
    (object members).shown =
      '\x7b' ::
        ([',', ' '].intercalate (members.map shownMember) ++
          ['\x7d']) := by
  rw [shown, quoted, String.toList_append, String.toList_append,
    String.toList_intercalate, map_toList_quotedMembers]
  rfl

------------------------------------------------------------
-- Forms
------------------------------------------------------------

/- The forms that values are shown in. -/
inductive Form
  | null
  | bool
  | number
  | text
  | list
  | object
deriving DecidableEq

/- The form that a value is shown in. -/
def form :
    Value → Form
  | .null => .null
  | .bool _ => .bool
  | .int _ => .number
  | .float _ => .number
  | .text _ => .text
  | .list _ => .list
  | .object _ => .object

/- The form of what starts with a character, if there is one. -/
def Form.ofLead?
    (c : Char) : Option Form :=
  if isNumeric c then some .number
  else if c = '[' then some .list
  else if c = '\x7b' then some .object
  else if c = '\'' ∨ c = '"' then some .text
  else if c = 'N' then some .null
  else if c = 'T' ∨ c = 'F' then some .bool
  else none

theorem ofLead_of_isNumerical
    {cs : List Char}
    (hText : Number.IsNumerical cs) :
    ∃ c more, cs = c :: more ∧ Form.ofLead? c = some .number := by
  rcases List.exists_cons_of_ne_nil hText.ne_nil with ⟨c, more, rfl⟩
  have hNumeric := hText.numeric c List.mem_cons_self
  exact ⟨c, more, rfl, by rw [Form.ofLead?, if_pos hNumeric]⟩

theorem exists_quoted_eq_cons
    (w : Wide) :
    ∃ c more, w.quoted.toList = c :: more ∧
      Form.ofLead? c = some .text := by
  refine ⟨_, _, String.toList_ofList, ?_⟩
  rcases Text.Quoted.isMark_mark (w.values.map Char.ofNat) with
    hMark | hMark <;> rw [hMark] <;> decide

/- A value is shown with a character of its form in front. -/
theorem exists_lead
    (value : Value) :
    ∃ c more, value.shown = c :: more ∧
      Form.ofLead? c = some value.form := by
  cases value with
  | null => exact ⟨'N', "one".toList, rfl, rfl⟩
  | bool b =>
      cases b with
      | true => exact ⟨'T', "rue".toList, rfl, rfl⟩
      | false => exact ⟨'F', "alse".toList, rfl, rfl⟩
  | int n => exact ofLead_of_isNumerical (Number.isNumerical_toString n)
  | float x =>
      exact ofLead_of_isNumerical (Number.Binary64.isNumerical_text x)
  | text s => exact exists_quoted_eq_cons s
  | list items => exact ⟨'[', _, shown_list items, rfl⟩
  | object members => exact ⟨'\x7b', _, shown_object members, rfl⟩

theorem form_eq_of_append
    {x y : Value}
    {rest behind : List Char}
    (hSame : x.shown ++ rest = y.shown ++ behind) :
    x.form = y.form := by
  rcases exists_lead x with ⟨c, more, hFirst, hForm⟩
  rcases exists_lead y with ⟨d, others, hSecond, hOther⟩
  rw [hFirst, hSecond] at hSame
  apply Option.some.inj
  rw [← hForm, ← hOther, (List.cons.inj hSame).1]

/- No value, and no member, closes a row. -/
theorem exists_shown_eq_cons
    {close : Char}
    (hClose : Form.ofLead? close = none)
    (value : Value) :
    ∃ c more, value.shown = c :: more ∧ c ≠ close := by
  rcases exists_lead value with ⟨c, more, hShown, hForm⟩
  refine ⟨c, more, hShown, ?_⟩
  intro hSame
  rw [hSame, hClose] at hForm
  cases hForm

theorem exists_shownMember_eq_cons
    {close : Char}
    (hClose : Form.ofLead? close = none)
    (member : Wide × Value) :
    ∃ c more, shownMember member = c :: more ∧ c ≠ close := by
  rcases exists_quoted_eq_cons member.1 with
    ⟨c, more, hQuoted, hForm⟩
  refine ⟨c, _, by rw [shownMember, hQuoted]; rfl, ?_⟩
  intro hSame
  rw [hSame, hClose] at hForm
  cases hForm

------------------------------------------------------------
-- Values
------------------------------------------------------------

/- Whether a value is a number of a text. -/
inductive IsNumber :
    Value → String → Prop
  | int
      (n : Int) :
      IsNumber (.int n) (toString n)
  | float
      (x : Number.Binary64) :
      IsNumber (.float x) x.text

/-
  Whether values are the same, up to numbers that are written in
  the same way.
-/
inductive Alike :
    Value → Value → Prop
  | null :
      Alike .null .null
  | bool
      (b : Bool) :
      Alike (.bool b) (.bool b)
  | number
      {x y : Value}
      {text : String}
      (hFirst : IsNumber x text)
      (hSecond : IsNumber y text) :
      Alike x y
  | text
      (s : Wide) :
      Alike (.text s) (.text s)
  | list
      {items others : List Value}
      (hItems : List.Forall₂ Alike items others) :
      Alike (.list items) (.list others)
  | object
      {members others : Members}
      (hNames : members.map Prod.fst = others.map Prod.fst)
      (hValues :
        List.Forall₂ Alike (members.map Prod.snd)
          (others.map Prod.snd)) :
      Alike (.object members) (.object others)

theorem IsNumber.isNumerical
    {value : Value}
    {text : String}
    (hNumber : IsNumber value text) :
    Number.IsNumerical text.toList := by
  cases hNumber with
  | int n => exact Number.isNumerical_toString n
  | float x => exact Number.Binary64.isNumerical_text x

theorem IsNumber.shown_eq
    {value : Value}
    {text : String}
    (hNumber : IsNumber value text) :
    value.shown = text.toList := by
  cases hNumber with
  | int n => rfl
  | float x => rfl

theorem form_eq_number_iff
    {value : Value} :
    value.form = .number ↔ ∃ text, IsNumber value text := by
  constructor
  · intro hForm
    cases value with
    | int n => exact ⟨_, .int n⟩
    | float x => exact ⟨_, .float x⟩
    | _ => cases hForm
  · intro hNumber
    rcases hNumber with ⟨text, hNumber⟩
    cases hNumber with
    | int n => rfl
    | float x => rfl

theorem tells_number
    {value : Value}
    {text : String}
    (hNumber : IsNumber value text) :
    Tells shown Alike value := by
  intro other rest behind hRest hBehind hSame
  have hForm := form_eq_of_append hSame
  rw [form_eq_number_iff.mpr ⟨text, hNumber⟩] at hForm
  rcases form_eq_number_iff.mp hForm.symm with ⟨also, hOther⟩
  rw [hNumber.shown_eq, hOther.shown_eq] at hSame
  rcases hNumber.isNumerical.append_inj hOther.isNumerical hRest
    hBehind hSame with ⟨hText, hEnd⟩
  rw [← String.toList_inj.mp hText] at hOther
  exact ⟨.number hNumber hOther, hEnd⟩

theorem tells_list
    {items : List Value}
    (hItems : ∀ item ∈ items, Tells shown Alike item) :
    Tells shown Alike (list items) := by
  intro other rest behind _ _ hSame
  have hForm := form_eq_of_append hSame
  cases other with
  | list others =>
      rw [shown_list, shown_list, List.cons_append, List.cons_append,
        List.append_assoc, List.append_assoc] at hSame
      have hRow := (List.cons.inj hSame).2
      rcases row_inj (by decide) (by decide)
        (exists_shown_eq_cons (by decide)) hItems hRow with
        ⟨hAlike, hEnd⟩
      exact ⟨.list hAlike, hEnd⟩
  | _ => cases hForm

theorem tells_member
    {member : Wide × Value}
    (hValue : Tells shown Alike member.2) :
    Tells shownMember (fun m n => m.1 = n.1 ∧ m.2.Alike n.2)
      member := by
  intro other rest behind hRest hBehind hSame
  rw [shownMember, shownMember, List.append_assoc,
    List.append_assoc] at hSame
  rcases Wide.quoted_append_inj hSame with ⟨hName, hBoth⟩
  have hValues := (List.cons.inj (List.cons.inj hBoth).2).2
  rcases hValue other.2 rest behind hRest hBehind hValues with
    ⟨hAlike, hEnd⟩
  exact ⟨⟨hName, hAlike⟩, hEnd⟩

theorem Alike.of_members
    {members others : Members}
    (hMembers :
      List.Forall₂ (fun m n => m.1 = n.1 ∧ m.2.Alike n.2)
        members others) :
    Alike (.object members) (.object others) := by
  apply Alike.object
  · induction hMembers with
    | nil => rfl
    | cons hMember _ ih => simp [hMember.1, ih]
  · induction hMembers with
    | nil => exact .nil
    | cons hMember _ ih => exact .cons hMember.2 ih

theorem tells_object
    {members : Members}
    (hMembers : ∀ member ∈ members, Tells shown Alike member.2) :
    Tells shown Alike (object members) := by
  intro other rest behind _ _ hSame
  have hForm := form_eq_of_append hSame
  cases other with
  | object others =>
      rw [shown_object, shown_object, List.cons_append, List.cons_append,
        List.append_assoc, List.append_assoc] at hSame
      have hRow := (List.cons.inj hSame).2
      rcases row_inj (by decide) (by decide)
        (exists_shownMember_eq_cons (by decide))
        (fun member hMember => tells_member (hMembers member hMember))
        hRow with ⟨hAlike, hEnd⟩
      exact ⟨.of_members hAlike, hEnd⟩
  | _ => cases hForm

theorem sizeOf_snd_lt
    {member : Wide × Value}
    {members : Members}
    (hMember : member ∈ members) :
    sizeOf member.2 < sizeOf members := by
  have hSize := List.sizeOf_lt_of_mem hMember
  rcases member with ⟨name, value⟩
  simp only [Prod.mk.sizeOf_spec] at hSize
  simp only
  omega

/-
  What is shown of a value tells which one it is. The induction
  is on the value: a row tells its parts if each of them tells
  itself.
-/
theorem tells
    (value : Value) :
    Tells shown Alike value := by
  cases hValue : value with
  | null =>
      intro other rest behind _ _ hSame
      have hForm := form_eq_of_append hSame
      cases other with
      | null => exact ⟨.null, List.append_cancel_left hSame⟩
      | _ => cases hForm
  | bool b =>
      intro other rest behind _ _ hSame
      have hForm := form_eq_of_append hSame
      cases other with
      | bool c =>
          cases b with
          | true =>
              cases c with
              | true => exact ⟨.bool true, List.append_cancel_left hSame⟩
              | false => cases (List.cons.inj hSame).1
          | false =>
              cases c with
              | true => cases (List.cons.inj hSame).1
              | false => exact ⟨.bool false, List.append_cancel_left hSame⟩
      | _ => cases hForm
  | int n => exact tells_number (.int n)
  | float x => exact tells_number (.float x)
  | text s =>
      intro other rest behind _ _ hSame
      have hForm := form_eq_of_append hSame
      cases other with
      | text t =>
          rcases Wide.quoted_append_inj hSame with ⟨rfl, hEnd⟩
          exact ⟨.text s, hEnd⟩
      | _ => cases hForm
  | list items =>
      exact tells_list fun item hItem => tells item
  | object members =>
      apply tells_object
      intro member hMember
      have hSmaller := sizeOf_snd_lt hMember
      exact tells member.2
termination_by value

theorem map_shown_eq
    {items others : List Value}
    (hItems :
      ∀ item ∈ items, ∀ other, item.Alike other →
        item.shown = other.shown)
    (hAlike : List.Forall₂ Alike items others) :
    items.map shown = others.map shown := by
  induction hAlike with
  | nil => rfl
  | cons hFirst _ ih =>
      rw [List.forall_mem_cons] at hItems
      rw [List.map_cons, List.map_cons, hItems.1 _ hFirst,
        ih hItems.2]

theorem map_shownMember_eq
    {members others : Members}
    (hMembers :
      ∀ member ∈ members, ∀ other, member.2.Alike other →
        member.2.shown = other.shown)
    (hNames : members.map Prod.fst = others.map Prod.fst)
    (hValues :
      List.Forall₂ Alike (members.map Prod.snd)
        (others.map Prod.snd)) :
    members.map shownMember = others.map shownMember := by
  induction members generalizing others with
  | nil =>
      cases others with
      | nil => rfl
      | cons other others => cases hNames
  | cons member members ih =>
      rw [List.forall_mem_cons] at hMembers
      cases others with
      | nil => cases hNames
      | cons other others =>
          rcases List.cons.inj hNames with ⟨hName, hRest⟩
          rcases List.forall₂_cons.mp hValues with ⟨hValue, hBehind⟩
          rw [List.map_cons, List.map_cons,
            ih hMembers.2 hRest hBehind, shownMember, shownMember,
            hName, hMembers.1 _ hValue]

/- Values that are alike are shown in the same way. -/
theorem Alike.shown_eq
    {value other : Value}
    (hAlike : value.Alike other) :
    value.shown = other.shown := by
  cases hAlike with
  | null => rfl
  | bool b => rfl
  | number hFirst hSecond =>
      rw [hFirst.shown_eq, hSecond.shown_eq]
  | text s => rfl
  | list hItems =>
      rw [shown_list, shown_list]
      rw [map_shown_eq (fun _ _ _ hOther => hOther.shown_eq) hItems]
  | object hNames hValues =>
      rw [shown_object, shown_object]
      rw [map_shownMember_eq ?_ hNames hValues]
      intro member hMember other hOther
      have hSmaller := sizeOf_snd_lt hMember
      exact hOther.shown_eq
termination_by value

/- What is shown is the same exactly for values that are alike. -/
theorem quoted_eq_iff
    {value other : Value} :
    value.quoted = other.quoted ↔ value.Alike other := by
  constructor
  · intro hSame
    have hLists : value.shown ++ [] = other.shown ++ [] := by
      rw [shown, shown, hSame]
    have hNothing : Ends [] := by simp [Ends]
    exact (tells value other [] [] hNothing hNothing hLists).1
  · intro hAlike
    exact String.toList_inj.mp hAlike.shown_eq

end Value

end Json

end LookingGlass
