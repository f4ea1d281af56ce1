import LookingGlass.Proofs.Outcome
import LookingGlass.Proofs.Query.Canonical
import LookingGlass.Proofs.Text.Wide
import LookingGlass.Query.Wide

/-
  Reading the links of any text, and writing the links of what
  was read. Texts of characters are read as without wide texts.
  A link is refused for its mode only, and what is read of any
  other one settles after one round, unless half of a pair is
  in the query: then there is no link of it.

  Main declarations:
    * `Query.wide`
    * `WideQuery.ofLink_ofString`
    * `WideQuery.HoldsHalf` and `WideQuery.spell_cases`
    * `WideQuery.IsRefused` and `WideQuery.ofLink_cases`
    * `WideQuery.reading_settles`
-/

namespace LookingGlass

open Text (Fields Point Wide)

/- A query as one of texts that may be wide. -/
def Query.wide
    (q : Query) : WideQuery where
  mode := q.mode
  value := q.value
  router := q.router
  rd := q.rd.map Wide.ofString
  rd_ne_default := by
    intro hDefault
    rcases Option.map_eq_some_iff.mp hDefault with ⟨rd, hRd, hSame⟩
    rw [Wide.ofString_injective hSame] at hRd
    exact q.rd_ne_default hRd

/- An error as one that names a text that may be wide. -/
def Query.Error.wide :
    Query.Error → WideQuery.Error
  | .unknownMode name => .unknownMode name

namespace WideQuery

------------------------------------------------------------
-- Texts of Characters
------------------------------------------------------------

theorem decodeBehind_map
    (run cs : List Char) :
    Text.Percent.decodeBehind run (cs.map .scalar) =
      (Text.Percent.decodeLossy (run.reverse ++ cs)).map .scalar := by
  induction cs generalizing run with
  | nil => simp [Text.Percent.decodeBehind]
  | cons c cs ih => simp [Text.Percent.decodeBehind, ih]

/- A text of characters is a single run. -/
theorem decodePoints_map
    (cs : List Char) :
    Text.Percent.decodePoints (cs.map .scalar) =
      (Text.Percent.decodeLossy cs).map .scalar :=
  decodeBehind_map [] cs

theorem scalar_injective
    (c d : Char)
    (hSame : Point.scalar c = .scalar d) :
    c = d :=
  Point.scalar.inj hSame

theorem ofString_ofList
    (cs : List Char) :
    Wide.ofString (String.ofList cs) = ⟨cs.map .scalar⟩ := by
  rw [Wide.ofString, String.toList_ofList]

theorem parameterText_map
    (cs : List Char) :
    parameterText (cs.map .scalar) =
      (String.ofList
        (Text.Percent.decodeLossy (Fields.spaced cs)) : Wide) := by
  have hSpaced :
      (cs.map Point.scalar).map
          (fun p => if p = .scalar '+' then .scalar ' ' else p) =
        (Fields.spaced cs).map .scalar := by
    simp only [Fields.spaced, List.map_map]
    apply List.map_congr_left
    intro c _
    by_cases hPlus : c = '+' <;> simp [hPlus]
  rw [parameterText, hSpaced, decodePoints_map, ofString_ofList]

theorem parameters_map
    (cs : List Char) :
    parameters (cs.map .scalar) =
      (Fields.read Text.Percent.decodeLossy cs).map
        fun (name, value) => ((name : Wide), (value : Wide)) := by
  have hPieces :
      Text.pieces (Point.scalar '&') (cs.map .scalar) =
        (Text.pieces '&' cs).map (List.map .scalar) :=
    Text.pieces_map scalar_injective '&' cs
  have hCut (piece : List Char) :
      Text.cut (Point.scalar '=') (piece.map .scalar) =
        ((Text.cut '=' piece).1.map .scalar,
          (Text.cut '=' piece).2.map (List.map .scalar)) :=
    Text.cut_map scalar_injective '=' piece
  rw [parameters, hPieces, List.filter_map, Fields.read,
    List.map_map, List.map_map]
  have hKept :
      ((fun piece : List Point => !piece.isEmpty) ∘
          List.map Point.scalar) =
        fun piece : List Char => !piece.isEmpty := by
    funext piece
    cases piece <;> rfl
  rw [hKept]
  apply List.map_congr_left
  intro piece _
  simp only [Function.comp_apply, hCut, parameterText_map]
  cases (Text.cut '=' piece).2 with
  | none => exact Prod.ext rfl (parameterText_map [])
  | some cs => exact Prod.ext rfl (parameterText_map cs)

/- A parameter has the same value under the same name. -/
theorem lookup_map
    (fields : Fields)
    (name : String) :
    (fields.map fun (name, value) =>
        ((name : Wide), (value : Wide))).lookup (name : Wide) =
      (fields.lookup name).map Wide.ofString := by
  induction fields with
  | nil => rfl
  | cons field rest ih =>
      rcases field with ⟨other, value⟩
      by_cases hName : name = other
      · simp [hName]
      · have hOther : (name : Wide) ≠ (other : Wide) :=
          fun hSame => hName (Wide.ofString_injective hSame)
        simp [List.lookup_cons, beq_false_of_ne hName,
          beq_false_of_ne hOther, ih]

theorem make_wide
    (mode : Mode)
    (value router : String)
    (rd : Option String) :
    make mode value router (rd.map Wide.ofString) =
      (Query.make mode value router rd).wide := by
  by_cases hDefault : rd = some defaultInstance
  · simp [make, Query.make, Query.wide, hDefault]
  · have hOther :
        rd.map Wide.ofString ≠ some (defaultInstance : Wide) := by
      intro hSame
      rcases Option.map_eq_some_iff.mp hSame with ⟨s, hRd, hText⟩
      rw [Wide.ofString_injective hText] at hRd
      exact hDefault hRd
    simp [make, Query.make, Query.wide, hDefault, hOther]

theorem ofNames_wide
    (mode value router : String)
    (rd : Option String) :
    ofNames mode value router (rd.map Wide.ofString) =
      ((Query.ofNames mode value router rd).map
        Query.wide).mapError Query.Error.wide := by
  have hFind :
      Mode.all.find? (fun known =>
          (known.name : Wide) == (mode : Wide)) =
        Mode.ofName? mode := by
    unfold Mode.ofName?
    congr 1
    funext known
    rw [Bool.eq_iff_iff, beq_iff_eq, beq_iff_eq]
    exact ⟨Wide.ofString_injective, congrArg Wide.ofString⟩
  rw [ofNames, hFind, Query.ofNames, Query.modeOfName]
  cases Mode.ofName? mode with
  | none => rfl
  | some known => exact congrArg Except.ok (make_wide ..)

theorem ofParts_wide
    (mode : List Char)
    (value : Option (List Char))
    (fields : Fields) :
    ofParts (mode.map .scalar) (value.map (List.map .scalar))
        (fun name =>
          (fields.map fun (name, value) =>
            ((name : Wide), (value : Wide))).reverse.lookup name) =
      ((Query.ofParts mode value fields.last?).map
        Query.wide).mapError Query.Error.wide := by
  have hParameter (name : String) :
      (fields.map fun (name, value) =>
          ((name : Wide), (value : Wide))).reverse.lookup (name : Wide) =
        (fields.last? name).map Wide.ofString := by
    rw [← List.map_reverse, lookup_map]
    rfl
  have hRouter :
      ((fields.last? Query.routerFilter).map Wide.ofString).getD
          (allRouters : Wide) =
        ((fields.last? Query.routerFilter).getD allRouters : Wide) := by
    cases fields.last? Query.routerFilter <;> rfl
  simp only [ofParts, hParameter, hRouter, Query.ofParts,
    List.isEmpty_map, Option.isNone_map]
  split
  case isTrue => exact congrArg Except.ok (make_wide ..)
  case isFalse =>
    rw [← ofNames_wide, ofString_ofList, ofString_ofList]
    cases value <;> rfl

/- A link of characters is read as it is without wide texts. -/
theorem ofLink_ofString
    (link : String) :
    ofLink link =
      ((Query.ofLink link).map Query.wide).mapError
        Query.Error.wide := by
  have hBody :
      Text.dropLead (.scalar '/')
          (Text.dropLead (.scalar '#') (link : Wide).points) =
        (Text.dropLead '/' (Text.dropLead '#' link.toList)).map
          .scalar := by
    rw [Wide.points_ofString, Text.dropLead_map scalar_injective,
      Text.dropLead_map scalar_injective]
  simp only [ofLink, Query.ofLink, hBody]
  generalize Text.dropLead '/' (Text.dropLead '#' link.toList) = body
  have hParameters :
      parameters
          (((Text.cut '?' body).2.map
            (List.map Point.scalar)).getD []) =
        (Fields.read Text.Percent.decodeLossy
          ((Text.cut '?' body).2.getD [])).map
            fun (name, value) => ((name : Wide), (value : Wide)) := by
    cases (Text.cut '?' body).2 with
    | none => exact parameters_map []
    | some cs => exact parameters_map cs
  have hValue (value : Option (List Char)) :
      (value.map (List.map Point.scalar)).map
          Text.Percent.decodePoints =
        (value.map Text.Percent.decodeLossy).map
          (List.map .scalar) := by
    cases value with
    | none => rfl
    | some cs => exact congrArg some (decodePoints_map cs)
  rw [Text.cut_map scalar_injective, Text.cut_map scalar_injective]
  simp only [hParameters, hValue]
  exact ofParts_wide _ _ _

------------------------------------------------------------
-- Writing
------------------------------------------------------------

/- Whether half of a pair stands alone in a text of a query. -/
def HoldsHalf
    (q : WideQuery) : Prop :=
  q.value.HoldsHalf ∨ q.router.HoldsHalf ∨
    ∃ rd, q.rd = some rd ∧ rd.HoldsHalf

theorem spell_wide
    (q : Query) :
    q.wide.spell = .ok q := by
  rcases q with ⟨mode, value, router, rd, hDefault⟩
  have hSame :
      Query.make mode value router rd =
        ⟨mode, value, router, rd, hDefault⟩ :=
    Query.make_rd ⟨mode, value, router, rd, hDefault⟩ mode value router
  rw [← hSame]
  simp only [spell, Query.wide, hSame, Wide.spell_ofString]
  cases rd with
  | none => exact congrArg Except.ok hSame
  | some rd =>
      simp only [Option.map_some, Wide.spell_ofString]
      exact congrArg Except.ok hSame

/- A query without a half is one of characters. -/
theorem exists_eq_wide
    {q : WideQuery}
    (hWhole : ¬ q.HoldsHalf) :
    ∃ p : Query, q = p.wide := by
  rcases q with ⟨mode, value, router, rd, hDefault⟩
  rcases not_or.mp hWhole with ⟨hValue, hRest⟩
  rcases not_or.mp hRest with ⟨hRouter, hRd⟩
  obtain ⟨v, rfl⟩ := Wide.exists_eq_ofString hValue
  obtain ⟨r, rfl⟩ := Wide.exists_eq_ofString hRouter
  cases rd with
  | none =>
      exact ⟨⟨mode, v, r, none, by simp⟩, rfl⟩
  | some rd =>
      have hInstance : ¬ rd.HoldsHalf :=
        fun hHalf => hRd ⟨rd, rfl, hHalf⟩
      obtain ⟨d, rfl⟩ := Wide.exists_eq_ofString hInstance
      refine ⟨⟨mode, v, r, some d, ?_⟩, rfl⟩
      intro hSame
      rw [Option.some.inj hSame] at hDefault
      exact hDefault rfl

theorem exists_spell_eq_error
    {q : WideQuery}
    (hHalf : q.HoldsHalf) :
    ∃ fault, q.spell = .error fault := by
  by_cases hValue : q.value.HoldsHalf
  · refine ⟨q.value.fault, ?_⟩
    simp only [spell, Wide.spell_of_holdsHalf hValue]
  · obtain ⟨value, hValue⟩ := Wide.exists_eq_ofString hValue
    by_cases hRouter : q.router.HoldsHalf
    · refine ⟨q.router.fault, ?_⟩
      simp only [spell, hValue, Wide.spell_ofString,
        Wide.spell_of_holdsHalf hRouter]
    · obtain ⟨router, hRouter⟩ := Wide.exists_eq_ofString hRouter
      rcases hHalf with hHalf | hHalf | ⟨rd, hRd, hHalf⟩
      · rw [hValue] at hHalf
        exact absurd hHalf (Wide.not_holdsHalf_ofString value)
      · rw [hRouter] at hHalf
        exact absurd hHalf (Wide.not_holdsHalf_ofString router)
      · refine ⟨rd.fault, ?_⟩
        simp only [spell, hValue, hRouter, Wide.spell_ofString, hRd,
          Wide.spell_of_holdsHalf hHalf]
        rfl

------------------------------------------------------------
-- Refused Links
------------------------------------------------------------

/- A link without its filters and its first two characters. -/
def pathOfLink
    (link : Wide) : List Point :=
  (Text.dropLead (.scalar '/')
    (Text.dropLead (.scalar '#') link.points)).takeWhile
      (· ≠ .scalar '?')

/- The part of a link that has to be the name of a mode. -/
def modeOfLink
    (link : Wide) : Wide :=
  ⟨(pathOfLink link).takeWhile (· ≠ .scalar '/')⟩

/- Whether a link has a path, but not one of a mode. -/
def IsRefused
    (link : Wide) : Prop :=
  pathOfLink link ≠ [] ∧
    ∀ mode : Mode, (mode.name : Wide) ≠ modeOfLink link

theorem ofNames_cases
    (mode value router : Wide)
    (rd : Option Wide) :
    (ofNames mode value router rd = .error (.unknownMode mode) ∧
        ∀ known : Mode, (known.name : Wide) ≠ mode) ∨
      ∃ known : Mode, (known.name : Wide) = mode ∧
        ofNames mode value router rd =
          .ok (make known value router rd) := by
  unfold ofNames
  cases hFound : Mode.all.find? fun known =>
      (known.name : Wide) == mode with
  | some known =>
      right
      exact ⟨known, by simpa using List.find?_some hFound, rfl⟩
  | none =>
      left
      refine ⟨rfl, ?_⟩
      intro known hName
      have hListed : known ∈ Mode.all := by
        cases known <;> decide
      have hNone := List.find?_eq_none.mp hFound known hListed
      simp [hName] at hNone

/-
  A link is refused for its mode, or it is read. Its filters
  have no say in that.
-/
theorem ofLink_cases
    (link : Wide) :
    (IsRefused link ∧
        ofLink link = .error (.unknownMode (modeOfLink link))) ∨
      ¬ IsRefused link ∧ ∃ q, ofLink link = .ok q := by
  have hPath :
      (Text.cut (.scalar '?') (Text.dropLead (.scalar '/')
        (Text.dropLead (.scalar '#') link.points))).1 =
          pathOfLink link :=
    Text.cut_eq_takeWhile _ _
  have hMode :
      (Text.cut (.scalar '/') (pathOfLink link)).1 =
        (modeOfLink link).points :=
    Text.cut_eq_takeWhile _ _
  simp only [ofLink, hPath, hMode]
  by_cases hEmpty : pathOfLink link = []
  · right
    constructor
    · exact fun hRefused => hRefused.1 hEmpty
    · have hNeither := (Text.cut_eq_empty_iff (.scalar '/') _).mpr hEmpty
      rw [hMode] at hNeither
      refine ⟨_, if_pos ?_⟩
      simpa using hNeither
  · have hSome :
        ¬ ((modeOfLink link).points.isEmpty ∧
          ((Text.cut (.scalar '/') (pathOfLink link)).2.map
            Text.Percent.decodePoints).isNone) := by
      intro hNeither
      apply hEmpty
      apply (Text.cut_eq_empty_iff (.scalar '/') _).mp
      rw [hMode]
      simpa using hNeither
    rw [ofParts, if_neg hSome]
    rcases ofNames_cases (modeOfLink link) _ _ _ with
      ⟨hError, hNames⟩ | ⟨mode, hName, hOk⟩
    · left
      exact ⟨⟨hEmpty, hNames⟩, hError⟩
    · right
      constructor
      · intro hRefused
        exact hRefused.2 mode hName
      · exact ⟨_, hOk⟩

------------------------------------------------------------
-- Settling
------------------------------------------------------------

/- A link that is written is read, and written once more. -/
theorem link_settles
    (q : Query) :
    ∃ p, ofLink q.link = .ok p ∧ p.link = .ok q.link := by
  refine ⟨q.settled.wide, ?_, ?_⟩
  · rw [ofLink_ofString, Query.ofLink_link]
    rfl
  · rw [link, spell_wide]
    exact congrArg Except.ok (Query.link_settled q)

/-
  A link is refused exactly if it has a path without a mode; any
  other one is read as a query. If half of a pair is in this
  query, there is no link of it; otherwise there is one, and it
  stays the same from there on. The links that are the same from
  the start are the canonical ones.
-/
theorem reading_settles
    (link : Wide) :
    ((IsRefused link ∧
        ofLink link = .error (.unknownMode (modeOfLink link))) ∨
      ¬ IsRefused link ∧
        ∃ q, ofLink link = .ok q ∧
          (q.HoldsHalf ∧ (∃ fault, q.link = .error fault) ∨
            ¬ q.HoldsHalf ∧
              ∃ (written : String) (p : WideQuery),
                q.link = .ok written ∧ ofLink written = .ok p ∧
                  p.link = .ok written)) ∧
    ((∃ (q : WideQuery) (written : String),
        ofLink link = .ok q ∧ q.link = .ok written ∧
          (written : Wide) = link) ↔
      ∃ canonical : String,
        link = canonical ∧ Query.IsCanonical canonical) := by
  constructor
  · rcases ofLink_cases link with hRefused | ⟨hNot, q, hRead⟩
    · exact Or.inl hRefused
    · refine Or.inr ⟨hNot, q, hRead, ?_⟩
      by_cases hHalf : q.HoldsHalf
      · left
        obtain ⟨fault, hSpell⟩ := exists_spell_eq_error hHalf
        refine ⟨hHalf, fault, ?_⟩
        rw [WideQuery.link, hSpell]
        rfl
      · right
        obtain ⟨p, rfl⟩ := exists_eq_wide hHalf
        obtain ⟨again, hAgain, hSame⟩ := link_settles p
        refine ⟨hHalf, p.link, again, ?_, hAgain, hSame⟩
        rw [WideQuery.link, spell_wide]
        rfl
  · constructor
    · intro hFixed
      rcases hFixed with ⟨q, written, hRead, hWritten, rfl⟩
      refine ⟨written, rfl, ?_⟩
      rw [ofLink_ofString, mapError_eq_ok_iff, map_eq_ok_iff] at hRead
      rcases hRead with ⟨p, _, rfl⟩
      rw [WideQuery.link, spell_wide] at hWritten
      exact (Query.isCanonical_iff_exists_link written).mpr
        ⟨p, Except.ok.inj hWritten⟩
    · intro hCanonical
      rcases hCanonical with ⟨canonical, rfl, hGrammar⟩
      rcases (Query.isCanonical_iff_exists_link canonical).mp hGrammar
        with ⟨q, rfl⟩
      rcases link_settles q with ⟨p, hRead, hSame⟩
      exact ⟨p, q.link, hRead, hSame, rfl⟩

/- A link that holds half of a pair. -/
def halfLink : Wide :=
  ("#/Exact/" : Wide) ++ Wide.firstHalf

/- A link of two escaped bytes with a character in between. -/
def partedLink : String :=
  "#/Exact/%C3a%A9"

/-
  There is no link of what is read of the first one. The second
  one is not kept, although its two escapes are UTF-8 together.
-/
theorem some_links_do_not_settle :
    (∃ q fault,
      ofLink halfLink = .ok q ∧ q.link = .error fault) ∧
    Text.Utf8.encode ['é'] = [0xC3, 0xA9] ∧
    ∃ q written,
      ofLink partedLink = .ok q ∧ q.link = .ok written ∧
        written ≠ partedLink := by
  refine ⟨?_, by decide, ?_⟩
  · refine ⟨make .exact Wide.firstHalf allRouters none,
      Wide.firstHalf.fault, ?_, ?_⟩
    · rfl
    · rfl
  · refine ⟨make .exact "\uFFFDa\uFFFD" allRouters none,
      "#/Exact/%EF%BF%BDa%EF%BF%BD", ?_, ?_, ?_⟩
    · rfl
    · rfl
    · decide

end WideQuery

end LookingGlass
