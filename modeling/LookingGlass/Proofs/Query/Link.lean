import LookingGlass.Proofs.Text.Fields
import LookingGlass.Query.Link

/-
  Correctness of links: a link is read as the query that it
  was made of, but for the mode of a query without a value,
  which no link holds.

  Main declarations:
    * `Query.settled`
    * `Query.ofPath_path`
    * `Query.ofLink_link`
    * `Query.link_round_trip`
-/

namespace LookingGlass

------------------------------------------------------------
-- Modes
------------------------------------------------------------

namespace Mode

@[simp] theorem ofName?_name
    (mode : Mode) :
    ofName? mode.name = some mode := by
  cases mode <;> decide

/- The name of a mode holds nothing but letters. -/
theorem isUnreserved_of_mem_name
    {mode : Mode}
    {c : Char}
    (hc : c ∈ mode.name.toList) :
    Text.Percent.isUnreserved c = true := by
  have hAll :
      mode.name.toList.all Text.Percent.isUnreserved = true := by
    cases mode <;> decide
  exact List.all_eq_true.mp hAll c hc

theorem not_mem_name
    {c : Char}
    (hc : Text.Percent.isUnreserved c = false)
    (mode : Mode) :
    c ∉ mode.name.toList := by
  intro hMem
  simp [isUnreserved_of_mem_name hMem] at hc

end Mode

namespace Query

open Text (Fields)

------------------------------------------------------------
-- Settled Queries
------------------------------------------------------------

/- A query as its link keeps it: no mode without a value. -/
def settled
    (q : Query) : Query :=
  if q.value = "" then { q with mode := .fallback } else q

@[simp] theorem settled_value
    (q : Query) :
    q.settled.value = q.value := by
  unfold settled
  split <;> rfl

@[simp] theorem settled_router
    (q : Query) :
    q.settled.router = q.router := by
  unfold settled
  split <;> rfl

@[simp] theorem settled_rd
    (q : Query) :
    q.settled.rd = q.rd := by
  unfold settled
  split <;> rfl

theorem settled_of_value
    {q : Query}
    (hValue : q.value ≠ "") :
    q.settled = q :=
  if_neg hValue

theorem settled_mode_of_empty
    {q : Query}
    (hValue : q.value = "") :
    q.settled.mode = .fallback := by
  rw [settled, if_pos hValue]

/- Only the mode of a query without a value can get lost. -/
theorem settled_eq_self_iff
    (q : Query) :
    q.settled = q ↔ q.value ≠ "" ∨ q.mode = .mostSpecific := by
  by_cases hValue : q.value = ""
  · cases q
    simp_all [settled, Mode.fallback, eq_comm]
  · simp [settled_of_value hValue, hValue]

theorem eq_of_parts
    {p q : Query}
    (hMode : p.mode = q.mode)
    (hValue : p.value = q.value)
    (hRouter : p.router = q.router)
    (hInstance : p.rd = q.rd) :
    p = q := by
  cases p
  cases q
  simp_all

/- Which queries are the same once they are settled. -/
theorem settled_eq_iff
    (p q : Query) :
    p.settled = q.settled ↔
      p.value = q.value ∧ p.router = q.router ∧
        p.rd = q.rd ∧ (p.value ≠ "" → p.mode = q.mode) := by
  constructor
  · intro hEq
    have hValue := congrArg Query.value hEq
    have hRouter := congrArg Query.router hEq
    have hInstance := congrArg Query.rd hEq
    simp only [settled_value, settled_router, settled_rd] at *
    refine ⟨hValue, hRouter, hInstance, fun hSome => ?_⟩
    rw [settled_of_value hSome,
      settled_of_value (hValue ▸ hSome)] at hEq
    rw [hEq]
  · rintro ⟨hValue, hRouter, hInstance, hMode⟩
    by_cases hNone : p.value = ""
    · apply eq_of_parts <;>
        simp [settled_mode_of_empty hNone,
          settled_mode_of_empty (hValue ▸ hNone), *]
    · rw [settled_of_value hNone,
        settled_of_value (hValue ▸ hNone)]
      exact eq_of_parts (hMode hNone) hValue hRouter hInstance

------------------------------------------------------------
-- Queries of Parts
------------------------------------------------------------

@[simp] theorem mode_make
    (mode : Mode)
    (value router : String)
    (rd : Option String) :
    (make mode value router rd).mode = mode := by
  unfold make
  split <;> rfl

@[simp] theorem value_make
    (mode : Mode)
    (value router : String)
    (rd : Option String) :
    (make mode value router rd).value = value := by
  unfold make
  split <;> rfl

@[simp] theorem router_make
    (mode : Mode)
    (value router : String)
    (rd : Option String) :
    (make mode value router rd).router = router := by
  unfold make
  split <;> rfl

theorem rd_make
    (mode : Mode)
    (value router : String)
    (rd : Option String) :
    (make mode value router rd).rd =
      if rd = some defaultInstance then none else rd := by
  unfold make
  split <;> rfl

/-
  Parameters decide about nothing but the router and the
  routing instance; above all, not about whether there is a
  query.
-/
theorem ofParts_cases
    (mode : List Char)
    (value : Option (List Char)) :
    (∃ e, ∀ parameter, ofParts mode value parameter = .error e) ∨
      ∃ m v, ∀ parameter, ofParts mode value parameter =
        .ok (make m v ((parameter routerFilter).getD allRouters)
          (parameter instanceFilter)) := by
  by_cases hEmpty : mode.isEmpty ∧ value.isNone
  · exact Or.inr ⟨.fallback, "", fun parameter => if_pos hEmpty⟩
  · cases hMode : modeOfName (String.ofList mode) with
    | error e =>
        refine Or.inl ⟨e, fun parameter => ?_⟩
        rw [ofParts, if_neg hEmpty, ofNames, hMode]
        rfl
    | ok m =>
        refine Or.inr ⟨m, String.ofList (value.getD []),
          fun parameter => ?_⟩
        rw [ofParts, if_neg hEmpty, ofNames, hMode]
        rfl

/-
  The default of a filter hides no difference between two
  values, nor between two that are missing.
-/
theorem router_eq_iff
    {r s : Option String}
    (hNone : r = none ↔ s = none) :
    r.getD allRouters = s.getD allRouters ↔ r = s := by
  cases r <;> cases s <;> simp_all

theorem rd_make_eq_iff
    {d e : Option String}
    (hNone : d = none ↔ e = none)
    (m n : Mode)
    (v w r s : String) :
    (make m v r d).rd = (make n w s e).rd ↔ d = e := by
  rw [rd_make, rd_make]
  cases d <;> cases e <;> simp_all
  split <;> split <;> simp_all [eq_comm]

------------------------------------------------------------
-- Parts of a Link
------------------------------------------------------------

/- How names and values are written in a link. -/
abbrev linkPart :
    List Char → List Char :=
  Text.Percent.encode isPlain

@[simp] theorem toList_escaped
    (s : String) :
    (escaped s).toList = linkPart s.toList := by
  simp [escaped]

theorem name_of_mem_filters
    {q : Query}
    {field : String × String}
    (hField : field ∈ q.filters) :
    field.1 = routerFilter ∨ field.1 = instanceFilter := by
  rcases List.mem_append.mp hField with hRouter | hInstance
  · split at hRouter <;> simp_all
  · split at hInstance <;> simp_all

theorem filters_eq_nil_iff
    (q : Query) :
    q.filters = [] ↔ q.router = allRouters ∧ q.rd = none := by
  unfold filters
  cases q.rd <;> simp

/- The names of filters need no escapes. -/
theorem linkPart_name_of_mem_filters
    {q : Query}
    {field : String × String}
    (hField : field ∈ q.filters) :
    linkPart field.1.toList = field.1.toList := by
  apply Text.Percent.encode_of_all_kept
  apply List.all_eq_true.mp
  rcases name_of_mem_filters hField with hName | hName <;>
    rw [hName] <;> decide

/- The filters of a link are fields behind a question mark. -/
theorem toList_linkFilters
    (q : Query) :
    q.linkFilters.toList =
      if q.filters = [] then []
      else '?' :: Fields.write linkPart q.filters := by
  have hFields :
      (q.filters.map fun field =>
          field.1 ++ "=" ++ escaped field.2).map String.toList =
        q.filters.map fun field =>
          linkPart field.1.toList ++
            '=' :: linkPart field.2.toList := by
    rw [List.map_map]
    apply List.map_congr_left
    intro field hField
    simp [linkPart_name_of_mem_filters hField]
  by_cases hNone : q.filters = []
  · simp [linkFilters, hNone]
  · have hSome : q.filters.isEmpty = false := by
      simpa using hNone
    simp [linkFilters, hSome, hNone, Fields.write, ← hFields]

theorem linkPart_append
    (cs ds : List Char) :
    linkPart (cs ++ ds) = linkPart cs ++ linkPart ds :=
  Text.Percent.encode_append cs ds

theorem not_mem_linkPart
    {sep : Char}
    (hSep : Text.Percent.IsSeparator sep)
    (hPlain : isPlain sep = false)
    (cs : List Char) :
    sep ∉ linkPart cs :=
  Text.Percent.not_mem_encode hSep hPlain cs

theorem not_mem_linkPath
    {sep : Char}
    (hSep : Text.Percent.IsSeparator sep)
    (hPlain : isPlain sep = false)
    (q : Query) :
    sep ∉ q.linkPath.toList := by
  have hUnreserved : Text.Percent.isUnreserved sep = false := by
    simp_all [isPlain, Text.Percent.keeping]
  have hSlash : sep ≠ '/' := by
    rintro rfl
    simp [isPlain, Text.Percent.keeping] at hPlain
  unfold linkPath
  split
  · simp
  · simp [Mode.not_mem_name hUnreserved, hSlash,
      not_mem_linkPart hSep hPlain]

/- A link is cut at its filters. -/
theorem cut_linkBody
    (q : Query) :
    Text.cut '?' q.linkBody.toList =
      (q.linkPath.toList,
        if q.filters = [] then none
        else some (Fields.write linkPart q.filters)) := by
  have hPath : '?' ∉ q.linkPath.toList :=
    not_mem_linkPath (by decide) (by decide) q
  rw [linkBody, String.toList_append, toList_linkFilters]
  split
  case isTrue => rw [List.append_nil, Text.cut_of_not_mem hPath]
  case isFalse => rw [Text.cut_append hPath]

/- The filters of a link are read back by any reader of escapes. -/
theorem read_filters
    {decode : List Char → List Char}
    (hDecode : ∀ cs, decode (linkPart cs) = cs)
    (q : Query) :
    Fields.read decode
        ((Text.cut '?' q.linkBody.toList).2.getD []) =
      q.filters := by
  have hPlus (cs : List Char) :
      Fields.spaced (linkPart cs) = linkPart cs :=
    Fields.spaced_of_not_mem
      (not_mem_linkPart (by decide) (by decide) cs)
  have hRead :
      Fields.read decode (Fields.write linkPart q.filters) =
        q.filters := by
    apply Fields.read_write
    · exact not_mem_linkPart (by decide) (by decide)
    · exact not_mem_linkPart (by decide) (by decide)
    · intro cs
      rw [hPlus, hDecode]
  rw [cut_linkBody]
  split
  case isTrue hNone => rw [hNone]; rfl
  case isFalse => exact hRead

------------------------------------------------------------
-- Reading a Link
------------------------------------------------------------

/- Whether parameters hold what the filters of a query say. -/
structure FilteredBy
    (q : Query)
    (parameter : String → Option String) : Prop where
  router_eq : (parameter routerFilter).getD allRouters = q.router
  rd_eq : parameter instanceFilter = q.rd

theorem filteredBy_last?
    (q : Query) :
    q.FilteredBy (Fields.last? q.filters) := by
  constructor <;> unfold Fields.last? filters <;>
    split <;> split <;>
    simp_all [routerFilter, instanceFilter, List.lookup_cons]

theorem make_rd
    (q : Query)
    (mode : Mode)
    (value router : String) :
    make mode value router q.rd =
      { mode, value, router, rd := q.rd
        rd_ne_default := q.rd_ne_default } := by
  rw [make, dif_neg q.rd_ne_default]

@[simp] theorem modeOfName_name
    (mode : Mode) :
    modeOfName mode.name = .ok mode := by
  simp [modeOfName]

/- The path of a link without its escapes. -/
def path
    (q : Query) : List Char :=
  if q.value = "" then []
  else q.mode.name.toList ++ '/' :: q.value.toList

/- The parts of a query's path and its filters give the query. -/
theorem ofPath_path
    {q : Query}
    {parameter : String → Option String}
    (hFilters : q.FilteredBy parameter) :
    ofPath q.path parameter = .ok q.settled := by
  have hSlash := Mode.not_mem_name (c := '/') (by decide) q.mode
  by_cases hValue : q.value = ""
  · have hPath : Text.cut '/' q.path = ([], none) := by
      simp [path, hValue, Text.cut]
    rw [ofPath, hPath, ofParts]
    simp only [List.isEmpty_nil, Option.isNone_none, and_self,
      if_true, hFilters.router_eq, hFilters.rd_eq, make_rd]
    congr 1
    exact eq_of_parts (settled_mode_of_empty hValue).symm
      (by simp [hValue]) (by simp) (by simp)
  · have hPath :
        Text.cut '/' q.path =
          (q.mode.name.toList, some q.value.toList) := by
      rw [path, if_neg hValue, Text.cut_append hSlash]
    rw [ofPath, hPath, ofParts, settled_of_value hValue]
    simp [ofNames, hFilters.router_eq, hFilters.rd_eq, make_rd,
      Except.map]

/- The path of a link has no escapes but those of its value. -/
theorem toList_linkPath
    (q : Query) :
    q.linkPath.toList = linkPart q.path := by
  have hName : linkPart q.mode.name.toList = q.mode.name.toList := by
    apply Text.Percent.encode_of_all_kept
    intro c hc
    simp [isPlain, Text.Percent.keeping,
      Mode.isUnreserved_of_mem_name hc]
  have hSlash : linkPart ['/'] = ['/'] := by
    rfl
  by_cases hValue : q.value = ""
  · simp [linkPath, path, hValue]
  · have hSplit :
        q.path = q.mode.name.toList ++ (['/'] ++ q.value.toList) := by
      simp [path, hValue]
    rw [hSplit, linkPart_append, linkPart_append, hName, hSlash]
    simp [linkPath, hValue]

/- The marks that stand in a link. -/
def linkMarks : String := ":/@%?&="

theorem keeping_of_mem_linkPart
    {c : Char}
    {cs : List Char}
    (hc : c ∈ linkPart cs) :
    Text.Percent.keeping linkMarks c = true := by
  rcases Text.Percent.mem_encode hc with ⟨hPlain, _⟩ | rfl | hDigit
  · exact Text.Percent.keeping_mono (by decide) hPlain
  · decide
  · simp [Text.Percent.keeping,
      Text.Percent.isUnreserved_of_hexValue? hDigit]

/- A link consists of unreserved characters and its marks. -/
theorem keeping_of_mem_linkBody
    {q : Query}
    {c : Char}
    (hc : c ∈ q.linkBody.toList) :
    Text.Percent.keeping linkMarks c = true := by
  rw [linkBody, String.toList_append, List.mem_append,
    toList_linkPath, toList_linkFilters] at hc
  rcases hc with hPath | hFilters
  · exact keeping_of_mem_linkPart hPath
  · split at hFilters
    · cases hFilters
    · rcases List.mem_cons.mp hFilters with rfl | hFields
      · decide
      · rcases Fields.mem_write hFields with
          rfl | rfl | ⟨cs, hPart⟩
        · decide
        · decide
        · exact keeping_of_mem_linkPart hPart

/- The path of a link has the parts of the query's path. -/
theorem cut_linkPath
    (q : Query) :
    (Text.cut '/' q.linkPath.toList).1 = (Text.cut '/' q.path).1 ∧
      (Text.cut '/' q.linkPath.toList).2.map
          Text.Percent.decodeLossy =
        (Text.cut '/' q.path).2 := by
  have hSlash := Mode.not_mem_name (c := '/') (by decide) q.mode
  by_cases hValue : q.value = ""
  · simp [linkPath, path, hValue, Text.cut]
  · have hPath :
        q.linkPath.toList =
          q.mode.name.toList ++ '/' :: linkPart q.value.toList := by
      simp [linkPath, hValue]
    rw [hPath, path, if_neg hValue, Text.cut_append hSlash,
      Text.cut_append hSlash]
    simp [@Text.Percent.decodeLossy_encode isPlain (by decide)]

/- The link itself is read with the escapes of its value. -/
theorem ofLink_link
    (q : Query) :
    ofLink q.link = .ok q.settled := by
  have hDecode (cs : List Char) :
      Text.Percent.decodeLossy (linkPart cs) = cs :=
    Text.Percent.decodeLossy_encode (by decide) cs
  have hBody :
      Text.dropLead '/' (Text.dropLead '#' q.link.toList) =
        q.linkBody.toList := by
    simp [link]
  rw [ofLink, hBody, read_filters hDecode, cut_linkBody,
    (cut_linkPath q).1, (cut_linkPath q).2]
  exact ofPath_path q.filteredBy_last?

/- A link remembers no more of a query than the settled one. -/
theorem link_settled
    (q : Query) :
    q.settled.link = q.link := by
  have hFilters : q.settled.filters = q.filters := by
    simp [filters]
  have hPath : q.settled.linkPath = q.linkPath := by
    by_cases hValue : q.value = ""
    · simp [linkPath, hValue]
    · rw [settled_of_value hValue]
  rw [link, link, linkBody, linkBody, linkFilters, linkFilters,
    hFilters, hPath]

/- Links are the same where the settled queries are. -/
theorem link_eq_iff
    (p q : Query) :
    p.link = q.link ↔ p.settled = q.settled := by
  constructor
  · intro hLink
    have hRead := congrArg ofLink hLink
    rw [ofLink_link, ofLink_link] at hRead
    exact Except.ok.inj hRead
  · intro hSettled
    rw [← link_settled p, hSettled, link_settled]

/-
  A link is always read, and as its own query, except that the
  mode of a query without a value becomes the fallback. So
  nothing else of a query is ever lost in a link.
-/
theorem link_round_trip
    (q : Query) :
    ofLink q.link =
        .ok (if q.value = "" then { q with mode := .mostSpecific }
          else q) ∧
      (ofLink q.link = .ok q ↔
        q.value ≠ "" ∨ q.mode = .mostSpecific) ∧
      ∀ p : Query, p.link = q.link ↔
        p.value = q.value ∧ p.router = q.router ∧
          p.rd = q.rd ∧ (p.value ≠ "" → p.mode = q.mode) := by
  refine ⟨ofLink_link q, ?_, fun p => ?_⟩
  · rw [ofLink_link, Except.ok.injEq, settled_eq_self_iff]
  · rw [link_eq_iff, settled_eq_iff]

end Query

end LookingGlass
