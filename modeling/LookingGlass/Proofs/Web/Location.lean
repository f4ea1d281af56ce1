import LookingGlass.Proofs.Query.Link
import LookingGlass.Web.Notice

/-
  Redirects to links: a link is sent as it is, because all that
  would be escaped in a location is escaped in it already.

  Main declarations:
    * `Location.sent_link`
    * `redirect_link`
-/

namespace LookingGlass.Web

namespace Location

theorem toList_link
    (q : Query) :
    ("/" ++ q.link).toList =
      '/' :: '#' :: '/' :: q.linkBody.toList := by
  simp [Query.link]

theorem keeping_of_mem_fragment
    {q : Query}
    {c : Char}
    (hc : c ∈ '/' :: q.linkBody.toList) :
    Text.Percent.keeping Query.linkMarks c = true := by
  rcases List.mem_cons.mp hc with rfl | hBody
  · decide
  · exact Query.keeping_of_mem_linkBody hBody

/- Nothing in a link would be dropped from a location. -/
theorem not_isLayout_of_mem_link
    {q : Query}
    {c : Char}
    (hc : c ∈ ("/" ++ q.link).toList) :
    isLayout c = false := by
  rw [toList_link] at hc
  rcases List.mem_cons.mp hc with rfl | hRest
  · decide
  · rcases List.mem_cons.mp hRest with rfl | hFragment
    · decide
    · have hKept := keeping_of_mem_fragment hFragment
      rw [Bool.eq_false_iff]
      intro hLayout
      simp only [isLayout, Bool.or_eq_true, beq_iff_eq] at hLayout
      rcases hLayout with (rfl | rfl) | rfl <;>
        revert hKept <;> decide

/- A link behind the root is a path and a fragment. -/
theorem escaped_link
    (q : Query) :
    escaped ('/' :: '#' :: '/' :: q.linkBody.toList) =
      '/' :: '#' :: '/' :: q.linkBody.toList := by
  have hFragment :
      Text.Percent.encode
          (Text.Percent.keeping "%!#$&'()*+,/:;=?@")
          ('/' :: q.linkBody.toList) =
        '/' :: q.linkBody.toList := by
    apply Text.Percent.encode_of_all_kept
    intro c hc
    exact Text.Percent.keeping_mono (by decide)
      (keeping_of_mem_fragment hc)
  have hOuter :
      Text.cut '#' ('/' :: '#' :: '/' :: q.linkBody.toList) =
        (['/'], some ('/' :: q.linkBody.toList)) :=
    @Text.cut_append _ _ '#' ['/'] (by decide) _
  have hInner : Text.cut '?' ['/'] = (['/'], none) := by
    decide
  have hPath :
      Text.Percent.encode
          (Text.Percent.keeping ("%" ++ pathMarks)) ['/'] =
        ['/'] := by
    rfl
  rw [escaped]
  simp only [hOuter, hInner, hPath, marked, Option.getD_none,
    Option.getD_some, hFragment]
  rfl

/- A link behind the root is sent as it is. -/
theorem sent_link
    (q : Query) :
    sent ("/" ++ q.link) = "/" ++ q.link := by
  have hKept :
      ("/" ++ q.link).toList.filter (!isLayout ·) =
        ("/" ++ q.link).toList := by
    rw [List.filter_eq_self]
    intro c hc
    rw [not_isLayout_of_mem_link hc]
    rfl
  have hHost (cs : List Char) :
      host.toList.isPrefixOf ('/' :: cs) = false :=
    rfl
  rw [sent, hKept, toList_link]
  simp only [hHost, Bool.false_eq_true, if_false,
    List.length_nil, List.drop_zero, List.nil_append, escaped_link]
  rw [← toList_link, String.ofList_toList]

theorem isSendable_link
    (q : Query) :
    isSendable ("/" ++ q.link) = true := by
  rw [isSendable, Bool.not_eq_true', List.any_eq_false]
  intro c hc hLine
  have hKept := not_isLayout_of_mem_link hc
  simp only [Bool.or_eq_true, decide_eq_true_eq] at hLine
  rcases hLine with rfl | rfl <;> revert hKept <;> decide

end Location

/- A redirect to a link leads to the link. -/
theorem redirect_link
    (status : Nat)
    (q : Query) :
    redirect status ("/" ++ q.link) =
      .ok
        { status
          location := some ("/" ++ q.link)
          body := Page.print (redirectPage ("/" ++ q.link)) } := by
  rw [redirect, if_pos (Location.isSendable_link q),
    Location.sent_link]

end LookingGlass.Web
