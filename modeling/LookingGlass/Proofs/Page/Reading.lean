import LookingGlass.Proofs.Page.Reader

/-
  Correctness of the reader of pages: it finds the tokens that
  a page was printed from, except that texts in a row come out
  as one, and gaps between attributes not at all. So no text
  and no value can add or end a tag.

  Main declarations:
    * `Readable`
    * `gather`
    * `Reader.finds_gather`
    * `Reader.read_print`
-/

namespace LookingGlass.Page

------------------------------------------------------------
-- Readable Pages
------------------------------------------------------------

/- Whether a text can be the name of a tag or an attribute. -/
def IsName
    (s : String) : Prop :=
  s.toList ≠ [] ∧ s.toList.all Reader.isNameChar = true

instance
    (s : String) :
    Decidable (IsName s) :=
  inferInstanceAs (Decidable (_ ∧ _))

theorem IsName.isNameChar_of_mem
    {s : String}
    (hName : IsName s)
    {c : Char}
    (hc : c ∈ s.toList) :
    Reader.isNameChar c = true :=
  List.all_eq_true.mp hName.2 c hc

/- Whether an attribute is one to a reader. -/
def Attribute.isReadable :
    Attribute → Bool
  | .valued name _ => decide (IsName name)
  | .bare name => decide (IsName name)
  | .gap => true

/- Whether a token is one to a reader, outside of scripts. -/
def Token.isReadable :
    Token → Bool
  | .text _ => true
  | .declaration s => !s.toList.contains '>'
  | .opening name entries =>
    decide (IsName name) && name != Reader.scriptName &&
      entries.all Attribute.isReadable
  | .single name entries =>
    decide (IsName name) && entries.all Attribute.isReadable
  | .closing name => decide (IsName name)
  | .verbatim _ => false

/- The attributes without the gaps between them. -/
def tidy
    (entries : List Attribute) : List Attribute :=
  entries.filter (· ≠ .gap)

/-
  Whether a page consists of such tokens, and of scripts in
  which nothing looks like the end of a tag.
-/
inductive Readable :
    List Token → Prop
  | nil : Readable []
  | cons {token : Token} {rest : List Token}
      (hToken : token.isReadable = true) :
      Readable rest → Readable (token :: rest)
  | script {s : String} {rest : List Token}
      (hEnd : '>' ∉ s.toList) :
      Readable rest →
        Readable (.opening Reader.scriptName [] :: .verbatim s ::
          .closing Reader.scriptName :: rest)

theorem Readable.append
    {before after : List Token}
    (hBefore : Readable before)
    (hAfter : Readable after) :
    Readable (before ++ after) := by
  induction hBefore with
  | nil => exact hAfter
  | cons hToken _ ih => exact .cons hToken ih
  | script hEnd _ ih => exact .script hEnd ih

/- A page without scripts is readable if its tokens are. -/
theorem Readable.of_all
    {tokens : List Token}
    (hAll : tokens.all Token.isReadable = true) :
    Readable tokens := by
  induction tokens with
  | nil => exact .nil
  | cons token rest ih =>
      rw [List.all_cons, Bool.and_eq_true] at hAll
      exact .cons hAll.1 (ih hAll.2)

/- The token of a text that may be empty. -/
def shown
    (seen : List Char) : List Token :=
  if seen.isEmpty then [] else [.text (String.ofList seen)]

/-
  The tokens of a page as a reader finds them, behind a text
  that has been seen already.
-/
def gather
    (seen : List Char) :
    List Token → List Token
  | [] => shown seen
  | .text s :: rest => gather (seen ++ s.toList) rest
  | .opening name entries :: rest =>
    shown seen ++ .opening name (tidy entries) :: gather [] rest
  | .single name entries :: rest =>
    shown seen ++ .single name (tidy entries) :: gather [] rest
  | .declaration s :: rest =>
    shown seen ++ .declaration s :: gather [] rest
  | .closing name :: rest =>
    shown seen ++ .closing name :: gather [] rest
  | .verbatim s :: rest =>
    shown seen ++ .verbatim s :: gather [] rest

namespace Reader

------------------------------------------------------------
-- Runs
------------------------------------------------------------

/- A run over two texts is a run over one after the other. -/
theorem run_append
    {state next last : State}
    {cs ds : List Char}
    {tokens more : List Token}
    (hFirst : run state cs = some (tokens, next))
    (hSecond : run next ds = some (more, last)) :
    run state (cs ++ ds) = some (tokens ++ more, last) := by
  induction cs generalizing state tokens with
  | nil =>
      simp only [run, Option.some.injEq, Prod.mk.injEq] at hFirst
      rcases hFirst with ⟨rfl, rfl⟩
      exact hSecond
  | cons c cs ih =>
      simp only [run, Option.bind_eq_bind,
        Option.bind_eq_some_iff] at hFirst
      rcases hFirst with
        ⟨⟨out, between⟩, hStep, ⟨others, final⟩, hRest, hEq⟩
      simp only [Option.pure_def, Option.some.injEq,
        Prod.mk.injEq] at hEq
      rcases hEq with ⟨rfl, rfl⟩
      simp [run, hStep, ih hRest]

theorem run_singleton
    {state next : State}
    {c : Char}
    {tokens : List Token}
    (hStep : step state c = some (tokens, next)) :
    run state [c] = some (tokens, next) := by
  simp [run, hStep]

/- A state that only takes up characters takes up many of them. -/
theorem run_collect
    {P : Char → Prop}
    {state : List Char → State}
    (hStep : ∀ seen c, P c →
      step (state seen) c = some ([], state (seen ++ [c])))
    {cs : List Char}
    (hAll : ∀ c ∈ cs, P c)
    (seen : List Char) :
    run (state seen) cs = some ([], state (seen ++ cs)) := by
  induction cs generalizing seen with
  | nil => simp [run]
  | cons c cs ih =>
      have hRest :=
        ih (fun d hd => hAll d (by simp [hd])) (seen ++ [c])
      simp [run, hStep seen c (hAll c (by simp)), hRest]

------------------------------------------------------------
-- Tags
------------------------------------------------------------

theorem ne_of_isNameChar
    {c d : Char}
    (hc : isNameChar c = true)
    (hd : isNameChar d = false) :
    c ≠ d := by
  rintro rfl
  simp [hc] at hd

/- The start tag that a state stands for, read up to there. -/
def State.tag? :
    State → Option Tag
  | .opening name => some ⟨String.ofList name, []⟩
  | .inside tag => some tag
  | .naming tag name =>
    some (tag.add (.bare (String.ofList name)))
  | _ => none

/- A tag with more attributes, of which gaps do not count. -/
def Tag.addAll
    (tag : Tag)
    (entries : List Attribute) : Tag :=
  { tag with attributes := tag.attributes ++ tidy entries }

/- What ends a name ends it for the tag that it belongs to. -/
theorem step_of_tag?
    {state : State}
    {tag : Tag}
    (hTag : state.tag? = some tag)
    {c : Char}
    (hName : isNameChar c = false)
    (hEquals : c ≠ '=') :
    step state c = within tag c := by
  cases state <;> simp only [State.tag?, Option.some.injEq,
    reduceCtorEq] at hTag
  case opening => simp [step, hName, hTag]
  case inside => simp [step, hTag]
  case naming => simp [step, hName, hEquals, hTag]

/- A name is taken up behind the letter that it starts with. -/
theorem run_letters
    {start : State}
    {state : List Char → State}
    (hStart : ∀ c, isNameChar c = true →
      step start c = some ([], state [c]))
    (hMore : ∀ seen c, isNameChar c = true →
      step (state seen) c = some ([], state (seen ++ [c])))
    {name : String}
    (hName : IsName name) :
    run start name.toList = some ([], state name.toList) := by
  have hChars := fun c => hName.isNameChar_of_mem (c := c)
  rcases List.exists_cons_of_ne_nil hName.1 with ⟨c, cs, hCons⟩
  rw [hCons] at hChars ⊢
  have hFirst := hStart c (hChars c (by simp))
  have hRest : run (state [c]) cs = some ([], state (c :: cs)) :=
    run_collect hMore (fun d hd => hChars d (by simp [hd])) [c]
  simp [run, hFirst, hRest]

/- The name of an attribute, behind a space. -/
theorem run_name
    {state : State}
    {tag : Tag}
    (hTag : state.tag? = some tag)
    {name : String}
    (hName : IsName name) :
    run state (' ' :: name.toList) =
      some ([], .naming tag name.toList) := by
  have hSpace :
      run state [' '] = some ([], .inside tag) := by
    apply run_singleton
    rw [step_of_tag? hTag (by decide) (by decide)]
    rfl
  have hStart (c : Char) (hc : isNameChar c = true) :
      step (.inside tag) c = some ([], .naming tag [c]) := by
    simp [step, within, hc,
      ne_of_isNameChar hc (d := ' ') (by decide),
      ne_of_isNameChar hc (d := '/') (by decide),
      ne_of_isNameChar hc (d := '>') (by decide)]
  have hMore (seen : List Char) (c : Char)
      (hc : isNameChar c = true) :
      step (.naming tag seen) c =
        some ([], .naming tag (seen ++ [c])) := by
    simp [step, hc, ne_of_isNameChar hc (d := '=') (by decide)]
  exact run_append hSpace (run_letters hStart hMore hName)

/- The value of an attribute, with its quotes. -/
theorem run_value
    (tag : Tag)
    (name : List Char)
    (value : String) :
    run (.naming tag name)
        ("=\"" ++ Text.Markup.escape value ++ "\"").toList =
      some ([], .inside
        (tag.add (.valued (String.ofList name) value))) := by
  have hQuote : ∀ c ∈ value.toList.flatMap Text.Markup.escapeChar,
      c ≠ '"' := by
    rintro c hc rfl
    exact Text.Markup.not_mem_escape (by simp [Text.Markup.IsSpecial])
      (by decide) _ hc
  have hMore (seen : List Char) (c : Char) (hc : c ≠ '"') :
      step (.value tag name seen) c =
        some ([], .value tag name (seen ++ [c])) := by
    simp [step, hc]
  have hStart :
      run (.naming tag name) ['=', '"'] =
        some ([], .value tag name []) := by
    simp [run, step]
  have hValue := run_collect hMore hQuote []
  have hEnd :
      run (.value tag name
          (value.toList.flatMap Text.Markup.escapeChar)) ['"'] =
        some ([], .inside
          (tag.add (.valued (String.ofList name) value))) := by
    apply run_singleton
    simp [step, Text.Markup.unescape_escape]
  have hBoth := run_append (run_append hStart hValue) hEnd
  simpa [Text.Markup.escape] using hBoth

/- An attribute is added to the tag that it stands in. -/
theorem run_attribute
    {state : State}
    {tag : Tag}
    (hTag : state.tag? = some tag)
    {entry : Attribute}
    (hEntry : entry.isReadable = true) :
    ∃ next, next.tag? = some (tag.addAll [entry]) ∧
      run state entry.print.toList = some ([], next) := by
  cases entry with
  | valued name value =>
      refine ⟨.inside (tag.add (.valued name value)), ?_, ?_⟩
      · simp [State.tag?, Tag.add, Tag.addAll, tidy]
      · have hBoth :=
          run_append (run_name hTag (of_decide_eq_true hEntry))
            (run_value tag name.toList value)
        simpa [Attribute.print] using hBoth
  | bare name =>
      refine ⟨.naming tag name.toList, ?_, ?_⟩
      · simp [State.tag?, Tag.add, Tag.addAll, tidy]
      · simpa [Attribute.print] using
          run_name hTag (of_decide_eq_true hEntry)
  | gap =>
      refine ⟨.inside tag, ?_, ?_⟩
      · simp [State.tag?, Tag.addAll, tidy]
      · apply run_singleton
        rw [step_of_tag? hTag (by decide) (by decide)]
        rfl

theorem Tag.addAll_cons
    (tag : Tag)
    (entry : Attribute)
    (rest : List Attribute) :
    (tag.addAll [entry]).addAll rest = tag.addAll (entry :: rest) := by
  simp only [Tag.addAll, tidy, List.append_assoc,
    ← List.filter_append, List.singleton_append]

/- So are many attributes, one behind the other. -/
theorem run_attributes
    {state : State}
    {tag : Tag}
    (hTag : state.tag? = some tag)
    {entries : List Attribute}
    (hEntries : entries.all Attribute.isReadable = true) :
    ∃ next, next.tag? = some (tag.addAll entries) ∧
      run state (printAttributes entries).toList =
        some ([], next) := by
  induction entries generalizing state tag with
  | nil =>
      refine ⟨state, ?_, rfl⟩
      simpa [Tag.addAll, tidy] using hTag
  | cons entry rest ih =>
      rw [List.all_cons, Bool.and_eq_true] at hEntries
      rcases run_attribute hTag hEntries.1 with
        ⟨between, hBetween, hFirst⟩
      rcases ih hBetween hEntries.2 with ⟨next, hNext, hRest⟩
      refine ⟨next, ?_, ?_⟩
      · rw [hNext, Tag.addAll_cons]
      · have hBoth := run_append hFirst hRest
        simpa [printAttributes] using hBoth

------------------------------------------------------------
-- Tokens
------------------------------------------------------------

/- How a text stands in a page. -/
abbrev raw
    (seen : List Char) : List Char :=
  seen.flatMap Text.Markup.escapeChar

theorem texts_raw
    (seen : List Char) :
    texts (raw seen) = shown seen := by
  have hEmpty : (raw seen).isEmpty = seen.isEmpty := by
    cases seen with
    | nil => rfl
    | cons c cs =>
        have hSome : raw (c :: cs) ≠ [] := by
          intro hNone
          have hRead :
              Text.Markup.unescape (raw (c :: cs)) = c :: cs :=
            Text.Markup.unescape_escape (c :: cs)
          rw [hNone] at hRead
          cases hRead
        simpa using hSome
  rw [texts, shown, hEmpty, Text.Markup.unescape_escape]

/- A text only adds to the text that has been seen. -/
theorem run_text
    (seen : List Char)
    (s : String) :
    run (.text (raw seen)) (Token.text s).print.toList =
      some ([], .text (raw (seen ++ s.toList))) := by
  have hAngle : ∀ c ∈ raw s.toList, c ≠ '<' := by
    rintro c hc rfl
    exact Text.Markup.not_mem_escape
      (by simp [Text.Markup.IsSpecial]) (by decide) _ hc
  have hMore (before : List Char) (c : Char) (hc : c ≠ '<') :
      step (.text before) c =
        some ([], .text (before ++ [c])) := by
    simp [step, hc]
  have hText := run_collect hMore hAngle (raw seen)
  simpa [Token.print, Text.Markup.escape, raw] using hText

/- What stands in front of a tag is a text of its own. -/
theorem run_angle
    (seen : List Char) :
    run (.text (raw seen)) ['<'] = some (shown seen, .angle) := by
  apply run_singleton
  simp [step, texts_raw]

theorem run_declaration
    {s : String}
    (hEnd : '>' ∉ s.toList)
    (seen : List Char) :
    run (.text (raw seen)) (Token.declaration s).print.toList =
      some (shown seen ++ [.declaration s], .text []) := by
  have hStart :
      run .angle ['!'] = some ([], .declaration []) := rfl
  have hAll : ∀ c ∈ s.toList, c ≠ '>' := by
    rintro c hc rfl
    exact hEnd hc
  have hMore (before : List Char) (c : Char) (hc : c ≠ '>') :
      step (.declaration before) c =
        some ([], .declaration (before ++ [c])) := by
    simp [step, hc]
  have hText := run_collect hMore hAll []
  have hLast :
      run (.declaration s.toList) ['>'] =
        some ([.declaration s], .text []) := by
    apply run_singleton
    simp [step]
  have hAll :=
    run_append (run_append (run_append (run_angle seen) hStart)
      hText) hLast
  simpa [Token.print] using hAll

theorem run_closing
    {name : String}
    (hName : IsName name)
    (seen : List Char) :
    run (.text (raw seen)) (Token.closing name).print.toList =
      some (shown seen ++ [.closing name], .text []) := by
  have hStart :
      run .angle ['/'] = some ([], .closing []) := rfl
  have hMore (before : List Char) (c : Char)
      (hc : isNameChar c = true) :
      step (.closing before) c =
        some ([], .closing (before ++ [c])) := by
    simp [step, hc,
      ne_of_isNameChar hc (d := '>') (by decide)]
  have hText :=
    run_collect hMore (fun c => hName.isNameChar_of_mem (c := c)) []
  have hLast :
      run (.closing name.toList) ['>'] =
        some ([.closing name], .text []) := by
    apply run_singleton
    simp [step]
  have hAll :=
    run_append (run_append (run_append (run_angle seen) hStart)
      hText) hLast
  simpa [Token.print] using hAll

/- The start of a start tag, up to the end of its attributes. -/
theorem run_start
    {name : String}
    (hName : IsName name)
    {entries : List Attribute}
    (hEntries : entries.all Attribute.isReadable = true)
    (seen : List Char) :
    ∃ next, next.tag? = some ⟨name, tidy entries⟩ ∧
      run (.text (raw seen))
          ("<" ++ name ++ printAttributes entries).toList =
        some (shown seen, next) := by
  have hFirst (c : Char) (hc : isNameChar c = true) :
      step .angle c = some ([], .opening [c]) := by
    simp [step, hc,
      ne_of_isNameChar hc (d := '!') (by decide),
      ne_of_isNameChar hc (d := '/') (by decide)]
  have hMore (before : List Char) (c : Char)
      (hc : isNameChar c = true) :
      step (.opening before) c =
        some ([], .opening (before ++ [c])) := by
    simp [step, hc]
  have hOpening :
      run .angle name.toList = some ([], .opening name.toList) :=
    run_letters hFirst hMore hName
  have hTag :
      (State.opening name.toList).tag? = some ⟨name, []⟩ := by
    simp [State.tag?]
  rcases run_attributes hTag hEntries with ⟨next, hNext, hRun⟩
  refine ⟨next, ?_, ?_⟩
  · simpa [Tag.addAll] using hNext
  · have hAll :=
      run_append (run_append (run_angle seen) hOpening) hRun
    simpa using hAll

theorem run_opening
    {name : String}
    (hName : IsName name)
    {entries : List Attribute}
    (hEntries : entries.all Attribute.isReadable = true)
    (seen : List Char) :
    run (.text (raw seen))
        (Token.opening name entries).print.toList =
      some (shown seen ++ [.opening name (tidy entries)],
        if name = scriptName then .script [] else .text []) := by
  rcases run_start hName hEntries seen with ⟨next, hTag, hStart⟩
  have hEnd :
      run next ['>'] =
        some ([.opening name (tidy entries)],
          if name = scriptName then .script [] else .text []) := by
    apply run_singleton
    rw [step_of_tag? hTag (by decide) (by decide)]
    simp [within]
  have hAll := run_append hStart hEnd
  simpa [Token.print] using hAll

theorem run_single
    {name : String}
    (hName : IsName name)
    {entries : List Attribute}
    (hEntries : entries.all Attribute.isReadable = true)
    (seen : List Char) :
    run (.text (raw seen))
        (Token.single name entries).print.toList =
      some (shown seen ++ [.single name (tidy entries)],
        .text []) := by
  rcases run_start hName hEntries seen with ⟨next, hTag, hStart⟩
  have hSpace :
      run next [' '] = some ([], .inside ⟨name, tidy entries⟩) := by
    apply run_singleton
    rw [step_of_tag? hTag (by decide) (by decide)]
    rfl
  have hEnd :
      run (.inside ⟨name, tidy entries⟩) ['/', '>'] =
        some ([.single name (tidy entries)], .text []) := by
    simp [run, step, within]
  have hAll := run_append (run_append hStart hSpace) hEnd
  simpa [Token.print] using hAll

/-
  A script ends at its end tag, and not before: only there does
  it hold the mark that ends a tag.
-/
theorem isSuffixOf_scriptEnd
    (seen : List Char)
    {c : Char}
    (hc : c ≠ '>') :
    scriptEnd.isSuffixOf (seen ++ [c]) = false := by
  rw [Bool.eq_false_iff, ne_eq, List.isSuffixOf_iff_suffix]
  rintro ⟨lead, hLead⟩
  have hEnd : scriptEnd.getLast? = some '>' := by decide
  have hLast := congrArg List.getLast? hLead
  rw [List.getLast?_append, hEnd, List.getLast?_concat] at hLast
  exact hc (Option.some.inj hLast).symm

theorem run_script
    {s : String}
    (hEnd : '>' ∉ s.toList) :
    run (.script []) (s.toList ++ scriptEnd) =
      some ([.verbatim s, .closing scriptName], .text []) := by
  have hMore (before : List Char) (c : Char) (hc : c ≠ '>') :
      step (.script before) c =
        some ([], .script (before ++ [c])) := by
    simp only [step, isSuffixOf_scriptEnd before hc,
      Bool.false_eq_true, if_false]
  have hAll : ∀ c ∈ s.toList ++ scriptEnd.dropLast, c ≠ '>' := by
    have hOwn : '>' ∉ scriptEnd.dropLast := by decide
    rintro c hc rfl
    exact (List.mem_append.mp hc).elim hEnd hOwn
  have hText := run_collect hMore hAll []
  have hSplit : scriptEnd = scriptEnd.dropLast ++ ['>'] := by
    decide
  have hLast :
      run (.script (s.toList ++ scriptEnd.dropLast)) ['>'] =
        some ([.verbatim s, .closing scriptName], .text []) := by
    apply run_singleton
    rw [step, List.append_assoc, ← hSplit]
    simp
  have hBoth := run_append hText hLast
  rw [List.append_assoc, ← hSplit] at hBoth
  exact hBoth

------------------------------------------------------------
-- Pages
------------------------------------------------------------

theorem print_append
    (before after : List Token) :
    (print (before ++ after)).toList =
      (print before).toList ++ (print after).toList := by
  simp [print]

theorem print_singleton
    (token : Token) :
    (print [token]).toList = token.print.toList := by
  simp [print]

theorem print_script
    (s : String) :
    (print [.opening scriptName [], .verbatim s,
        .closing scriptName]).toList =
      (Token.opening scriptName []).print.toList ++
        (s.toList ++ scriptEnd) := by
  have hEnd :
      (Token.closing scriptName).print.toList = scriptEnd := by
    decide
  rw [← hEnd]
  simp [print, Token.print]

/- Whether a page is read as some tokens, behind a text. -/
def Finds
    (seen : List Char)
    (tokens found : List Token) : Prop :=
  ∃ out last,
    run (.text (raw seen)) (print tokens).toList =
      some (out, .text (raw last)) ∧
    out ++ shown last = found

/- Behind tokens that end a text, a page is read from its start. -/
theorem Finds.behind
    {seen : List Char}
    {before rest found more : List Token}
    (hBefore :
      run (.text (raw seen)) (print before).toList =
        some (shown seen ++ found, .text []))
    (hRest : Finds [] rest more) :
    Finds seen (before ++ rest) (shown seen ++ found ++ more) := by
  rcases hRest with ⟨out, last, hRun, hOut⟩
  refine ⟨shown seen ++ found ++ out, last, ?_, ?_⟩
  · rw [print_append]
    exact run_append hBefore hRun
  · rw [List.append_assoc, hOut]

/-
  A printed page is read token by token. By induction on the
  tokens, for every text that has been seen in front of them.
-/
theorem finds_gather
    {tokens : List Token}
    (hReadable : Readable tokens)
    (seen : List Char) :
    Finds seen tokens (gather seen tokens) := by
  induction hReadable generalizing seen with
  | nil => exact ⟨[], seen, rfl, rfl⟩
  | @cons token rest hToken _ ih =>
      cases token <;>
        simp only [Token.isReadable, Bool.and_eq_true,
          decide_eq_true_eq, bne_iff_ne, Bool.not_eq_true',
          List.contains_eq_mem, decide_eq_false_iff_not,
          Bool.false_eq_true] at hToken
      case text s =>
        rcases ih (seen ++ s.toList) with ⟨out, last, hRun, hOut⟩
        refine ⟨out, last, ?_, hOut⟩
        have hBoth := run_append (run_text seen s) hRun
        simpa [print] using hBoth
      case declaration s =>
        have hTag := run_declaration hToken seen
        rw [← print_singleton] at hTag
        simpa [gather] using Finds.behind hTag (ih [])
      case opening name entries =>
        have hTag := run_opening hToken.1.1 hToken.2 seen
        rw [← print_singleton, if_neg hToken.1.2] at hTag
        simpa [gather] using Finds.behind hTag (ih [])
      case single name entries =>
        have hTag := run_single hToken.1 hToken.2 seen
        rw [← print_singleton] at hTag
        simpa [gather] using Finds.behind hTag (ih [])
      case closing name =>
        have hTag := run_closing hToken seen
        rw [← print_singleton] at hTag
        simpa [gather] using Finds.behind hTag (ih [])
  | @script s rest hEnd _ ih =>
      have hStart :=
        @run_opening scriptName (by decide) [] rfl seen
      rw [if_pos rfl] at hStart
      have hTag := run_append hStart (run_script hEnd)
      rw [← print_script, List.append_assoc] at hTag
      simpa [gather, shown, tidy] using Finds.behind hTag (ih [])

/- A page is read as the tokens that it was printed from. -/
theorem read_print
    {tokens : List Token}
    (hReadable : Readable tokens) :
    read (print tokens) = some (gather [] tokens) := by
  rcases finds_gather hReadable [] with ⟨out, last, hRun, hOut⟩
  have hStart :
      run (.text []) (print tokens).toList =
        some (out, .text (raw last)) := hRun
  simp [read, hStart, texts_raw, hOut]

end Reader

end LookingGlass.Page
