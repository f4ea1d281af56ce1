import LookingGlass.Url.Basic

/-
  This file defines references: the texts of addresses, taken
  apart without a look at what the parts hold, and what one
  leads to behind another one.

  A path that starts with two slashes is an authority in such a
  text, if there is no other one in front of it.

  Key definitions include:
    * `Reference`
    * `Reference.ofText`
    * `Reference.text`
    * `Reference.resolve`
    * `join`
-/

namespace LookingGlass.Url

/- The parts of a text; those that are missing are empty. -/
structure Reference where
  scheme : List Char
  authority : List Char
  path : List Char
  query : List Char
  fragment : List Char
deriving DecidableEq, Repr

namespace Reference

------------------------------------------------------------
-- Texts
------------------------------------------------------------

/- What is written between two slashes and the next mark. -/
def cutDestination :
    List Char → List Char × List Char
  | '/' :: '/' :: rest =>
    rest.span fun c => c != '/' && c != '?' && c != '#'
  | cs => ([], cs)

/- Takes a text apart. -/
def ofText
    (cs : List Char) : Reference :=
  let scheme := cutScheme cs
  let authority := cutDestination scheme.2
  let outer := Text.cut '#' authority.2
  let inner := Text.cut '?' outer.1
  { scheme := scheme.1.map Char.toLower
    authority := authority.1
    path := inner.1
    query := inner.2.getD []
    fragment := outer.2.getD [] }

/- The schemes whose addresses have an authority. -/
def hostSchemes : List String :=
  ["", "file", "ftp", "git", "git+ssh", "gopher", "http", "https",
    "imap", "mms", "nfs", "nntp", "prospero", "rsync", "rtsp",
    "rtsps", "rtspu", "sftp", "shttp", "snews", "svn", "svn+ssh",
    "telnet", "wais", "ws", "wss"]

/- A part behind its mark, unless it is empty. -/
def markedPart
    (mark : Char)
    (part : List Char) : List Char :=
  if part.isEmpty then [] else mark :: part

/- An authority and a path behind it. -/
def placeText
    (reference : Reference) : List Char :=
  let scheme := reference.scheme
  let path := reference.path
  let hasHost := hostSchemes.contains (String.ofList scheme)
  if !reference.authority.isEmpty ||
      (!scheme.isEmpty && hasHost && !"//".toList.isPrefixOf path) then
    let slash :=
      if path.isEmpty || path.head? == some '/' then [] else ['/']
    "//".toList ++ reference.authority ++ slash ++ path
  else path

/- The text of parts. -/
def text
    (reference : Reference) : List Char :=
  let scheme :=
    if reference.scheme.isEmpty then []
    else reference.scheme ++ [':']
  scheme ++ reference.placeText ++ markedPart '?' reference.query ++
    markedPart '#' reference.fragment

------------------------------------------------------------
-- Resolution
------------------------------------------------------------

/- The schemes in which a reference can leave parts out. -/
def relativeSchemes : List String :=
  ["", "file", "ftp", "gopher", "http", "https", "imap", "mms",
    "nntp", "prospero", "rtsp", "rtsps", "rtspu", "sftp", "shttp",
    "svn", "svn+ssh", "wais", "ws", "wss"]

/- Where a segment leads behind others, the last one first. -/
def follow
    (held : List (List Char))
    (segment : List Char) : List (List Char) :=
  if segment = ['.'] then held
  else if segment = ['.', '.'] then held.drop 1
  else segment :: held

/- The segments of a path behind those of another one. -/
def segmentsBehind
    (base path : List Char) : List (List Char) :=
  let own := Text.pieces '/' path
  if path.head? = some '/' then own
  else
    let parts := Text.pieces '/' base
    let kept :=
      if parts.getLast? = some [] then parts else parts.dropLast
    match kept ++ own with
    | [] => []
    | first :: rest =>
      first :: rest.dropLast.filter (!·.isEmpty) ++
        rest.getLast?.toList

/- The path that a path leads to behind another one. -/
def resolvePath
    (base path : List Char) : List Char :=
  let segments := segmentsBehind base path
  let ending : List (List Char) :=
    if segments.getLast?.any fun s => s = ['.'] ∨ s = ['.', '.'] then
      [[]]
    else []
  let resolved := (segments.foldl follow []).reverse ++ ending
  match ['/'].intercalate resolved with
  | [] => ['/']
  | cs => cs

/- What a reference leads to behind another one of its scheme. -/
def resolve
    (base reference : Reference) : Reference :=
  if !reference.authority.isEmpty then reference
  else if reference.path.isEmpty then
    { reference with
      authority := base.authority
      path := base.path
      query :=
        if reference.query.isEmpty then base.query
        else reference.query }
  else
    { reference with
      authority := base.authority
      path := resolvePath base.path reference.path }

end Reference

/-
  The text of what a text leads to behind another one. Where it
  has a scheme of its own, or the scheme does not allow for
  parts to be left out, it stays as it is.
-/
def join
    (base text : String) : String :=
  let before := Reference.ofText base.toList
  let given := Reference.ofText text.toList
  let scheme :=
    if given.scheme.isEmpty then before.scheme else given.scheme
  if base.isEmpty then text
  else if text.isEmpty then base
  else if scheme ≠ before.scheme ∨
      !Reference.relativeSchemes.contains (String.ofList scheme) then
    text
  else
    String.ofList (before.resolve { given with scheme }).text

end LookingGlass.Url
