import LightningGateway.Text.Blank
import LightningGateway.Url.Basic

/-
  Reading URLs.

  Blanks and control characters around the text are dropped,
  tabs and line ends anywhere.  The rest is cut into its parts,
  from left to right, and each part is brought into its normal
  form.

  Key definitions include:
    * `Scheme.Kind`
    * `normalSegments`
    * `Url.parse`
-/

namespace LightningGateway.Url

------------------------------------------------------------
-- Schemes
------------------------------------------------------------

namespace Scheme

/- How the text after a scheme is read. -/
inductive Kind where
  | special
  | file
  | other
  deriving DecidableEq, Repr

/- The port that a scheme implies. -/
def port? (scheme : List Char) : Option Nat :=
  match String.ofList scheme with
  | "http" => some 80
  | "ws" => some 80
  | "https" => some 443
  | "wss" => some 443
  | "ftp" => some 21
  | _ => none

/- The kind of a scheme. -/
def kind (scheme : List Char) : Kind :=
  if String.ofList scheme = "file" then .file
  else if (port? scheme).isSome then .special
  else .other

/- Whether a character may stand in a scheme. -/
def isSchemeChar (c : Char) : Bool :=
  c.isAlphanum || c == '+' || c == '-' || c == '.'

/- The scheme, in lower case, and what follows its colon. -/
def split? (cs : List Char) : Option (List Char × List Char) :=
  let name := cs.takeWhile isSchemeChar
  match cs with
  | c :: _ =>
      if c.isAlpha then
        match cs.dropWhile isSchemeChar with
        | ':' :: rest => some (name.map Char.toLower, rest)
        | _ => none
      else none
  | [] => none

/- Whether the backslash counts as a slash. -/
def Kind.isSpecial : Kind → Bool
  | .other => false
  | _ => true

/- Whether a character separates segments. -/
def Kind.isSlash
    (k : Kind)
    (c : Char) : Bool :=
  c == '/' || (k.isSpecial && c == '\\')

end Scheme

------------------------------------------------------------
-- Paths
------------------------------------------------------------

/- Whether a segment means the one that holds it. -/
def isDoubleDot (s : List Char) : Bool :=
  match String.ofList (s.map Char.toLower) with
  | ".." => true
  | "%2e%2e" => true
  | "%2e." => true
  | ".%2e" => true
  | _ => false

/- Whether a segment means itself. -/
def isSingleDot (s : List Char) : Bool :=
  match String.ofList (s.map Char.toLower) with
  | "." => true
  | "%2e" => true
  | _ => false

/- Whether a segment is a letter and the given mark. -/
def isDrive
    (marks : List Char)
    (s : List Char) : Bool :=
  match s with
  | [a, b] => a.isAlpha && marks.contains b
  | _ => false

/- The segment that is kept; a drive is written with a colon. -/
def keptSegment
    (k : Scheme.Kind)
    (s : List Char) : List Char :=
  if k = .file ∧ isDrive [':', '|'] s then
    s.take 1 ++ [':']
  else s

/- The segments without the last one, unless that is a drive. -/
def dropSegment
    (k : Scheme.Kind) : List (List Char) → List (List Char)
  | [] => []
  | s :: done =>
      if k = .file ∧ isDrive [':'] s then s :: done else done

/-
  Resolve the dot segments; `done` holds the segments before in
  reverse.
-/
def resolveDots
    (k : Scheme.Kind) :
    List (List Char) → List (List Char) → List (List Char)
  | done, [] => done.reverse
  | done, [s] =>
      if isDoubleDot s then
        ([] :: dropSegment k done).reverse
      else if isSingleDot s then ([] :: done).reverse
      else (keptSegment k s :: done).reverse
  | done, s :: rest =>
      if isDoubleDot s then resolveDots k (dropSegment k done) rest
      else if isSingleDot s then resolveDots k done rest
      else resolveDots k (keptSegment k s :: done) rest

/- Drop leading empty segments, but not the only one. -/
def dropEmpty : List (List Char) → List (List Char)
  | [] :: s :: rest => dropEmpty (s :: rest)
  | ss => ss

/- The segments of the text after a path's first slash. -/
def normalSegments
    (k : Scheme.Kind)
    (cs : List Char) : List (List Char) :=
  let raw := Text.splitAll k.isSlash cs
  let ss :=
    resolveDots k [] (raw.map (Percent.encode Percent.inPath))
  if k = .file then dropEmpty ss else ss

/- Whether a character ends a path. -/
def endsPath (c : Char) : Bool :=
  c == '?' || c == '#'

/- The path of a special URL, which always has a segment. -/
def rootedPath
    (k : Scheme.Kind)
    (cs : List Char) : Path :=
  match cs with
  | c :: rest =>
      if k.isSlash c then .segments (normalSegments k rest)
      else .segments (normalSegments k cs)
  | [] => .segments (normalSegments k [])

/- The path after an authority. -/
def pathAfterAuthority
    (k : Scheme.Kind)
    (cs : List Char) : Path :=
  if k.isSpecial then rootedPath k cs
  else if cs.isEmpty then .segments []
  else rootedPath k cs

------------------------------------------------------------
-- Query and Fragment
------------------------------------------------------------

/- The query and the fragment, from the mark that starts them. -/
def tails
    (k : Scheme.Kind)
    (cs : List Char) :
    Option (List Char) × Option (List Char) :=
  let fragment (cs : List Char) : Option (List Char) :=
    match cs with
    | '#' :: rest =>
        some (Percent.encode Percent.inFragment rest)
    | _ => none
  match cs with
  | '?' :: rest =>
      let q := rest.takeWhile (· != '#')
      (some (Percent.encode (Percent.inQuery k.isSpecial) q),
        fragment (rest.dropWhile (· != '#')))
  | cs => (none, fragment cs)

------------------------------------------------------------
-- Authorities
------------------------------------------------------------

/- The text up to the last at sign and after it, if there is one. -/
def splitUser?
    (cs : List Char) : Option (List Char × List Char) :=
  if cs.contains '@' then
    let host := (cs.reverse.takeWhile (· != '@')).reverse
    some (cs.take (cs.length - host.length - 1), host)
  else none

/- The user and the password of the text before an at sign. -/
def userAndPassword
    (cs : List Char) : List Char × List Char :=
  let encode := Percent.encode Percent.inUserinfo
  (encode (cs.takeWhile (· != ':')),
    encode ((cs.dropWhile (· != ':')).drop 1))

/-
  The host, and what follows it: a colon ends it, except in
  square brackets.
-/
def splitHost :
    Bool → List Char → List Char × List Char
  | _, [] => ([], [])
  | inside, c :: rest =>
      if c = ':' ∧ !inside then ([], c :: rest)
      else
        let inside :=
          if c = '[' then true
          else if c = ']' then false
          else inside
        let (h, more) := splitHost inside rest
        (c :: h, more)

/-
  The port after a colon, and what follows it.  A backslash
  ends it even where it is no slash.
-/
def splitPort
    (implied : Option Nat)
    (cs : List Char) :
    Except UrlError (Option Nat × List Char) :=
  match cs with
  | ':' :: rest =>
      let ds := rest.takeWhile Char.isDigit
      let more := rest.dropWhile Char.isDigit
      let n := ds.foldl
        (fun n d => 10 * n + (d.toNat - 48)) 0
      if n > 65535 then .error .badPort
      else
        match more with
        | c :: _ =>
            if c = '\\' then
              .ok (if ds.isEmpty ∨ some n = implied then none
                else some n, more)
            else .error .badPort
        | [] =>
            .ok (if ds.isEmpty ∨ some n = implied then none
              else some n, [])
  | more => .ok (none, more)

/- The host of an authority, none if it is empty. -/
def readHost
    (k : Scheme.Kind)
    (cs : List Char) : Except UrlError (Option Host) :=
  if k.isSpecial then
    if cs.isEmpty then .error .emptyHost
    else (Host.ofText cs).map some
  else if cs.isEmpty then .ok none
  else (Host.ofOpaque cs).map some

/-
  Read an authority; what is left over of its text belongs to
  the path.
-/
def readAuthority
    (scheme cs after : List Char) :
    Except UrlError (Authority × List Char) := do
  let k := Scheme.kind scheme
  let given := splitUser? cs
  let (userText, hostText) := given.getD ([], cs)
  if given.isSome ∧ userText.isEmpty ∧ hostText.isEmpty ∧
      !after.isEmpty then
    throw .emptyHost
  let (user, password) := userAndPassword userText
  let (hostText, more) := splitHost false hostText
  let host ← readHost k hostText
  if host.isNone ∧ more.head? = some ':' then
    throw .emptyHost
  let (port, more) ← splitPort (Scheme.port? scheme) more
  if host.isNone ∧ !(user.isEmpty && password.isEmpty) then
    throw .emptyHost
  return (⟨user, password, host, port⟩, more)

------------------------------------------------------------
-- URLs
------------------------------------------------------------

/- The URL of a scheme with an authority. -/
def readWithAuthority
    (scheme cs : List Char) : Except UrlError Url := do
  let k := Scheme.kind scheme
  let body := cs.takeWhile fun c => !endsPath c
  let (query, fragment) := tails k (cs.dropWhile fun c => !endsPath c)
  let text := body.takeWhile fun c => !k.isSlash c
  let path := body.dropWhile fun c => !k.isSlash c
  let after := cs.drop text.length
  let (a, more) ← readAuthority scheme text after
  return ⟨scheme, some a, pathAfterAuthority k (more ++ path),
    query, fragment⟩

/- The URL of a scheme without special rules. -/
def readOther
    (scheme cs : List Char) : Except UrlError Url :=
  match cs with
  | '/' :: '/' :: rest => readWithAuthority scheme rest
  | cs =>
      let body := cs.takeWhile fun c => !endsPath c
      let (query, fragment) :=
        tails .other (cs.dropWhile fun c => !endsPath c)
      let path :=
        match body with
        | '/' :: rest =>
            Path.segments (normalSegments .other rest)
        | body =>
            Path.opaqueText (Percent.encode Percent.isControl body)
      .ok ⟨scheme, none, path, query, fragment⟩

/- The host and the path of a file's URL, after two slashes. -/
def readFileHost
    (cs : List Char) : Except UrlError (Option Host × Path) :=
  let text := cs.takeWhile fun c => !Scheme.Kind.file.isSlash c
  let path := cs.drop text.length
  if isDrive [':', '|'] text then
    .ok (none, .segments (normalSegments .file cs))
  else if text.isEmpty then .ok (none, rootedPath .file path)
  else do
    let host ← Host.ofText text
    let local? := host = .domain "localhost".toList
    return (if local? then none else some host,
      rootedPath .file path)

/- The URL of a file. -/
def readFile
    (scheme cs : List Char) : Except UrlError Url := do
  let body := cs.takeWhile fun c => !endsPath c
  let (query, fragment) :=
    tails .file (cs.dropWhile fun c => !endsPath c)
  let isSlash := Scheme.Kind.file.isSlash
  let (host, path) ←
    match body with
    | a :: b :: rest =>
        if isSlash a && isSlash b then readFileHost rest
        else .ok (none, rootedPath .file body)
    | body => .ok (none, rootedPath .file body)
  return ⟨scheme, some { Authority.bare with host := host },
    path, query, fragment⟩

/- Whether a character is dropped at both ends. -/
def isEdge (c : Char) : Bool :=
  c.toNat ≤ 0x20

/- Whether a character is dropped anywhere. -/
def isLineChar (c : Char) : Bool :=
  c == '\t' || c == '\n' || c == '\r'

/- Read the characters of a URL. -/
def ofChars (cs : List Char) : Except UrlError Url :=
  let cs := Text.trimEndWhile isEdge (cs.dropWhile isEdge)
  match Scheme.split? (cs.filter fun c => !isLineChar c) with
  | none => .error .noScheme
  | some (scheme, rest) =>
      match Scheme.kind scheme with
      | .file => readFile scheme rest
      | .special =>
          readWithAuthority scheme
            (rest.dropWhile Scheme.Kind.special.isSlash)
      | .other => readOther scheme rest

/- Read a URL. -/
def parse (s : String) : Except UrlError Url :=
  ofChars s.toList

end LightningGateway.Url
