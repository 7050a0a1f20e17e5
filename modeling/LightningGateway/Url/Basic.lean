import LightningGateway.Url.Host

/-
  URLs.

  A URL is kept in its normal form: the parts are encoded, the
  path has no dot segments, and a port that the scheme implies
  is left out.

  Key definitions include:
    * `Authority`
    * `Path`
    * `Url`
    * `Url.render`
-/

namespace LightningGateway.Url

------------------------------------------------------------
-- Parts
------------------------------------------------------------

/-
  What follows the two slashes: a user, a host, which may be
  left empty, and a port.
-/
structure Authority where
  user : List Char
  password : List Char
  host : Option Host
  port : Option Nat
  deriving DecidableEq, Repr

/- A path: text without structure, or segments. -/
inductive Path where
  | opaqueText (cs : List Char)
  | segments (ss : List (List Char))
  deriving DecidableEq, Repr

end LightningGateway.Url

namespace LightningGateway

/- A URL. -/
structure Url where
  scheme : List Char
  authority : Option Url.Authority
  path : Url.Path
  query : Option (List Char)
  fragment : Option (List Char)
  deriving DecidableEq, Repr

end LightningGateway

namespace LightningGateway.Url

------------------------------------------------------------
-- Text
------------------------------------------------------------

namespace Authority

/- An authority without user, host and port. -/
def bare : Authority :=
  ⟨[], [], none, none⟩

/- The user and the password, with an at sign after them. -/
def userChars (a : Authority) : List Char :=
  if a.user.isEmpty && a.password.isEmpty then []
  else if a.password.isEmpty then a.user ++ ['@']
  else a.user ++ ':' :: (a.password ++ ['@'])

/- The host and the port. -/
def hostChars (a : Authority) : List Char :=
  (a.host.map Host.chars).getD [] ++
    match a.port with
    | none => []
    | some p => ':' :: Nat.toDigits 10 p

/- The text of an authority, with its slashes. -/
def chars (a : Authority) : List Char :=
  '/' :: '/' :: (a.userChars ++ a.hostChars)

end Authority

namespace Path

/- The text of a path; each segment has a slash before it. -/
def chars : Path → List Char
  | .opaqueText cs => cs
  | .segments ss => ss.flatMap ('/' :: ·)

end Path

/-
  The text between scheme and path.  Without an authority, a
  path that starts with two slashes is set apart by a dot.
-/
def beforePath (u : Url) : List Char :=
  match u.authority with
  | some a => a.chars
  | none =>
      match u.path with
      | .segments ([] :: _ :: _) => ['/', '.']
      | _ => []

/- A part with the character that introduces it. -/
def tailChars
    (mark : Char) : Option (List Char) → List Char
  | none => []
  | some cs => mark :: cs

/- The text of a URL. -/
def chars (u : Url) : List Char :=
  u.scheme ++ ':' ::
    (u.beforePath ++ u.path.chars ++ tailChars '?' u.query ++
      tailChars '#' u.fragment)

/- The text of a URL. -/
def render (u : Url) : String :=
  String.ofList u.chars

/- The host of a URL. -/
def host? (u : Url) : Option Host :=
  u.authority.bind Authority.host

/- A URL without its user and its password. -/
def withoutUser (u : Url) : Url :=
  { u with
    authority := u.authority.map fun a =>
      { a with user := [], password := [] } }

/- A URL without its fragment. -/
def withoutFragment (u : Url) : Url :=
  { u with fragment := none }

end LightningGateway.Url
