import LightningGateway.Text.Blank

/-
  The address of a provider, and the paths under it.

  Key definitions include:
    * `Endpoint.normal`
    * `Endpoint.join`
-/

namespace LightningGateway.Provider

namespace Endpoint

/- Whether a character is a slash. -/
def isSlash (c : Char) : Bool :=
  c == '/'

/-
  The address without blanks around it and then without slashes
  at its end, so that a path can be joined with one slash.
-/
def normal (endpoint : String) : String :=
  Text.trimEnd isSlash (Text.trim endpoint)

/- The address of a path; slashes before the path do not count. -/
def join (endpoint path : String) : String :=
  endpoint ++ "/" ++ Text.trimStart isSlash path

end Endpoint

end LightningGateway.Provider
