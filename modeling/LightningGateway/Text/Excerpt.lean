/-
  The beginning of a text.

  Key definitions include:
    * `excerpt`
-/

namespace LightningGateway.Text

/- What marks a text that was cut. -/
def ellipsis : List Char := ['.', '.', '.']

/-
  The first `limit` characters, marked if there are more;
  otherwise the whole.
-/
def excerptChars
    (limit : Nat)
    (cs : List Char) : List Char :=
  match cs.drop limit with
  | [] => cs
  | _ :: _ => cs.take limit ++ ellipsis

/- The beginning of a text. -/
def excerpt
    (s : String)
    (limit : Nat) : String :=
  String.ofList (excerptChars limit s.toList)

end LightningGateway.Text
