import WireScript.Text.Blank
import WireScript.Transcript.Direction

set_option autoImplicit false

namespace WireScript.Fixture

inductive Line
  | remark
  | header (direction : Direction)
  | payload (text : List Char)
deriving DecidableEq, Repr

def marker : Direction → List Char
  | .fromIut => ['>', '>', '>']
  | .toIut => ['<', '<', '<']

def Line.ofText (text : List Char) : Line :=
  match Text.trim text with
  | [] => .remark
  | '#' :: _ => .remark
  | '>' :: '>' :: '>' :: _ => .header .fromIut
  | '<' :: '<' :: '<' :: _ => .header .toIut
  | line => .payload line

end WireScript.Fixture
