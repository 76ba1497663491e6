import WireScript.Bytes.Hex
import WireScript.Decimal.Shortest

set_option autoImplicit false

namespace WireScript.Json

-- Numbers too large or too small for a word are read as doubles, and so are all with a fraction or
-- an exponent.
inductive Number
  | whole (value : Int)
  | real (value : Float)

inductive Found
  | null
  | bool (value : Bool)
  | number (value : Number)
  | text (value : String)
  | list
  | object

inductive Refusal
  | kind (found : Found) (wanted : String)
  | range (found : Int) (wanted : String)
  | length (found : Nat) (wanted : String)
  | variant (found : String) (known : List String)
  | unknownField (found : String) (known : List String)
  | missingField (name : String)
  | duplicateField (name : String)
  | hex (fault : Hex.Fault)
  | spanOverflow

inductive Fault
  | malformed
  | truncated
  | refused (cause : Refusal)

def Number.layout : Decimal.Layout := ⟨-5, 15⟩

def Found.phrase : Found → String
  | .null => "null"
  | .bool true => "boolean `true`"
  | .bool false => "boolean `false`"
  | .number (.whole value) => s!"integer `{value}`"
  | .number (.real value) => s!"floating point `{Decimal.render Number.layout value}`"
  | .text value => s!"string {Text.quoted value}"
  | .list => "sequence"
  | .object => "map"

def choice : List String → String
  | [] => "nothing"
  | [a] => s!"`{a}`"
  | [a, b] => s!"`{a}` or `{b}`"
  | names => "one of " ++ ", ".intercalate (names.map (fun a => s!"`{a}`"))

def Refusal.message : Refusal → String
  | .kind found wanted => s!"invalid type: {found.phrase}, expected {wanted}"
  | .range found wanted => s!"invalid value: integer `{found}`, expected {wanted}"
  | .length found wanted => s!"invalid length {found}, expected {wanted}"
  | .variant found known => s!"unknown variant `{found}`, expected {choice known}"
  | .unknownField found known => s!"unknown field `{found}`, expected {choice known}"
  | .missingField name => s!"missing field `{name}`"
  | .duplicateField name => s!"duplicate field `{name}`"
  | .hex fault => fault.message
  | .spanOverflow => "overflow deserializing Duration"

end WireScript.Json
