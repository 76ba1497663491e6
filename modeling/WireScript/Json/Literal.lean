import WireScript.Json.Reader
import WireScript.Text.Digit

set_option autoImplicit false

namespace WireScript.Json

def escape (c : Char) : List Char :=
  if c = '"' then ['\\', '"']
  else if c = '\\' then ['\\', '\\']
  else if c = '\x08' then ['\\', 'b']
  else if c = '\t' then ['\\', 't']
  else if c = '\n' then ['\\', 'n']
  else if c = '\x0c' then ['\\', 'f']
  else if c = '\r' then ['\\', 'r']
  else if c.toNat < 0x20 then
    ['\\', 'u', '0', '0', Nat.digitChar (c.toNat / 16), Nat.digitChar (c.toNat % 16)]
  else [c]

def literal (text : String) : List Char :=
  '"' :: text.toList.flatMap escape ++ ['"']

namespace Reader

def codeUnit (text : List Char) : Except Fault (Nat × List Char) :=
  let otherwise : Except Fault (Nat × List Char) :=
    if (Bytes.ofText (text.take 4)).length < 4 then .error .truncated else .error .malformed
  match text with
  | a :: b :: c :: d :: rest =>
    match Text.hexValue? a, Text.hexValue? b, Text.hexValue? c, Text.hexValue? d with
    | some a, some b, some c, some d => .ok (4096 * a + 256 * b + 16 * c + d, rest)
    | _, _, _, _ => otherwise
  | _ => otherwise

def isLeading (unit : Nat) : Bool := 0xD800 ≤ unit && unit ≤ 0xDBFF

def isTrailing (unit : Nat) : Bool := 0xDC00 ≤ unit && unit ≤ 0xDFFF

def pair (leading trailing : Nat) : Char :=
  Char.ofNat (0x10000 + (leading - 0xD800) * 0x400 + (trailing - 0xDC00))

def unicode (text : List Char) : Except Fault (Char × List Char) := do
  let (unit, rest) ← codeUnit text
  if isTrailing unit then .error .malformed
  else if isLeading unit then
    match rest with
    | [] => .error .truncated
    | ['\\'] => .error .truncated
    | '\\' :: 'u' :: rest =>
      let (partner, rest) ← codeUnit rest
      if isTrailing partner then .ok (pair unit partner, rest) else .error .malformed
    | _ => .error .malformed
  else .ok (Char.ofNat unit, rest)

def shortEscape? : Char → Option Char
  | '"' => some '"'
  | '\\' => some '\\'
  | '/' => some '/'
  | 'b' => some '\x08'
  | 'f' => some '\x0c'
  | 'n' => some '\n'
  | 'r' => some '\r'
  | 't' => some '\t'
  | _ => none

def stringItem : List Char → Except Fault (Option Char × List Char)
  | [] => .error .truncated
  | '"' :: rest => .ok (none, rest)
  | ['\\'] => .error .truncated
  | '\\' :: 'u' :: rest => (unicode rest).map (fun p => (some p.1, p.2))
  | '\\' :: c :: rest =>
    match shortEscape? c with
    | some d => .ok (some d, rest)
    | none => .error .malformed
  | c :: rest => if c.toNat < 0x20 then .error .malformed else .ok (some c, rest)

def stringItems : (limit : Nat) → List Char → Except Fault (List Char × List Char)
  | 0, _ => .error .truncated
  | limit + 1, text =>
    match stringItem text with
    | .error e => .error e
    | .ok (none, rest) => .ok ([], rest)
    | .ok (some c, rest) => (stringItems limit rest).map (fun p => (c :: p.1, p.2))

-- Every character of a string takes one of the text's, so the text's length bounds their number.
def string : Reader String := fun text =>
  (stringItems (text.length + 1) text).map (fun p => (String.ofList p.1, p.2))

end Reader

end WireScript.Json
