import WireScript.Json.Literal

set_option autoImplicit false

namespace WireScript.Json

inductive Document
  | null
  | bool (value : Bool)
  | number (value : Nat)
  | text (value : String)
  | list (elements : List Document)
  | object (members : List (String × Document))

namespace Document

mutual

def compact : Document → List Char
  | .null => ['n', 'u', 'l', 'l']
  | .bool true => ['t', 'r', 'u', 'e']
  | .bool false => ['f', 'a', 'l', 's', 'e']
  | .number value => Nat.toDigits 10 value
  | .text value => literal value
  | .list elements => '[' :: compactElements elements ++ [']']
  | .object members => '\x7b' :: compactMembers members ++ ['\x7d']

def compactElements : List Document → List Char
  | [] => []
  | [d] => d.compact
  | d :: rest => d.compact ++ ',' :: compactElements rest

def compactMembers : List (String × Document) → List Char
  | [] => []
  | [(name, d)] => literal name ++ ':' :: d.compact
  | (name, d) :: rest => literal name ++ ':' :: d.compact ++ ',' :: compactMembers rest

end

def newline (level : Nat) : List Char :=
  '\n' :: List.replicate (2 * level) ' '

mutual

def pieces (level : Nat) : Document → List (List Char)
  | .list [] => [['[', ']']]
  | .list elements => ['['] :: elementPieces (level + 1) elements ++ [newline level ++ [']']]
  | .object [] => [['\x7b', '\x7d']]
  | .object members =>
    ['\x7b'] :: memberPieces (level + 1) members ++ [newline level ++ ['\x7d']]
  | .null => [['n', 'u', 'l', 'l']]
  | .bool true => [['t', 'r', 'u', 'e']]
  | .bool false => [['f', 'a', 'l', 's', 'e']]
  | .number value => [Nat.toDigits 10 value]
  | .text value => [literal value]

def elementPieces (level : Nat) : List Document → List (List Char)
  | [] => []
  | [d] => newline level :: d.pieces level
  | d :: rest => newline level :: d.pieces level ++ [','] :: elementPieces level rest

def memberPieces (level : Nat) : List (String × Document) → List (List Char)
  | [] => []
  | [(name, d)] => newline level :: literal name :: [':', ' '] :: d.pieces level
  | (name, d) :: rest =>
    newline level :: literal name :: [':', ' '] :: d.pieces level ++ [','] ::
      memberPieces level rest

end

def spread (d : Document) : List Char :=
  (d.pieces 0).flatten

def render (d : Document) : String :=
  String.ofList d.compact

end Document

end WireScript.Json
