import WireScript.Json.Fault

set_option autoImplicit false

namespace WireScript.Json

abbrev Reader (α : Type) := StateT (List Char) (Except Fault) α

namespace Reader

def refuse {α : Type} (cause : Refusal) : Reader α :=
  throw (.refused cause)

def malformed {α : Type} : Reader α := throw .malformed

def truncated {α : Type} : Reader α := throw .truncated

def isSpace (c : Char) : Bool :=
  c == ' ' || c == '\n' || c == '\t' || c == '\r'

def peek : Reader (Option Char) := fun text =>
  let rest := text.dropWhile isSpace
  .ok (rest.head?, rest)

def drop : Reader Unit := fun text => .ok ((), text.drop 1)

def spell : List Char → Reader Unit
  | [] => pure ()
  | c :: rest => do
    match (← get) with
    | [] => truncated
    | d :: more =>
      if d = c then
        set more
        spell rest
      else malformed

end Reader

end WireScript.Json
