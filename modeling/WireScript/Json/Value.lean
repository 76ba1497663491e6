import WireScript.Json.Literal
import WireScript.Json.Numeral

set_option autoImplicit false

namespace WireScript.Json.Reader

def other {α : Type} (first : Char) (wanted : String) : Reader α :=
  match first with
  | 'n' => do
    spell ['n', 'u', 'l', 'l']
    refuse (.kind .null wanted)
  | 't' => do
    spell ['t', 'r', 'u', 'e']
    refuse (.kind (.bool true) wanted)
  | 'f' => do
    spell ['f', 'a', 'l', 's', 'e']
    refuse (.kind (.bool false) wanted)
  | '"' => do
    drop
    let value ← string
    refuse (.kind (.text value) wanted)
  | '[' => refuse (.kind .list wanted)
  | '\x7b' => refuse (.kind .object wanted)
  | '-' => do
    drop
    let value ← magnitude true
    refuse (.kind (.number value) wanted)
  | c =>
    if Text.isDigit c then do
      let value ← magnitude false
      refuse (.kind (.number value) wanted)
    else malformed

def text {α : Type} (wanted : String) (accept : String → Except Refusal α) : Reader α := do
  match (← peek) with
  | none => truncated
  | some '"' =>
    drop
    match accept (← string) with
    | .ok value => pure value
    | .error cause => refuse cause
  | some c => other c wanted

def bool (wanted : String) : Reader Bool := do
  match (← peek) with
  | none => truncated
  | some 't' =>
    spell ['t', 'r', 'u', 'e']
    pure true
  | some 'f' =>
    spell ['f', 'a', 'l', 's', 'e']
    pure false
  | some c => other c wanted

def natural (bound : Nat) (wanted : String) : Reader Nat := do
  let accept : Number → Reader Nat
    | .whole value =>
      if 0 ≤ value ∧ value ≤ bound then pure value.toNat else refuse (.range value wanted)
    | value => refuse (.kind (.number value) wanted)
  match (← peek) with
  | none => truncated
  | some '-' =>
    drop
    accept (← magnitude true)
  | some c => if Text.isDigit c then accept (← magnitude false) else other c wanted

def option {α : Type} (value : Reader α) : Reader (Option α) := do
  match (← peek) with
  | some 'n' =>
    spell ['n', 'u', 'l', 'l']
    pure none
  | _ => some <$> value

def hasElement (first : Bool) : Reader Bool := do
  match (← peek) with
  | none => truncated
  | some ']' => pure false
  | some c =>
    if first then pure true
    else if c = ',' then
      drop
      match (← peek) with
      | none => truncated
      | some ']' => malformed
      | some _ => pure true
    else malformed

def endList : Reader Unit := do
  match (← peek) with
  | none => truncated
  | some ']' => drop
  | some _ => malformed

def elements {α : Type} (element : Reader α) : (limit : Nat) → (first : Bool) → Reader (List α)
  | 0, _ => truncated
  | limit + 1, first => do
    if (← hasElement first) then
      let value ← element
      let rest ← elements element limit false
      pure (value :: rest)
    else pure []

def list {α : Type} (element : Reader α) (wanted : String) : Reader (List α) := do
  match (← peek) with
  | none => truncated
  | some '[' =>
    drop
    let values ← elements element ((← get).length + 1) true
    endList
    pure values
  | some c => other c wanted

def colon : Reader Unit := do
  match (← peek) with
  | none => truncated
  | some ':' => drop
  | some _ => malformed

def key {α : Type} (accept : String → Except Refusal α) : Reader α := do
  match (← peek) with
  | none => truncated
  | some '"' =>
    drop
    match accept (← string) with
    | .ok value => pure value
    | .error cause => refuse cause
  | some _ => malformed

def variant {α : Type} (known : List (String × α)) : Reader α := do
  let accept (found : String) : Except Refusal α :=
    match known.lookup found with
    | some value => .ok value
    | none => .error (.variant found (known.map Prod.fst))
  match (← peek) with
  | none => truncated
  | some '"' => key accept
  | some '\x7b' =>
    drop
    let value ← key accept
    colon
    match (← peek) with
    | none => truncated
    | some 'n' => spell ['n', 'u', 'l', 'l']
    | some c => other c "unit"
    match (← peek) with
    | none => truncated
    | some '\x7d' =>
      drop
      pure value
    | some _ => malformed
  | some _ => malformed

def nextKey (first : Bool) : Reader (Option String) := do
  match (← peek) with
  | none => truncated
  | some '\x7d' => pure none
  | some c =>
    if first then
      if c = '"' then
        drop
        some <$> string
      else malformed
    else if c = ',' then
      drop
      match (← peek) with
      | none => truncated
      | some '"' =>
        drop
        some <$> string
      | some _ => malformed
    else malformed

def run {α : Type} (reader : Reader α) (text : List Char) : Except Fault α := do
  let (value, rest) ← reader text
  if (rest.dropWhile isSpace).isEmpty then .ok value else .error .malformed

end WireScript.Json.Reader
