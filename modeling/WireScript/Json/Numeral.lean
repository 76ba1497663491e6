import WireScript.Json.Reader
import WireScript.Text.Digit

set_option autoImplicit false

namespace WireScript.Json.Reader

def wordMax : Nat := 0xFFFFFFFFFFFFFFFF

def mantissa (value : Nat) : List Char → Nat × List Char
  | [] => (value, [])
  | c :: rest =>
    match Text.digitValue? c with
    | none => (value, c :: rest)
    | some d =>
      let next := 10 * value + d
      if next ≤ wordMax then mantissa next rest else (value, c :: rest)

def exponentValue (value : Nat) : List Char → Nat × List Char
  | [] => (value, [])
  | c :: rest =>
    match Text.digitValue? c with
    | none => (value, c :: rest)
    | some d =>
      let next := 10 * value + d
      if next < 0x80000000 then exponentValue next rest else (value, c :: rest)

def divide (x : Float) (power : Nat) : Float :=
  if power ≤ 308 then x / Float.ofScientific 1 false power
  else if x == 0 then x
  else divide (x / Float.ofScientific 1 false 308) (power - 308)
termination_by power

def scale? (value : Nat) (exponent : Int) : Option Float :=
  let x := (UInt64.ofNat value).toFloat
  if exponent < 0 then some (divide x exponent.natAbs)
  else if exponent ≤ 308 then
    let y := x * Float.ofScientific 1 false exponent.toNat
    if y.isInf then none else some y
  else if value = 0 then some x else none

def signed (negative : Bool) (x : Float) : Number :=
  .real (if negative then -x else x)

def scaled (negative : Bool) (value : Nat) (exponent : Int) : Reader Number :=
  match scale? value exponent with
  | some x => pure (signed negative x)
  | none => malformed

def exponent (negative : Bool) (value : Nat) (start : Int) : Reader Number := do
  let down ← modifyGet (fun text =>
    match text with
    | '+' :: rest => (false, rest)
    | '-' :: rest => (true, rest)
    | _ => (false, text))
  match (← get) with
  | [] => truncated
  | c :: rest =>
    match Text.digitValue? c with
    | none => malformed
    | some d =>
      let (power, rest) := exponentValue d rest
      match rest with
      | e :: _ =>
        if Text.isDigit e then
          if value ≠ 0 ∧ !down then malformed
          else
            set (rest.dropWhile Text.isDigit)
            pure (signed negative 0)
        else
          set rest
          scaled negative value (if down then start - power else start + power)
      | [] =>
        set rest
        scaled negative value (if down then start - power else start + power)

def afterFraction (negative : Bool) (value : Nat) (power : Int) : Reader Number := do
  match (← get) with
  | c :: rest =>
    if c = 'e' ∨ c = 'E' then
      set rest
      exponent negative value power
    else scaled negative value power
  | [] => scaled negative value power

def fraction (negative : Bool) (value : Nat) (power : Int) : Reader Number := do
  let text ← get
  match text with
  | [] => truncated
  | c :: _ =>
    if Text.isDigit c then
      let (total, rest) := mantissa value text
      let taken := text.length - rest.length
      set (rest.dropWhile Text.isDigit)
      afterFraction negative total (power - taken)
    else malformed

def afterWhole (negative : Bool) (value extra : Nat) : Reader Number := do
  match (← get) with
  | '.' :: rest =>
    set rest
    fraction negative value extra
  | 'e' :: rest =>
    set rest
    exponent negative value extra
  | 'E' :: rest =>
    set rest
    exponent negative value extra
  | _ =>
    if 0 < extra then scaled negative value extra
    else if !negative then pure (.whole value)
    else if value = 0 ∨ 0x8000000000000000 < value then
      pure (signed true (UInt64.ofNat value).toFloat)
    else pure (.whole (-value))

def magnitude (negative : Bool) : Reader Number := do
  let text ← get
  match text with
  | [] => truncated
  | '0' :: rest =>
    if (rest.head?.map Text.isDigit).getD false then malformed
    else
      set rest
      afterWhole negative 0 0
  | c :: _ =>
    if Text.isDigit c then
      let (value, rest) := mantissa 0 text
      let extra := (rest.takeWhile Text.isDigit).length
      set (rest.drop extra)
      afterWhole negative value extra
    else malformed

end WireScript.Json.Reader
