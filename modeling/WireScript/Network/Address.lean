import WireScript.Text.Digit
import WireScript.Wire.Failure

set_option autoImplicit false

namespace WireScript.Network

open Wire (Failure)

structure Address where
  host : List Char
  service : Nat
deriving DecidableEq, Repr

namespace Address

def noService : Failure := ⟨.invalidInput, some "invalid socket address"⟩

def badService : Failure := ⟨.invalidInput, some "invalid port value"⟩

def badHost : Failure := ⟨.invalidInput, some "file name contained an unexpected NUL byte"⟩

def splitLast? (text : List Char) : Option (List Char × List Char) :=
  let back := text.reverse
  match back.dropWhile (· != ':') with
  | [] => none
  | _ :: host => some (host.reverse, (back.takeWhile (· != ':')).reverse)

def number? (text : List Char) : Option Nat :=
  let digits :=
    match text with
    | '+' :: rest => rest
    | _ => text
  if digits.isEmpty then none
  else
    digits.foldl
      (fun value c => do
        let value ← value
        let digit ← Text.digitValue? c
        pure (10 * value + digit))
      (some 0)

-- The service is looked at before the host.
def parse (text : String) : Except Failure Address :=
  match splitLast? text.toList with
  | none => .error noService
  | some (host, service) =>
    match number? service with
    | some n =>
      if 65536 ≤ n then .error badService
      else if host.contains '\x00' then .error badHost
      else .ok ⟨host, n⟩
    | none => .error badService

end Address

end WireScript.Network
