import WireScript.Bytes.Hex
import WireScript.Wire.Failure

set_option autoImplicit false

namespace WireScript.Replay

inductive Cause
  | mismatch (offset : Nat) (expected actual : Bytes)
  | shortRead (expected actual : Nat)
  | stream (failure : Wire.Failure)
  | trailing (data : Bytes)
deriving DecidableEq, Repr

/-- A failed replay: the name of its script, the index of the segment, and the cause. What is
wrong after the last segment has the index one past it. -/
structure Fault where
  name : String
  index : Nat
  cause : Cause
deriving DecidableEq, Repr

abbrev Verdict := Except Fault Unit

def Cause.message : Cause → String
  | .mismatch offset expected actual =>
    s!"mismatch on read at offset {offset}: got:{Hex.text actual} want:{Hex.text expected}"
  | .shortRead expected actual => s!"short read: expected {expected} bytes, got {actual}"
  | .stream failure => s!"io error: {failure.message}"
  | .trailing data => s!"{data.length} unexpected trailing bytes: {Hex.text data}"

def Fault.message (e : Fault) : String :=
  s!"{e.name} #{e.index}: {e.cause.message}"

end WireScript.Replay
