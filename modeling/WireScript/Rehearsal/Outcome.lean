import WireScript.Party.Plan
import WireScript.Replay.Verdict
import WireScript.Time.Span

set_option autoImplicit false

namespace WireScript.Rehearsal

inductive Outcome
  | passed
  | failed (fault : Replay.Fault)
  | timedOut (name : String) (timeout : Span)
  | panicked (name : String)
  | clockOverflow
  | stalled
deriving DecidableEq, Repr

def Outcome.message : Outcome → String
  | .passed => "ok"
  | .failed fault => fault.message
  | .timedOut name timeout => s!"{name}: script did not complete within {timeout.label}"
  | .panicked name => s!"{name}: implementation under test panicked"
  | .clockOverflow => "overflow when adding duration to instant"
  | .stalled => "stalled"

structure Report where
  outcome : Outcome
  entries : List Party.Entry
  elapsed : Nat
deriving DecidableEq, Repr

end WireScript.Rehearsal
