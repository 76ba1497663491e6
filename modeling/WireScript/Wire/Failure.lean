set_option autoImplicit false

namespace WireScript.Wire

inductive FailureKind
  | brokenPipe
  | connectionReset
  | connectionAborted
  | connectionRefused
  | notConnected
  | interrupted
  | wouldBlock
  | timedOut
  | unexpectedEnd
  | invalidInput
  | invalidData
  | writeZero
  | permissionDenied
  | other
deriving DecidableEq, Repr

def FailureKind.phrase : FailureKind → String
  | .brokenPipe => "broken pipe"
  | .connectionReset => "connection reset"
  | .connectionAborted => "connection aborted"
  | .connectionRefused => "connection refused"
  | .notConnected => "not connected"
  | .interrupted => "operation interrupted"
  | .wouldBlock => "operation would block"
  | .timedOut => "timed out"
  | .unexpectedEnd => "unexpected end of file"
  | .invalidInput => "invalid input parameter"
  | .invalidData => "invalid data"
  | .writeZero => "write zero"
  | .permissionDenied => "permission denied"
  | .other => "other error"

structure Failure where
  kind : FailureKind
  detail : Option String
deriving DecidableEq, Repr

namespace Failure

def ofKind (kind : FailureKind) : Failure := ⟨kind, none⟩

def message (e : Failure) : String := e.detail.getD e.kind.phrase

end Failure

end WireScript.Wire
