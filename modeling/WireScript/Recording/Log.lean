import WireScript.Transcript.Event

set_option autoImplicit false

namespace WireScript.Recording

structure Log where
  next : UInt64
  events : List Event
  clock : Span
deriving DecidableEq, Repr

namespace Log

def fresh : Log := ⟨0, [], .zero⟩

/-- Appends a transfer; one of nothing is left out. -/
def record (log : Log) (flow : Flow) (payload : Bytes) : Log :=
  if payload = [] then log
  else
    { log with
      next := log.next + 1
      events := log.events ++ [⟨log.next, flow, payload, log.clock⟩] }

def drain (log : Log) : List Event × Log := (log.events, { log with events := [] })

def length (log : Log) : Nat := log.events.length

def isEmpty (log : Log) : Bool := log.events.isEmpty

end Log

end WireScript.Recording
