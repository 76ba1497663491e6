import WireScript.Time.Span
import WireScript.Transcript.Basic

set_option autoImplicit false

namespace WireScript

structure Event where
  seq : UInt64
  flow : Flow
  payload : Bytes
  elapsed : Span
deriving DecidableEq, Repr

def Event.outline (e : Event) : Text.Outline :=
  .record "RecordedEvent"
    [("seq", .atom (toString e.seq.toNat)), ("flow", .atom e.flow.name),
     ("payload", .atom (Text.quoted (Hex.text e.payload))), ("elapsed", e.elapsed.outline)]

def Event.segment (e : Event) (p : Perspective) : Segment :=
  ⟨p.direction e.flow, e.payload⟩

namespace Transcript

def prepend (s : Segment) : List Segment → List Segment
  | [] => [s]
  | t :: rest =>
    if t.direction = s.direction then ⟨s.direction, s.payload ++ t.payload⟩ :: rest
    else s :: t :: rest

/-- Joins neighbours of one direction and leaves out empty segments. -/
def coalesce : List Segment → List Segment
  | [] => []
  | s :: rest => if s.payload = [] then coalesce rest else prepend s (coalesce rest)

def ofEvents (p : Perspective) (events : List Event) : Transcript :=
  ⟨coalesce (events.map (·.segment p))⟩

end Transcript

end WireScript
