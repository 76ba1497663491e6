import WireScript.Transcript.Basic

set_option autoImplicit false

namespace WireScript

structure NotAlternating where
  index : Nat
  direction : Direction
deriving DecidableEq, Repr

def NotAlternating.message (e : NotAlternating) : String :=
  s!"segment #{e.index} is {e.direction.phrase}, " ++
    "positional scripts must alternate starting with from iut"

namespace Transcript

def alternate (turn : Direction) : List Bytes → List Segment
  | [] => []
  | payload :: rest => ⟨turn, payload⟩ :: alternate turn.flip rest

def ofPositional (script : List Bytes) : Transcript :=
  ⟨alternate .fromIut script⟩

def payloads (index : Nat) (turn : Direction) : List Segment → Except NotAlternating (List Bytes)
  | [] => .ok []
  | s :: rest =>
    if s.direction = turn then (payloads (index + 1) turn.flip rest).map (s.payload :: ·)
    else .error ⟨index, s.direction⟩

def toPositional (t : Transcript) : Except NotAlternating (List Bytes) :=
  payloads 0 .fromIut t.segments

end Transcript

end WireScript
