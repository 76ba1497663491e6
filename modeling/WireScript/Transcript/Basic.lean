import WireScript.Bytes.Hex
import WireScript.Text.Outline
import WireScript.Transcript.Direction

set_option autoImplicit false

namespace WireScript

structure Segment where
  direction : Direction
  payload : Bytes
deriving DecidableEq, Repr

structure Transcript where
  segments : List Segment
deriving DecidableEq, Repr

namespace Segment

def expect (payload : Bytes) : Segment := ⟨.fromIut, payload⟩

def inject (payload : Bytes) : Segment := ⟨.toIut, payload⟩

def length (s : Segment) : Nat := s.payload.length

def flip (s : Segment) : Segment := ⟨s.direction.flip, s.payload⟩

def outline (s : Segment) : Text.Outline :=
  .record "Segment"
    [("direction", .atom s.direction.name), ("payload", .atom (Text.quoted (Hex.text s.payload)))]

end Segment

namespace Transcript

def empty : Transcript := ⟨[]⟩

def push (t : Transcript) (s : Segment) : Transcript := ⟨t.segments ++ [s]⟩

def expect (t : Transcript) (payload : Bytes) : Transcript := t.push (.expect payload)

def inject (t : Transcript) (payload : Bytes) : Transcript := t.push (.inject payload)

def flip (t : Transcript) : Transcript := ⟨t.segments.map Segment.flip⟩

def length (t : Transcript) : Nat := t.segments.length

def isEmpty (t : Transcript) : Bool := t.segments.isEmpty

def content (t : Transcript) (d : Direction) : Bytes :=
  (t.segments.filter (fun s => s.direction = d)).flatMap Segment.payload

def totalLength (t : Transcript) (d : Direction) : Nat := (t.content d).length

def outline (t : Transcript) : Text.Outline :=
  .record "Transcript" [("segments", .items (t.segments.map Segment.outline))]

@[simp] theorem segments_push (t : Transcript) (s : Segment) :
    (t.push s).segments = t.segments ++ [s] := rfl

end Transcript

end WireScript
