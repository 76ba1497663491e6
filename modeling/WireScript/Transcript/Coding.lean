import WireScript.Json.Document
import WireScript.Json.Record
import WireScript.Transcript.Event

set_option autoImplicit false

namespace WireScript

open Json (Document Reader Field Record Refusal)

namespace Direction

def document (d : Direction) : Document := .text d.key

def read : Reader Direction :=
  Reader.variant [(fromIut.key, fromIut), (toIut.key, toIut)]

end Direction

namespace Flow

def document (f : Flow) : Document := .text f.key

def read : Reader Flow :=
  Reader.variant [(sent.key, sent), (received.key, received)]

end Flow

namespace Perspective

def document (p : Perspective) : Document := .text p.key

def read : Reader Perspective :=
  Reader.variant [(iut.key, iut), (peer.key, peer)]

end Perspective

namespace Bytes

def document (data : Bytes) : Document := .text (Hex.text data)

def read : Reader Bytes :=
  Reader.text "a hex encoded string" (fun text => (Hex.decode text.toList).mapError Refusal.hex)

end Bytes

namespace Span

def document (d : Span) : Document :=
  .object [("secs", .number d.secs.toNat), ("nanos", .number d.nanos.val)]

structure Draft where
  secs : Option Nat
  nanos : Option Nat

def Draft.build (d : Draft) : Except Refusal Span := do
  let secs ← Json.require "secs" d.secs
  let nanos ← Json.require "nanos" d.nanos
  match Span.ofParts? (UInt64.ofNat secs) nanos with
  | some span => .ok span
  | none => .error .spanOverflow

def record : Record Draft Span where
  title := "struct Duration"
  listTitle := "struct Duration"
  fields :=
    [⟨"secs", fun d => d.secs.isSome, do
        let n ← Reader.natural Reader.wordMax "u64"
        pure (fun d => { d with secs := some n })⟩,
     ⟨"nanos", fun d => d.nanos.isSome, do
        let n ← Reader.natural 0xFFFFFFFF "u32"
        pure (fun d => { d with nanos := some n })⟩]
  blank := ⟨none, none⟩
  build := Draft.build
  strict := true
  padded := false

def read : Reader Span := record.read

end Span

namespace Segment

def document (s : Segment) : Document :=
  .object [("direction", s.direction.document), ("payload", Bytes.document s.payload)]

structure Draft where
  direction : Option Direction
  payload : Option Bytes

def Draft.build (d : Draft) : Except Refusal Segment := do
  let direction ← Json.require "direction" d.direction
  let payload ← Json.require "payload" d.payload
  .ok ⟨direction, payload⟩

def record : Record Draft Segment where
  title := "struct Segment"
  listTitle := "struct Segment with 2 elements"
  fields :=
    [⟨"direction", fun d => d.direction.isSome, do
        let v ← Direction.read
        pure (fun d => { d with direction := some v })⟩,
     ⟨"payload", fun d => d.payload.isSome, do
        let v ← Bytes.read
        pure (fun d => { d with payload := some v })⟩]
  blank := ⟨none, none⟩
  build := Draft.build
  strict := false
  padded := false

def read : Reader Segment := record.read

end Segment

namespace Transcript

def document (t : Transcript) : Document :=
  .object [("segments", .list (t.segments.map Segment.document))]

def record : Record (Option (List Segment)) Transcript where
  title := "struct Transcript"
  listTitle := "struct Transcript with 1 element"
  fields :=
    [⟨"segments", Option.isSome, do
        let v ← Reader.list Segment.read "a sequence"
        pure (fun _ => some v)⟩]
  blank := none
  build := fun d => do
    let segments ← Json.require "segments" d
    .ok ⟨segments⟩
  strict := false
  padded := false

def read : Reader Transcript := record.read

end Transcript

namespace Event

def document (e : Event) : Document :=
  .object
    [("seq", .number e.seq.toNat), ("flow", e.flow.document),
     ("payload", Bytes.document e.payload), ("elapsed", e.elapsed.document)]

structure Draft where
  seq : Option Nat
  flow : Option Flow
  payload : Option Bytes
  elapsed : Option Span

def Draft.build (d : Draft) : Except Refusal Event := do
  let seq ← Json.require "seq" d.seq
  let flow ← Json.require "flow" d.flow
  let payload ← Json.require "payload" d.payload
  let elapsed ← Json.require "elapsed" d.elapsed
  .ok ⟨UInt64.ofNat seq, flow, payload, elapsed⟩

def record : Record Draft Event where
  title := "struct RecordedEvent"
  listTitle := "struct RecordedEvent with 4 elements"
  fields :=
    [⟨"seq", fun d => d.seq.isSome, do
        let v ← Reader.natural Reader.wordMax "u64"
        pure (fun d => { d with seq := some v })⟩,
     ⟨"flow", fun d => d.flow.isSome, do
        let v ← Flow.read
        pure (fun d => { d with flow := some v })⟩,
     ⟨"payload", fun d => d.payload.isSome, do
        let v ← Bytes.read
        pure (fun d => { d with payload := some v })⟩,
     ⟨"elapsed", fun d => d.elapsed.isSome, do
        let v ← Span.read
        pure (fun d => { d with elapsed := some v })⟩]
  blank := ⟨none, none, none, none⟩
  build := Draft.build
  strict := false
  padded := false

def read : Reader Event := record.read

def readList : Reader (List Event) := Reader.list read "a sequence"

def listDocument (events : List Event) : Document := .list (events.map document)

def listOutline (events : List Event) : Text.Outline := .items (events.map outline)

end Event

end WireScript
