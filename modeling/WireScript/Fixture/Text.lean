import WireScript.Fixture.Line
import WireScript.Text.Lines
import WireScript.Transcript.Basic

set_option autoImplicit false

namespace WireScript.Fixture

def bytesPerLine : Nat := 16

def header (index : Nat) (s : Segment) : List Char :=
  marker s.direction ++
    (s!" {index + 1} {s.direction.phrase} ({s.length} bytes)").toList ++ ['\n']

def payloadLines (data : Bytes) : List Char :=
  (Bytes.chunks bytesPerLine data).flatMap (fun chunk => Hex.encode chunk ++ ['\n'])

def renderFrom (index : Nat) : List Segment → List Char
  | [] => []
  | s :: rest => header index s ++ payloadLines s.payload ++ renderFrom (index + 1) rest

def render (t : Transcript) : List Char :=
  renderFrom 0 t.segments

inductive Cause
  | missingHeader
  | invalidHex (fault : Hex.Fault)
deriving DecidableEq, Repr

structure Fault where
  line : Nat
  cause : Cause
deriving DecidableEq, Repr

def Cause.message : Cause → String
  | .missingHeader => "payload before the first segment header"
  | .invalidHex fault => s!"invalid hex: {fault.message}"

def Fault.message (e : Fault) : String :=
  s!"fixture line {e.line}: {e.cause.message}"

structure Draft where
  complete : List Segment
  current : Option Segment
deriving DecidableEq, Repr

def Draft.finish (d : Draft) : List Segment :=
  d.complete ++ d.current.toList

def Draft.add (d : Draft) (number : Nat) : Line → Except Fault Draft
  | .remark => .ok d
  | .header direction => .ok ⟨d.finish, some ⟨direction, []⟩⟩
  | .payload text =>
    match d.current with
    | none => .error ⟨number, .missingHeader⟩
    | some s =>
      match Hex.decode (Text.squeeze text) with
      | .ok data => .ok { d with current := some { s with payload := s.payload ++ data } }
      | .error fault => .error ⟨number, .invalidHex fault⟩

def Draft.addAll (d : Draft) (number : Nat) : List (List Char) → Except Fault Draft
  | [] => .ok d
  | line :: rest =>
    match d.add number (Line.ofText line) with
    | .ok d => d.addAll (number + 1) rest
    | .error e => .error e

def parse (text : List Char) : Except Fault Transcript :=
  (Draft.addAll ⟨[], none⟩ 1 (Text.lines text)).map (fun d => ⟨d.finish⟩)

end WireScript.Fixture
